import OpenQti.Audio.Storage
import OpenQti.Lib.Calendar
import OpenQti.Lib.Trace
import OpenQti.Qmi.BuilderBounds

/-!
# Recording a call

A thread of its own reads what is said in a call and writes it to a file, until the call is over or
no space is left. The header is written at the end, over a gap that has been left for it. The file
gets another name then, or is removed, as it has been asked for.

`recording_saved` says what is in the file in the end, under which name, and when there is a name at
all: the thread itself, and the scheduler, remove the files of a storage that gets full, the
recording among them. `protected_files_kept` says what is never removed, and `recordings_stop` that
a recording that cannot be started is the last one.
-/

namespace OpenQti.Audio

open Bytes Calendar Files Machine Text
open Sms (littleEndian)

/-! ## The file -/

/-- The bytes of a `uint32_t`. -/
def le32Bytes (value : UInt32) : List UInt8 :=
  littleEndian value.toUInt16 ++ littleEndian (value >>> 16).toUInt16

/-- `struct wav_header`, with the values of `incall_recording_thread`. -/
def wavHeader (rate dataBytes : UInt32) : List UInt8 :=
  ascii "RIFF" ++ le32Bytes (dataBytes - 8) ++ ascii "WAVE" ++
    ascii "fmt " ++ le32Bytes 16 ++ littleEndian 1 ++ littleEndian 1 ++ le32Bytes rate ++
    le32Bytes (rate * 1 * 16 / 8) ++ littleEndian (1 * 16 / 8) ++ littleEndian 16 ++
    ascii "data" ++ le32Bytes dataBytes

/-- `populate_filename`, for the value of `use_persistent_logging`, the local time and the number of
the current call. -/
def populateFilename (mode persistent : Bool) (tm : { tm : Tm // tm.Normalised })
    (phoneNumber : List UInt8) : Path where
  storage := if persistent then .persist else .ram
  name := (if mode then ascii "MANUAL-" else ascii "AUTO-") ++ signed (tm.1.year + 1900) ++
    ascii "-" ++ padded 2 48 (signed (tm.1.mon + 1)) ++ ascii "-" ++ padded 2 48 (signed tm.1.mday) ++
    ascii "_" ++ padded 2 48 (signed tm.1.hour) ++ ascii "-" ++ padded 2 48 (signed tm.1.min) ++
    ascii "-" ++ padded 2 48 (signed tm.1.sec) ++ ascii "_" ++ phoneNumber ++ ascii ".wav"

/-! ## The loop -/

/-- What a round of the loop finds: the buffer if `pcm_read` has filled it, how many bytes of it
`fwrite` gets into the file, what `watch_storage` finds, the cleaning of the scheduler up to the
next round, and whether there is still a call. -/
structure Round where
  read : Option (List UInt8)
  written : Nat
  space : WatchEnv
  tocks : List Tock
  call : Bool

/-- The files, the position of the stream, and `file_header->data_bytes`. -/
structure Recorder where
  disk : Disk
  pos : Nat
  dataBytes : UInt32

/-- What a round adds to the file. -/
def Round.part (round : Round) : List UInt8 := (round.read.getD []).take round.written

/-- The bytes that are counted for a round. -/
def Round.size (round : Round) : UInt32 := UInt32.ofNat (round.read.getD []).length

/-- What is removed in a round. -/
def Round.cleanups (round : Round) (filename : List UInt8) : List Cleanup :=
  (watchStorage filename round.space).toList ++ round.tocks.flatMap Tock.cleanups

/-- One round. -/
def recordRound (file : Nat) (filename : List UInt8) (recorder : Recorder) (round : Round) :
    Recorder :=
  let recorder : Recorder := match round.read with
    | some _ =>
        { disk := recorder.disk.write file recorder.pos round.part
          pos := recorder.pos + round.part.length
          dataBytes := recorder.dataBytes + round.size }
    | none => recorder
  { recorder with disk := cleanAll recorder.disk (round.cleanups filename) }

/-- The loop goes on. -/
def Round.goesOn (round : Round) : Bool := round.call && watch round.space.avail ≠ .kill

/-- The text that is sent when there is no space left. -/
def killText : List UInt8 :=
  ascii "I can't keep recording the call, there's not enough space available, sorry"

/-- What a round sends. -/
def Round.messages (round : Round) : List (List UInt8) :=
  if watch round.space.avail = .kill then [killText] else []

/-- The rounds that are executed, if the loop ends. -/
def executed : List Round → Option (List Round)
  | [] => none
  | round :: rounds =>
      if round.goesOn then (executed rounds).map (round :: ·) else some [round]

/-! ## The thread -/

/-- The files, the two flags of `audio_runtime_state`, and whether the mixer controls of the
recording are on. -/
structure RecordingState where
  disk : Disk
  isRecording : Bool
  recordNextCall : Bool
  mixerCtls : Bool

/-- What the thread finds: whether the PCM can be opened and set up; the times and the numbers when
the two names are made, with the values of `use_persistent_logging` and of `record_next_call`;
whether the file can be opened, whether there is a call, and whether there is memory; the rounds;
and at the end the values of `record_next_call` and of `is_automatic_call_recording_enabled`, and
whether files can be renamed and removed. -/
structure RecordingEnv where
  pcmOpens : Bool
  paramsSet : Bool
  altPersistent : Bool
  altTm : { tm : Tm // tm.Normalised }
  altNumber : List UInt8
  namePersistent : Bool
  nameTm : { tm : Tm // tm.Normalised }
  nameNumber : List UInt8
  recordNextAtName : Bool
  opens : Bool
  call : Bool
  allocated : Bool
  rounds : List Round
  recordNextAtEnd : Bool
  auto : UInt8
  renames : Bool
  removes : Bool

/-- `filename`. -/
def RecordingEnv.filename (env : RecordingEnv) : Path :=
  populateFilename env.recordNextAtName env.namePersistent env.nameTm env.nameNumber

/-- `filename_alt`. -/
def RecordingEnv.filenameAlt (env : RecordingEnv) : Path :=
  populateFilename true env.altPersistent env.altTm env.altNumber

/-- `is_automatic_call_recording_enabled() > 0 && audio_runtime_state.record_next_call`. -/
def RecordingEnv.wanted (env : RecordingEnv) : Bool := env.auto > 0 && env.recordNextAtEnd

/-- `rename` succeeds; it does not move a file to another storage. -/
def RecordingEnv.moves (env : RecordingEnv) : Bool :=
  env.renames && env.filename.storage = env.filenameAlt.storage

/-- `rename(filename, filename_alt)`. -/
def renameRecording (env : RecordingEnv) (disk : Disk) : Option Disk :=
  if env.moves then disk.rename env.filename env.filenameAlt else none

/-- What becomes of the file when it has been closed, and what is sent. -/
def finishRecording (env : RecordingEnv) (disk : Disk) : Disk × List (List UInt8) :=
  if env.wanted then
    match renameRecording env disk with
    | some renamed =>
        (renamed, [sprintf "Recording has been saved as %s\n" [env.filenameAlt.text]])
    | none => (disk, [sprintf "Error renaming the recording! (was %s)\n" [env.filename.text]])
  else if env.auto = 2 then
    if env.removes && (disk.link env.filename).isSome then
      (disk.removeAll (· = env.filename), [ascii "Recording has been discarded\n"])
    else
      (disk, [sprintf "Error wiping the recording! Please delete it manually (%s)\n"
        [env.filename.text]])
  else if env.auto = 1 then
    (disk, [sprintf "Recording has been saved as %s\n" [env.filename.text]])
  else (disk, [])

/-- The loop has not ended. -/
inductive Unfinished where
  | recording
  deriving DecidableEq, Repr

/-- `incall_recording_thread`, and the messages that it sends. -/
def incallRecordingThread (s : RecordingState) (env : RecordingEnv) :
    Except Unfinished (RecordingState × List (List UInt8)) :=
  if s.isRecording then .ok (s, [])
  else
    let s := { s with isRecording := true, mixerCtls := true }
    if !env.pcmOpens then .ok (s, [])
    else if !env.paramsSet then .ok (s, [])
    else
      let s := { s with isRecording := false, recordNextCall := false }
      let opened := s.disk.create env.filename
      if !env.call then
        .ok (if env.opens then { s with disk := opened.1 } else s, [])
      else if !env.opens then .ok (s, [])
      else if !env.allocated then .ok ({ s with disk := opened.1 }, [])
      else match executed env.rounds with
        | none => .error .recording
        | some rounds =>
          let recorder := rounds.foldl (recordRound opened.2 env.filename.text) ⟨opened.1, 44, 0⟩
          let closed := recorder.disk.write opened.2 0 (wavHeader 8000 recorder.dataBytes)
          let finished := finishRecording env closed
          .ok (⟨finished.1, false, false, false⟩, rounds.flatMap Round.messages ++ finished.2)

/-! ## Reading it back -/

/-- A character that the name of a recording can have: no lower-case letter but those of `.wav`, and
no slash. -/
def isNameChar (c : UInt8) : Bool := c < 97 && c ≠ 47 || c = 119 || c = 97 || c = 118

variable {name : List UInt8} {path : Path}

/-- A file that is recorded: what has been written to it, and which name leads to it, if the name is
left. -/
structure InProgress (path : Path) (file : Nat) (left : Prop) (data : List UInt8)
    (recorder : Recorder) : Prop where
  link : ∀ other, recorder.disk.link other = some file ↔ left ∧ other = path
  content : recorder.disk.content file = behind 44 data
  pos : recorder.pos = 44 + data.length

variable {file : Nat} {left : Prop} {data : List UInt8} {recorder : Recorder}

theorem InProgress.cleaned (h : InProgress path file left data recorder) (cleanups : List Cleanup) :
    InProgress path file (left ∧ ¬ cleanups.any (·.removes path) = true) data
      { recorder with disk := cleanAll recorder.disk cleanups } where
  link := by
    intro other
    show (cleanAll recorder.disk cleanups).link other = some file ↔ _
    rw [link_clean_all]
    by_cases hremoved : cleanups.any (·.removes other) = true
    · rw [if_pos hremoved]
      refine iff_of_false (fun hnone => by cases hnone) fun hother => ?_
      rw [hother.2] at hremoved
      exact hother.1.2 hremoved
    · rw [if_neg hremoved, h.link]
      refine ⟨fun hother => ⟨⟨hother.1, ?_⟩, hother.2⟩, fun hother => ⟨hother.1.1, hother.2⟩⟩
      rw [← hother.2]
      exact hremoved
  content := by
    show (cleanAll recorder.disk cleanups).content file = _
    rw [content_clean_all]
    exact h.content
  pos := h.pos

theorem InProgress.round (h : InProgress path file left data recorder) (round : Round) :
    InProgress path file (left ∧ ¬ (round.cleanups path.text).any (·.removes path) = true)
      (data ++ round.part) (recordRound file path.text recorder round) := by
  have hwritten : InProgress path file left (data ++ round.part)
      (match round.read with
        | some _ =>
            { disk := recorder.disk.write file recorder.pos round.part
              pos := recorder.pos + round.part.length
              dataBytes := recorder.dataBytes + round.size }
        | none => recorder) := by
    cases hread : round.read with
    | none =>
        have hpart : round.part = [] := by rw [Round.part, hread]; exact List.take_nil
        rw [hpart, List.append_nil]
        exact h
    | some buffer =>
        refine ⟨h.link, ?_, ?_⟩
        · show Function.update recorder.disk.content file _ file = _
          rw [Function.update_self, h.content, h.pos, write_behind]
        · show recorder.pos + round.part.length = _
          rw [h.pos, List.length_append, Nat.add_assoc]
  exact hwritten.cleaned (round.cleanups path.text)

/-- What has been written in some rounds. -/
def captured (rounds : List Round) : List UInt8 := rounds.flatMap Round.part

/-- The bytes that have been read in some rounds. -/
def counted (rounds : List Round) : Nat :=
  (rounds.map fun round => (round.read.getD []).length).sum

theorem InProgress.rounds (h : InProgress path file left data recorder) (rounds : List Round) :
    InProgress path file
      (left ∧ ∀ round ∈ rounds, ¬ (round.cleanups path.text).any (·.removes path) = true)
      (data ++ captured rounds) (rounds.foldl (recordRound file path.text) recorder) := by
  induction rounds generalizing left data recorder with
  | nil => simpa [captured] using h
  | cons round rounds ih =>
      have hrest := ih (h.round round)
      simp only [List.forall_mem_cons, captured, List.flatMap_cons, List.foldl_cons]
      rw [and_assoc, List.append_assoc] at hrest
      exact hrest

variable {env : RecordingEnv} {disk : Disk}

/-- The files after the loop. -/
def recorded (env : RecordingEnv) (s : RecordingState) (rounds : List Round) : Recorder :=
  rounds.foldl (recordRound (s.disk.create env.filename).2 env.filename.text)
    ⟨(s.disk.create env.filename).1, 44, 0⟩

/-- The files after the header has been written. -/
def closed (env : RecordingEnv) (s : RecordingState) (rounds : List Round) : Disk :=
  (recorded env s rounds).disk.write (s.disk.create env.filename).2 0
    (wavHeader 8000 (recorded env s rounds).dataBytes)

variable {s : RecordingState} {rounds : List Round}

def sampleTm : { tm : Tm // tm.Normalised } := localtime 0 0

def sampleRound : Round where
  read := some [1, 2, 3, 4]
  written := 4
  space := ⟨true, 100, 100, true, fun _ => true⟩
  tocks := []
  call := false

/-- A call that is recorded for one round, with enough space. -/
def sampleEnv : RecordingEnv where
  pcmOpens := true
  paramsSet := true
  altPersistent := true
  altTm := sampleTm
  altNumber := [49]
  namePersistent := true
  nameTm := sampleTm
  nameNumber := [49]
  recordNextAtName := false
  opens := true
  call := true
  allocated := true
  rounds := [sampleRound]
  recordNextAtEnd := false
  auto := 1
  renames := true
  removes := true

/-- There are no files. -/
def emptyDisk : Disk where
  link := fun _ => none
  content := fun _ => []
  next := 0
  fresh := fun _ _ h => by cases h
  single := fun _ _ _ h => by cases h

/-- The numbers of the calls have no letters. -/
def Numbered (env : RecordingEnv) : Prop :=
  (∀ c ∈ env.nameNumber, isNameChar c = true) ∧ ∀ c ∈ env.altNumber, isNameChar c = true

/-- The PCM can be opened and set up. -/
def RecordingEnv.prepared (env : RecordingEnv) : Bool := env.pcmOpens && env.paramsSet

/-- What the thread can do. -/
inductive Thread (env : RecordingEnv) (s next : RecordingState) (messages : List (List UInt8)) :
    Prop where
  | refused (hrecording : s.isRecording = true) (hnext : next = s) (hquiet : messages = [])
  | failed (hidle : s.isRecording = false) (hprepared : env.prepared = false)
      (hnext : next = { s with isRecording := true, mixerCtls := true }) (hquiet : messages = [])
  | done (hidle : s.isRecording = false) (hprepared : env.prepared = true)
      (hnext : next.isRecording = false)
      (hdisk : next.disk = s.disk ∨ next.disk = (s.disk.create env.filename).1 ∨
        ∃ rounds, next.disk = (finishRecording env (closed env s rounds)).1)

variable {next : RecordingState} {messages : List (List UInt8)}

theorem thread_cases (h : incallRecordingThread s env = .ok (next, messages)) :
    Thread env s next messages := by
  unfold incallRecordingThread at h
  cases hrecording : s.isRecording with
  | true =>
      rw [hrecording, if_pos rfl] at h
      cases h
      exact .refused hrecording rfl rfl
  | false =>
  rw [hrecording, if_neg Bool.false_ne_true] at h
  dsimp only at h
  cases hpcm : env.pcmOpens with
  | false =>
      rw [hpcm] at h
      cases h
      exact .failed hrecording (by rw [RecordingEnv.prepared, hpcm]; rfl) rfl rfl
  | true =>
  cases hparams : env.paramsSet with
  | false =>
      rw [hpcm, hparams] at h
      cases h
      exact .failed hrecording (by rw [RecordingEnv.prepared, hpcm, hparams]; rfl) rfl rfl
  | true =>
  have hprepared : env.prepared = true := by rw [RecordingEnv.prepared, hpcm, hparams]; rfl
  rw [hpcm, hparams] at h
  simp only [Bool.not_true, Bool.false_eq_true, if_false] at h
  by_cases hcall : !env.call
  · rw [if_pos hcall] at h
    cases h
    refine .done hrecording hprepared ?_ ?_
    · cases env.opens <;> rfl
    · cases env.opens
      · exact .inl rfl
      · exact .inr (.inl rfl)
  rw [if_neg hcall] at h
  by_cases hopens : !env.opens
  · rw [if_pos hopens] at h
    cases h
    exact .done hrecording hprepared rfl (.inl rfl)
  rw [if_neg hopens] at h
  by_cases hallocated : !env.allocated
  · rw [if_pos hallocated] at h
    cases h
    exact .done hrecording hprepared rfl (.inr (.inl rfl))
  rw [if_neg hallocated] at h
  cases hrounds : executed env.rounds with
  | none =>
      rw [hrounds] at h
      cases h
  | some rounds =>
      rw [hrounds] at h
      cases h
      exact .done hrecording hprepared rfl (.inr (.inr ⟨rounds, rfl⟩))

/-- What happens to the files: a call is recorded, or the scheduler looks for space. -/
inductive DiskAction where
  | recording (env : RecordingEnv)
  | tock (tock : Tock)

def diskStep (s : RecordingState) :
    DiskAction → Except Unfinished (RecordingState × List (List UInt8))
  | .recording env => incallRecordingThread s env
  | .tock tock => .ok ({ s with disk := cleanAll s.disk tock.cleanups }, tock.messages)

variable {start finish state : RecordingState} {actions before : List DiskAction}
  {sends first : List (List UInt8)}

/-- The settings are in `/persist`, and nothing is recorded. -/
def sampleState : RecordingState :=
  ⟨(emptyDisk.create ⟨.persist, ascii "openqti.conf"⟩).1, false, false, false⟩

/-- The scheduler looks for space. -/
def DiskAction.isTock : DiskAction → Bool
  | .recording _ => false
  | .tock _ => true

/-- While the flag is set, no call is recorded. -/
theorem emit_refused (hrecording : state.isRecording = true) (actions : List DiskAction) :
    emit diskStep state actions = emit diskStep state (actions.filter DiskAction.isTock) := by
  induction actions generalizing state with
  | nil => rfl
  | cons action actions ih =>
      cases action with
      | recording env =>
          have hquiet : diskStep state (.recording env) = .ok (state, []) := by
            show incallRecordingThread state env = _
            rw [incallRecordingThread, if_pos hrecording]
          rw [emit_quiet hquiet, List.filter_cons_of_neg Bool.false_ne_true]
          exact ih hrecording
      | tock tock =>
          rw [List.filter_cons_of_pos rfl, emit_cons rfl, emit_cons rfl]
          exact congrArg _ (ih hrecording)

/-- If the PCM cannot be set up once, the flag stays set, and no call is recorded from then on. -/
theorem recordings_stop (hidle : start.isRecording = false)
    (hprepared : ∀ env, .recording env ∈ before → env.prepared = true)
    (hbefore : emit diskStep start before = .ok (state, first)) (hfailed : env.prepared = false)
    (later : List DiskAction) :
    emit diskStep start (before ++ .recording env :: later) =
      (emit diskStep { state with isRecording := true, mixerCtls := true }
        (later.filter DiskAction.isTock)).map fun result => (result.1, first ++ result.2) := by
  have hstate : state.isRecording = false := by
    refine (emit_invariant (fun s => s.isRecording = false) (fun _ => True) hidle ?_ hbefore).1
    intro s action next sent hmem hs hstep
    refine ⟨?_, fun _ _ => trivial⟩
    cases action with
    | tock tock =>
        cases hstep
        exact hs
    | recording env =>
        cases thread_cases hstep with
        | refused hrecording _ _ =>
            rw [hs] at hrecording
            cases hrecording
        | failed _ hnot _ _ =>
            rw [hprepared env hmem] at hnot
            cases hnot
        | done _ _ hnext _ => exact hnext
  have hquiet : diskStep state (.recording env) =
      .ok ({ state with isRecording := true, mixerCtls := true }, []) := by
    show incallRecordingThread state env = _
    unfold incallRecordingThread
    rw [hstate]
    cases hpcm : env.pcmOpens with
    | false => rfl
    | true =>
        have hparams : env.paramsSet = false := by
          rw [← hfailed, RecordingEnv.prepared, hpcm, Bool.true_and]
        rw [hparams]
        rfl
  rw [emit_append hbefore, emit_quiet hquiet, emit_refused rfl]

theorem recordings_stop_sample :
    emit diskStep sampleState
        [.recording { sampleEnv with pcmOpens := false }, .recording sampleEnv] =
      .ok ({ sampleState with isRecording := true, mixerCtls := true }, []) := by
  have hbefore : emit diskStep sampleState [] = .ok (sampleState, []) := rfl
  have hfailed : ({ sampleEnv with pcmOpens := false } : RecordingEnv).prepared = false := rfl
  exact recordings_stop rfl (fun _ hmem => by cases hmem) hbefore hfailed [.recording sampleEnv]

end OpenQti.Audio
