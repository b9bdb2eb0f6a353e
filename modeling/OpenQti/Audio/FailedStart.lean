import OpenQti.Audio.Routing

/-!
# Starts that fail

`start_audio` switches the controls of a call on first, and opens and starts the PCM devices then.
Each of the failures on the way has its own clean-up, which closes the devices; none of them
switches the controls off again, and `stop_audio` does not do it later because there is no call.
`failed_start_undone_iff` says when a failed start leaves nothing behind.

The functions are those of `OpenQti.Audio.Runtime`, with the outcomes of the operations that may
fail and with the devices that are open (`start_audio_with_success`).
-/

namespace OpenQti.Audio

/-! ## Operations that may fail -/

/-- The two PCM devices of a call. -/
inductive PcmStream where
  | rx
  | tx
  deriving DecidableEq, Repr

/-- The audio, whether there is a handle of the mixer, and the PCM devices that are open. -/
structure Devices where
  audio : AudioState
  mixer : Bool
  opened : List PcmStream

/-- Which of the operations of `start_audio` succeed. -/
structure StartOutcomes where
  mixerOpen : Bool
  pcmOpenRx : Bool
  pcmOpenTx : Bool
  setParamsRx : Bool
  setParamsTx : Bool
  prepareRx : Bool
  prepareTx : Bool
  startTx : Bool
  startRx : Bool
  deriving DecidableEq, Repr

variable (s : Devices)

/-- `pcm_open(flags, device)`, successfully. -/
def pcmOpen (stream : PcmStream) : Devices := { s with opened := stream :: s.opened }

/-- `pcm_close(pcm)`. -/
def pcmClose (stream : PcmStream) : Devices := { s with opened := s.opened.erase stream }

/-- `pcm_rx` and `pcm_tx` are both set, or not. -/
def setPcm (pcm : Bool) : Devices := { s with audio := { s.audio with pcm := pcm } }

/-- The part of `start_audio` from the first device on. -/
def openDevices (o : StartOutcomes) (type : CallStatus) : Devices :=
  if !o.pcmOpenRx then setPcm s false
  else
    let s := pcmOpen s .rx
    if !o.pcmOpenTx then pcmClose (setPcm s false) .rx
    else
      let s := setPcm (pcmOpen s .tx) true
      if !o.setParamsRx then pcmClose (pcmClose s .rx) .tx
      else if !o.setParamsTx then pcmClose (pcmClose s .tx) .rx
      else if !o.prepareRx then pcmClose (pcmClose s .rx) .tx
      else if !o.prepareTx then pcmClose (pcmClose s .tx) .rx
      else if !o.startTx then pcmClose (pcmClose s .tx) .rx
      else if !o.startRx then pcmClose (pcmClose s .rx) .tx
      else { s with audio := { s.audio with currentCallState := type } }

/-- The part of `start_audio` after the checks. -/
def setUpWith (o : StartOutcomes) (type : CallStatus) : Devices :=
  if !s.mixer ∧ !o.mixerOpen then s
  -- a type that is none of a call is refused before the voice controls are switched
  else if type = .idle then { s with mixer := true }
  else
    openDevices
      { s with
        mixer := true
        audio := setMixerCtls s.audio (voiceCtls s.audio.outputDevice type) true } o type

/-- `stop_audio()`. -/
def stopAudioWith (mixerOpen : Bool) : Devices :=
  let s := { s with audio := { s.audio with currentActiveCallId := 0 } }
  if s.audio.currentCallState = .idle ∨ !s.audio.pcm then s
  else
    let s := pcmClose (pcmClose s .tx) .rx
    if !s.mixer ∧ !mixerOpen then s
    else { s with mixer := true, audio := stopAudio s.audio }

/-- `start_audio(type)`. -/
def startAudioWith (o : StartOutcomes) (type : CallStatus) : Devices :=
  if s.audio.currentCallState ≠ .idle ∧ type ≠ s.audio.currentCallState then
    setUpWith (stopAudioWith s o.mixerOpen) o type
  else if s.audio.currentCallState ≠ .idle ∧ type = s.audio.currentCallState then s
  else setUpWith s o type

/-! ## The property -/

/-- The states differ at most in the handle of the mixer and the pointers to the devices. -/
structure AlikeDevices (a b : Devices) : Prop where
  audio : { a.audio with pcm := false } = { b.audio with pcm := false }
  opened : a.opened = b.opened

/-- An attempt has left nothing behind: no control, no call and no open device; and what comes later
is as it would have been, as long as the mixer can be opened. -/
structure Undone (before after : Devices) : Prop where
  mixer : after.audio.mixer = before.audio.mixer
  idle : after.audio.currentCallState = .idle
  opened : after.opened = before.opened
  stop : AlikeDevices (stopAudioWith after true) (stopAudioWith before true)
  start : ∀ (o : StartOutcomes) (type : CallStatus), o.mixerOpen = true →
    AlikeDevices (startAudioWith after o type) (startAudioWith before o type)

/-- A start that does not end in the call leaves nothing behind. -/
def AllOrNothing (o : StartOutcomes) (type : CallStatus) : Prop :=
  (startAudioWith s o type).audio.currentCallState ≠ type → Undone s (startAudioWith s o type)

/-- The devices are opened and started. -/
def StartOutcomes.Started (o : StartOutcomes) : Prop :=
  o.pcmOpenRx ∧ o.pcmOpenTx ∧ o.setParamsRx ∧ o.setParamsTx ∧ o.prepareRx ∧ o.prepareTx ∧
    o.startTx ∧ o.startRx

instance (o : StartOutcomes) : Decidable o.Started := inferInstanceAs (Decidable (_ ∧ _))

/-- The controls are switched: there is a mixer, and the type is that of a call. -/
def Switches (o : StartOutcomes) (type : CallStatus) : Prop :=
  (s.mixer = true ∨ o.mixerOpen = true) ∧ type ≠ .idle

/-! ## What a start does -/

variable {s} {o : StartOutcomes} {type : CallStatus}

theorem setMixerCtls_eq (audio : AudioState) (ctls : List VoiceCtl) (value : Bool) :
    setMixerCtls audio ctls value =
      { audio with mixer := fun ctl => if ctl ∈ ctls then value else audio.mixer ctl } := by
  induction ctls generalizing audio with
  | nil => rfl
  | cons first ctls ih =>
      show setMixerCtls (setMixerCtl audio first value) ctls value = _
      rw [ih]
      simp only [setMixerCtl, AudioState.mk.injEq, true_and, and_true]
      funext ctl
      by_cases hmem : ctl ∈ ctls
      · simp [hmem]
      · by_cases hfirst : ctl = first
        · simp [hfirst]
        · simp [hmem, hfirst]

/-- A device that is opened and closed again. -/
theorem close_first (s : Devices) :
    pcmClose (setPcm (pcmOpen s .rx) false) .rx = setPcm s false := by
  simp [setPcm, pcmOpen, pcmClose]

/-- Two devices that are opened and closed again, in either order. -/
theorem close_both (s : Devices) :
    pcmClose (pcmClose (setPcm (pcmOpen (pcmOpen s .rx) .tx) true) .rx) .tx = setPcm s true ∧
      pcmClose (pcmClose (setPcm (pcmOpen (pcmOpen s .rx) .tx) true) .tx) .rx = setPcm s true := by
  simp [setPcm, pcmOpen, pcmClose]

/-- The devices are opened and the call is there; or something fails, and both are closed. -/
theorem open_devices_spec (s : Devices) (o : StartOutcomes) (type : CallStatus) :
    (o.Started ∧ openDevices s o type =
        { s with
          audio := { s.audio with pcm := true, currentCallState := type }
          opened := .tx :: .rx :: s.opened }) ∨
      (¬ o.Started ∧ ∃ pcm, openDevices s o type = setPcm s pcm) := by
  obtain ⟨hrxFirst, htxFirst⟩ := close_both s
  obtain ⟨mixerOpen, rx, tx, paramsRx, paramsTx, prepareRx, prepareTx, startTx, startRx⟩ := o
  -- in the order of the source, each operation fails or the next one follows
  cases rx
  · exact .inr ⟨fun h => Bool.false_ne_true h.1, false, rfl⟩
  cases tx
  · exact .inr ⟨fun h => Bool.false_ne_true h.2.1, false, close_first s⟩
  cases paramsRx
  · exact .inr ⟨fun h => Bool.false_ne_true h.2.2.1, true, hrxFirst⟩
  cases paramsTx
  · exact .inr ⟨fun h => Bool.false_ne_true h.2.2.2.1, true, htxFirst⟩
  cases prepareRx
  · exact .inr ⟨fun h => Bool.false_ne_true h.2.2.2.2.1, true, hrxFirst⟩
  cases prepareTx
  · exact .inr ⟨fun h => Bool.false_ne_true h.2.2.2.2.2.1, true, htxFirst⟩
  cases startTx
  · exact .inr ⟨fun h => Bool.false_ne_true h.2.2.2.2.2.2.1, true, htxFirst⟩
  cases startRx
  · exact .inr ⟨fun h => Bool.false_ne_true h.2.2.2.2.2.2.2, true, hrxFirst⟩
  · exact .inl ⟨⟨rfl, rfl, rfl, rfl, rfl, rfl, rfl, rfl⟩, rfl⟩

/-- What a start does without a call. -/
theorem start_idle (hidle : s.audio.currentCallState = .idle) (o : StartOutcomes)
    (type : CallStatus) : startAudioWith s o type = setUpWith s o type := by
  rw [startAudioWith, if_neg (by simp [hidle]), if_neg (by simp [hidle])]

/-- A start that does not get to the devices. -/
theorem set_up_refused (h : ¬ Switches s o type) :
    ∃ mixer, setUpWith s o type = { s with mixer := mixer } := by
  unfold setUpWith
  split_ifs with hmixer htype
  · exact ⟨s.mixer, rfl⟩
  · exact ⟨true, rfl⟩
  · refine absurd ⟨?_, htype⟩ h
    by_contra hnone
    simp only [not_or, Bool.not_eq_true] at hnone
    exact hmixer (by simp [hnone.1, hnone.2])

/-- A start that gets to the devices has switched the controls. -/
theorem set_up_switched (h : Switches s o type) :
    setUpWith s o type = openDevices
      { s with
        mixer := true
        audio := setMixerCtls s.audio (voiceCtls s.audio.outputDevice type) true } o type := by
  unfold setUpWith
  have hmixer : ¬ ((!s.mixer) = true ∧ (!o.mixerOpen) = true) := by
    rcases h.1 with hopen | hopen <;> simp [hopen]
  rw [if_neg hmixer, if_neg h.2]

/-- Without failures this is the start of `OpenQti.Audio.Runtime`. -/
theorem start_audio_with_success (hstarted : o.Started) (hmixer : o.mixerOpen = true) :
    (startAudioWith s o type).audio = startAudio s.audio type := by
  have hsetUp : ∀ state : Devices,
      (setUpWith state o type).audio = setUpAudio state.audio type := by
    intro state
    by_cases htype : type = .idle
    · obtain ⟨mixer, hrefused⟩ := set_up_refused (s := state) (o := o) (fun h => h.2 htype)
      rw [hrefused, setUpAudio, if_pos htype]
    · rw [set_up_switched ⟨.inr hmixer, htype⟩, setUpAudio, if_neg htype]
      rcases open_devices_spec { state with
          mixer := true
          audio := setMixerCtls state.audio (voiceCtls state.audio.outputDevice type) true } o type
        with ⟨-, hopen⟩ | ⟨hnot, -⟩
      · rw [hopen]
      · exact absurd hstarted hnot
  have hstop : (stopAudioWith s o.mixerOpen).audio = stopAudio s.audio := by
    simp only [stopAudioWith, hmixer, Bool.not_true, Bool.false_eq_true, and_false, if_false]
    split_ifs with hnothing
    · simp only [stopAudio]
      rcases hnothing with hidle | hpcm
      · rw [if_pos hidle]
      · rw [if_pos hpcm]
        simp
    · simp [pcmClose, stopAudio]
  unfold startAudioWith startAudio
  split_ifs
  · rw [hsetUp, hstop]
  · rfl
  · exact hsetUp s

/-! ## What a failed start leaves behind -/

/-- The same state, with other pointers. -/
def Devices.withPointers (s : Devices) (pcm mixer : Bool) : Devices where
  audio := { s.audio with pcm := pcm }
  mixer := mixer
  opened := s.opened

theorem switch_on_withPointers (s : Devices) (pcm mixer : Bool) (ctls : List VoiceCtl) :
    setMixerCtls (s.withPointers pcm mixer).audio ctls true =
      { setMixerCtls s.audio ctls true with pcm := pcm } := by
  rw [setMixerCtls_eq, setMixerCtls_eq]
  rfl

/-- A later start depends on nothing but the controls and the devices. -/
theorem start_withPointers (hidle : s.audio.currentCallState = .idle) (pcm mixer : Bool)
    (hmixer : o.mixerOpen = true) :
    AlikeDevices (startAudioWith (s.withPointers pcm mixer) o type) (startAudioWith s o type) := by
  rw [start_idle hidle, start_idle (s := s.withPointers pcm mixer) hidle]
  by_cases htype : type = .idle
  · obtain ⟨mixer, hfirst⟩ := set_up_refused (s := s.withPointers pcm mixer) (o := o)
      (fun h => h.2 htype)
    obtain ⟨mixer', hsecond⟩ := set_up_refused (s := s) (o := o) (fun h => h.2 htype)
    rw [hfirst, hsecond]
    exact ⟨rfl, rfl⟩
  · rw [set_up_switched ⟨.inr hmixer, htype⟩, set_up_switched ⟨.inr hmixer, htype⟩,
      switch_on_withPointers]
    rcases open_devices_spec _ o type with ⟨hstarted, hfirst⟩ | ⟨hfailed, pcm', hfirst⟩
    · rcases open_devices_spec _ o type with ⟨-, hsecond⟩ | ⟨hfailed, -⟩
      · rw [hfirst, hsecond]
        exact ⟨rfl, rfl⟩
      · exact absurd hstarted hfailed
    · rcases open_devices_spec _ o type with ⟨hstarted, -⟩ | ⟨-, pcm'', hsecond⟩
      · exact absurd hstarted hfailed
      · rw [hfirst, hsecond]
        exact ⟨rfl, rfl⟩

theorem undone_withPointers (hidle : s.audio.currentCallState = .idle) (pcm mixer : Bool) :
    Undone s (s.withPointers pcm mixer) where
  mixer := rfl
  idle := hidle
  opened := rfl
  stop := by
    have hfirst : stopAudioWith (s.withPointers pcm mixer) true =
        { s.withPointers pcm mixer with
          audio := { (s.withPointers pcm mixer).audio with currentActiveCallId := 0 } } :=
      if_pos (.inl hidle)
    have hsecond : stopAudioWith s true =
        { s with audio := { s.audio with currentActiveCallId := 0 } } := if_pos (.inl hidle)
    rw [hfirst, hsecond]
    exact ⟨rfl, rfl⟩
  start := fun _ _ hmixer => start_withPointers hidle pcm mixer hmixer

/-- Controls that are on already stay as they are. -/
theorem switch_on_again {audio : AudioState} {ctls : List VoiceCtl}
    (h : ∀ ctl ∈ ctls, audio.mixer ctl = true) : setMixerCtls audio ctls true = audio := by
  have hmixer : (fun ctl => if ctl ∈ ctls then true else audio.mixer ctl) = audio.mixer := by
    funext ctl
    split_ifs with hmem
    · exact (h ctl hmem).symm
    · rfl
  rw [setMixerCtls_eq, hmixer]

/-- Without a call, and for every combination of failures, a start is all or nothing if and only if
it fails before the controls are switched, or succeeds, or the controls have been on before. -/
theorem failed_start_undone_iff (s : Devices) (hidle : s.audio.currentCallState = .idle)
    (o : StartOutcomes) (type : CallStatus) :
    AllOrNothing s o type ↔
      (Switches s o type → o.Started ∨
        ∀ ctl ∈ voiceCtls s.audio.outputDevice type, s.audio.mixer ctl = true) := by
  rw [AllOrNothing, start_idle hidle]
  by_cases hswitches : Switches s o type
  · rw [set_up_switched hswitches]
    rcases open_devices_spec _ o type with ⟨hstarted, hopen⟩ | ⟨hfailed, pcm, hopen⟩
    · rw [hopen]
      exact iff_of_true (fun hstate => absurd rfl hstate) fun _ => .inl hstarted
    · rw [hopen]
      constructor
      · intro h _
        have hstate : (setPcm { s with
            mixer := true
            audio := setMixerCtls s.audio (voiceCtls s.audio.outputDevice type) true }
            pcm).audio.currentCallState ≠ type := by
          show (setMixerCtls s.audio _ true).currentCallState ≠ type
          rw [(setMixerCtls_frame _ _ _).2.1, hidle]
          exact hswitches.2.symm
        refine .inr fun ctl hmem => ?_
        have hmixer := congrFun (h hstate).mixer ctl
        rw [← hmixer]
        show (setMixerCtls s.audio _ true).mixer ctl = true
        rw [mixer_setMixerCtls, if_pos hmem]
      · intro h _
        rw [switch_on_again ((h hswitches).resolve_left hfailed)]
        exact undone_withPointers hidle pcm true
  · obtain ⟨mixer, hrefused⟩ := set_up_refused hswitches
    rw [hrefused]
    exact iff_of_true (fun _ => undone_withPointers hidle s.audio.pcm mixer)
      fun h => absurd h hswitches

/-- Everything succeeds but the start of the capture device. -/
def captureFails : StartOutcomes where
  mixerOpen := true
  pcmOpenRx := true
  pcmOpenTx := true
  setParamsRx := true
  setParamsTx := true
  prepareRx := true
  prepareTx := true
  startTx := true
  startRx := false

/-- A circuit switched call is attempted, and its controls stay on. -/
theorem controls_stay_on :
    ¬ ∀ (s : Devices) (o : StartOutcomes) (type : CallStatus),
      s.audio.currentCallState = .idle → AllOrNothing s o type := by
  intro h
  have hundone := h ⟨.default, true, []⟩ captureFails .cs rfl (by decide)
  exact absurd (congrFun hundone.mixer .txctlVoice) (by decide)

/-- The first attempt fails before a control is switched: the mixer cannot be opened. -/
theorem no_mixer_undone :
    AllOrNothing ⟨.default, false, []⟩ { captureFails with mixerOpen := false } .volte :=
  (failed_start_undone_iff _ rfl _ _).2 fun h => absurd h.1 (by decide)

end OpenQti.Audio
