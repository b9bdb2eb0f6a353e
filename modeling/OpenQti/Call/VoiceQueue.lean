import OpenQti.Call.Runtime
import OpenQti.Lib.Run
import OpenQti.Lib.Slots
import OpenQti.Lib.Text

/-!
# The order of the spoken messages

During a simulated call the answers of the modem are queued and spoken one after the other. Both
sides of the queue scan the array from its first slot on: a new message goes into the first free
slot, and the next one to be spoken is the first that waits. So a message that is added while another
one waits behind a free slot overtakes it. `voice_in_order` says that nothing else can change the
order.
-/

namespace OpenQti.Call

open Machine Slots

/-- The slot holds a message that is to be spoken. -/
def VoiceMessage.waits (m : VoiceMessage) : Bool := m.state = 1 ∧ m.len > 0

/-- The messages that wait, in the order of the array. -/
def waiting (s : CallRt) : List VoiceMessage := contents VoiceMessage.waits queueSize s.msg

/-- A text that fits into a slot with its terminator. -/
structure VoiceText where
  bytes : List UInt8
  nonempty : 1 ≤ bytes.length
  short : bytes.length ≤ 159
  terminated : 0 ∉ bytes

/-- A message is queued, or the thread goes through its loop. -/
inductive VoiceOp where
  | add (text : VoiceText)
  | speak

/-- The queue, the texts that have been added and those that have been spoken. -/
structure VoiceLog where
  rt : CallRt
  added : List (List UInt8)
  spoken : List (List UInt8)

/-- The start of a log: the messages in the queue have been added before. -/
def VoiceLog.start (rt : CallRt) : VoiceLog := ⟨rt, (waiting rt).map VoiceMessage.message, []⟩

def voiceStep (log : VoiceLog) (op : VoiceOp) : Except CallFault VoiceLog :=
  match op with
  | .add text =>
      match addVoiceMessageToQueue log.rt text.bytes with
      | .ok rt => .ok { log with rt := rt, added := log.added ++ [text.bytes] }
      | .error fault => .error fault
  | .speak =>
      match speak log.rt with
      | (rt, .message text) => .ok { log with rt := rt, spoken := log.spoken ++ [text] }
      | (rt, .greeting) => .ok { log with rt := rt }

/-- There is room for a message that is added. -/
def HasRoom (log : VoiceLog) (op : VoiceOp) : Prop :=
  ∀ text, op = .add text → (waiting log.rt).length < queueSize

/-- Every slot of the queue is free, or holds a message that waits. -/
def SlotsSound (s : CallRt) : Prop :=
  ∀ i, i < queueSize → (s.msg i).state = 0 ∨ (s.msg i).waits

/-- The slots of the queue hold texts, or are free. -/
def HoldsTexts (s : CallRt) : Prop :=
  ∀ i, i < queueSize → (s.msg i).state = 0 ∨
    ∃ text : VoiceText, s.msg i = ⟨text.bytes, text.bytes.length, 1⟩

/-- A simulated call goes on, and no message is repeated. -/
structure InCall (s : CallRt) : Prop where
  simulated : s.callSimulationMode
  notLooped : s.stickToLoopedMessage = false
  texts : HoldsTexts s

/-- What has been spoken is what has been added first, and all of it once nothing waits. -/
structure InOrder (log : VoiceLog) : Prop where
  order : log.spoken <+: log.added
  complete : waiting log.rt = [] → log.spoken = log.added

/-- The texts are spoken in the order in which they have been added. -/
def VoiceInOrder : Prop :=
  ∀ (rt : CallRt) (ops : List VoiceOp) (log : VoiceLog), InCall rt →
    Run voiceStep HasRoom (.start rt) ops log → InOrder log

/-- A message is added only while none waits behind the first free slot. -/
def NoneOvertaken (log : VoiceLog) (op : VoiceOp) : Prop :=
  ∀ text, op = .add text → ∀ i, freeSlot log.rt = some i →
    behind VoiceMessage.waits queueSize log.rt.msg i = []

variable {s next : CallRt} {log after : VoiceLog} {op : VoiceOp}

/-! ## The queue -/

theorem text_waits (text : VoiceText) :
    VoiceMessage.waits ⟨text.bytes, text.bytes.length, 1⟩ = true := by
  have hnonempty := text.nonempty
  simp only [VoiceMessage.waits, decide_eq_true_eq, true_and]
  omega

theorem phrase_text (text : VoiceText) :
    VoiceMessage.phrase ⟨text.bytes, text.bytes.length, 1⟩ = text.bytes := by
  rw [VoiceMessage.phrase, Text.take_while_eq_self text.terminated, List.take_of_length_le]
  exact text.short

/-- The first free slot is in the array, and free. -/
theorem freeSlot_spec {i : Nat} (h : freeSlot s = some i) :
    i < queueSize ∧ (s.msg i).state = 0 := by
  obtain ⟨hi, hfree, _⟩ := find_some h
  exact ⟨hi, by simpa using hfree⟩

theorem waits_of_free {m : VoiceMessage} (h : m.state = 0) : m.waits = false := by
  simp [VoiceMessage.waits, h]

/-- There is a free slot exactly if not all slots hold messages that wait. -/
theorem SlotsSound.free_iff (h : SlotsSound s) :
    (∃ i, freeSlot s = some i) ↔ (waiting s).length < queueSize := by
  constructor
  · intro ⟨i, hslot⟩
    obtain ⟨hi, hfree⟩ := freeSlot_spec hslot
    exact length_contents_lt hi (waits_of_free hfree)
  · intro hroom
    cases hslot : freeSlot s with
    | some i => exact ⟨i, rfl⟩
    | none =>
        refine absurd hroom (Nat.not_lt.2 (Nat.le_of_eq (length_contents fun i hi => ?_).symm))
        have hused : (s.msg i).state ≠ 0 := by simpa using find_none hslot hi
        exact (h i hi).resolve_left hused

theorem HoldsTexts.sound (h : HoldsTexts s) : SlotsSound s := by
  intro i hi
  rcases h i hi with hfree | ⟨text, htext⟩
  · exact .inl hfree
  · rw [htext]
    exact .inr (text_waits text)

/-- A text that is added goes to the first free slot. -/
theorem add_spec {i : Nat} (h : freeSlot s = some i) (text : VoiceText) :
    ∃ next, addVoiceMessageToQueue s text.bytes = .ok next ∧
      next.msg = Function.update s.msg i ⟨text.bytes, text.bytes.length, 1⟩ ∧
      next.stickToLoopedMessage = s.stickToLoopedMessage ∧
      next.callSimulationMode = s.callSimulationMode := by
  have hnonempty := text.nonempty
  have hfits : text.bytes.length ≤ maxTtsTextSize := Nat.le_trans text.short (by decide)
  rw [addVoiceMessageToQueue, if_pos (by omega), h]
  simp only [if_pos hfits]
  exact ⟨_, rfl, rfl, rfl, rfl⟩

theorem HoldsTexts.update {i : Nat} {m : VoiceMessage} (h : HoldsTexts s)
    (hm : m.state = 0 ∨ ∃ text : VoiceText, m = ⟨text.bytes, text.bytes.length, 1⟩)
    (hmsg : next.msg = Function.update s.msg i m) : HoldsTexts next := by
  unfold HoldsTexts
  rw [hmsg]
  exact forall_update (fun m : VoiceMessage => m.state = 0 ∨
    ∃ text : VoiceText, m = ⟨text.bytes, text.bytes.length, 1⟩) h hm

/-- The loop speaks the first message that waits. -/
theorem speak_spec (h : InCall s) :
    (waiting s = [] ∧ (speak s).2 = .greeting ∧ waiting (speak s).1 = [] ∧ InCall (speak s).1) ∨
      ∃ m rest, waiting s = m :: rest ∧ (speak s).2 = .message m.message ∧
        waiting (speak s).1 = rest ∧ InCall (speak s).1 := by
  unfold speak
  cases hslot : waitingSlot s with
  | none =>
      have hnone : waiting s = [] := contents_eq_nil fun i hi => find_none hslot hi
      exact .inl ⟨hnone, rfl, hnone, h.simulated, h.notLooped, h.texts⟩
  | some i =>
      have hfirst : (List.range queueSize).find? (fun j => (s.msg j).waits) = some i := hslot
      obtain ⟨hcontents, hfront⟩ := contents_of_first hfirst
      obtain ⟨hi, hwaits, _⟩ := find_some hslot
      obtain ⟨text, htext⟩ : ∃ text : VoiceText, s.msg i = ⟨text.bytes, text.bytes.length, 1⟩ := by
        refine (h.texts i hi).resolve_left fun hfree => ?_
        rw [hfree] at hwaits
        simp at hwaits
      simp only [h.notLooped, Bool.false_eq_true, if_false]
      refine .inr ⟨s.msg i, _, hcontents, ?_, ?_, h.simulated, rfl, ?_⟩
      · rw [htext, phrase_text]
      · show contents _ _ (Function.update s.msg i _) = _
        rw [contents_update hi, hfront, List.filter_singleton, waits_of_free rfl]
        rfl
      · exact h.texts.update (.inl rfl) rfl

/-- The texts that have been added are those that have been spoken and those that wait. -/
structure Tracks (log : VoiceLog) : Prop where
  inCall : InCall log.rt
  agrees : log.added = log.spoken ++ (waiting log.rt).map VoiceMessage.message

theorem tracks_start (h : InCall s) : Tracks (.start s) := ⟨h, rfl⟩

theorem Tracks.inOrder (h : Tracks log) : InOrder log where
  order := ⟨_, h.agrees.symm⟩
  complete := fun hnone => by rw [h.agrees, hnone, List.map_nil, List.append_nil]

/-- A text that overtakes no other one is spoken last. -/
theorem Tracks.add (h : Tracks log) {text : VoiceText} (hroom : HasRoom log (.add text))
    (hbehind : NoneOvertaken log (.add text)) (hnext : voiceStep log (.add text) = .ok after) :
    Tracks after := by
  obtain ⟨i, hslot⟩ := h.inCall.texts.sound.free_iff.2 (hroom text rfl)
  obtain ⟨next, hadd, hmsg, hstick, hmode⟩ := add_spec hslot text
  obtain ⟨hi, hfree⟩ := freeSlot_spec hslot
  have hnone := hbehind text rfl i hslot
  simp only [voiceStep, hadd] at hnext
  cases hnext
  constructor
  case inCall =>
    refine ⟨hmode ▸ h.inCall.simulated, hstick ▸ h.inCall.notLooped, ?_⟩
    exact h.inCall.texts.update (.inr ⟨text, rfl⟩) hmsg
  case agrees =>
    have hbefore : waiting log.rt = contents VoiceMessage.waits i log.rt.msg := by
      rw [waiting, contents_eq hi, List.filter_singleton, waits_of_free hfree, hnone]
      simp
    have hafter : waiting next =
        contents VoiceMessage.waits i log.rt.msg ++ [⟨text.bytes, text.bytes.length, 1⟩] := by
      rw [waiting, hmsg, contents_update hi, List.filter_singleton, text_waits, hnone]
      simp
    show log.added ++ [text.bytes] = log.spoken ++ (waiting next).map VoiceMessage.message
    rw [hafter, ← hbefore, List.map_append, ← List.append_assoc, ← h.agrees]
    rfl

theorem Tracks.speak (h : Tracks log) (hnext : voiceStep log .speak = .ok after) :
    Tracks after := by
  simp only [voiceStep] at hnext
  rcases speak_spec h.inCall with ⟨hnone, hphrase, hafter, hcall⟩ |
    ⟨m, rest, hwaiting, hphrase, hafter, hcall⟩
  · have hspeak : Call.speak log.rt = ((Call.speak log.rt).1, .greeting) := by rw [← hphrase]
    rw [hspeak] at hnext
    cases hnext
    refine ⟨hcall, ?_⟩
    rw [h.agrees, hnone, hafter]
  · have hspeak : Call.speak log.rt = ((Call.speak log.rt).1, .message m.message) := by
      rw [← hphrase]
    rw [hspeak] at hnext
    cases hnext
    refine ⟨hcall, ?_⟩
    rw [h.agrees, hwaiting, hafter]
    simp

/-! ## Runs -/

/-- In every run in which no message is overtaken when it is added, the texts are spoken in the order
in which they have been added, and each of them once. -/
theorem voice_in_order {rt : CallRt} {ops : List VoiceOp} (hcall : InCall rt)
    (h : Run voiceStep (fun log op => HasRoom log op ∧ NoneOvertaken log op) (.start rt) ops log) :
    InOrder log := by
  have htracks : Tracks log := by
    refine Run.invariant Tracks (tracks_start hcall) ?_ h
    intro log op next htracks hallowed hnext
    cases op with
    | add text => exact htracks.add hallowed.1 hallowed.2 hnext
    | speak => exact htracks.speak hnext
  exact htracks.inOrder

/-- A call that goes on, with an empty queue. -/
def sampleCall : CallRt := { CallRt.zero with callSimulationMode := true }

theorem inCall_sample : InCall sampleCall where
  simulated := rfl
  notLooped := rfl
  texts := fun _ _ => .inl rfl

/-- A text of one letter. -/
def letter (c : UInt8) (hc : c ≠ 0) : VoiceText where
  bytes := [c]
  nonempty := by simp
  short := by simp
  terminated := by simpa using hc.symm

/-- Two messages are added, the first one is spoken, and a third one goes to its slot. -/
theorem third_message_overtakes : ¬ VoiceInOrder := by
  intro h
  have hrun : ∃ log, Run voiceStep HasRoom (.start sampleCall)
      [.add (letter 65 (by decide)), .add (letter 66 (by decide)), .speak,
        .add (letter 67 (by decide)), .speak] log ∧
      log.spoken = [[65], [67]] ∧ log.added = [[65], [66], [67]] := by
    refine ⟨_, .snoc (.snoc (.snoc (.snoc (.snoc (.nil _) ?_ rfl) ?_ rfl) ?_ rfl) ?_ rfl) ?_ rfl,
      rfl, rfl⟩
    all_goals
      intro text _
      decide
  obtain ⟨log, hrun, hspoken, hadded⟩ := hrun
  have horder := (h _ _ _ inCall_sample hrun).order
  rw [hspoken, hadded] at horder
  simp at horder

theorem noneOvertaken_of_slot {i : Nat} (hslot : freeSlot log.rt = some i)
    (hbehind : behind VoiceMessage.waits queueSize log.rt.msg i = []) : NoneOvertaken log op := by
  intro _ _ j hj
  rw [hslot] at hj
  cases hj
  exact hbehind

/-- Two messages are added and both are spoken. -/
theorem two_messages_in_order :
    ∃ log, Run voiceStep (fun log op => HasRoom log op ∧ NoneOvertaken log op) (.start sampleCall)
        [.add (letter 65 (by decide)), .add (letter 66 (by decide)), .speak, .speak] log ∧
      InOrder log ∧ log.spoken = [[65], [66]] := by
  have hrun : ∃ log, Run voiceStep (fun log op => HasRoom log op ∧ NoneOvertaken log op)
      (.start sampleCall)
      [.add (letter 65 (by decide)), .add (letter 66 (by decide)), .speak, .speak] log ∧
      log.spoken = [[65], [66]] := by
    refine ⟨_, .snoc (.snoc (.snoc (.snoc (.nil _)
      ⟨fun _ _ => by decide, noneOvertaken_of_slot (i := 0) rfl (by decide)⟩ rfl)
      ⟨fun _ _ => by decide, noneOvertaken_of_slot (i := 1) rfl (by decide)⟩ rfl)
      ⟨nofun, nofun⟩ rfl) ⟨nofun, nofun⟩ rfl, rfl⟩
  obtain ⟨log, hrun, hspoken⟩ := hrun
  exact ⟨log, hrun, voice_in_order inCall_sample hrun, hspoken⟩

end OpenQti.Call
