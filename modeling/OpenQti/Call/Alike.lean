import OpenQti.Call.Steps
import OpenQti.Call.VoiceQueue
import OpenQti.Lib.Trace

/-!
# What the host can see of the queue

Nothing that is sent depends on the texts of the queued messages. Two states that differ in them
only, with as many messages that wait, send the same in every step and stay so: `alike_step`.
-/

namespace OpenQti.Call

open Bytes Qmi Machine Except Slots
open Sms (PacketAction qmiMsgid)

/-- The states differ in the texts of the queue only, and as many messages wait. -/
structure Alike (s t : CallRt) : Prop where
  same : ∃ msg, t = { s with msg := msg }
  left : SlotsSound s
  right : SlotsSound t
  count : (waiting s).length = (waiting t).length

variable {s t next : CallRt} {op : CallOp} {i : Nat} {m : VoiceMessage}

/-! ## The queue -/

theorem SlotsSound.update (h : SlotsSound s) (hm : m.state = 0 ∨ m.waits)
    (hmsg : next.msg = Function.update s.msg i m) : SlotsSound next := by
  unfold SlotsSound
  rw [hmsg]
  exact forall_update (fun m : VoiceMessage => m.state = 0 ∨ m.waits) h hm

/-- There is something to speak exactly if a message waits. -/
theorem waiting_iff : (∃ i, waitingSlot s = some i) ↔ 0 < (waiting s).length := by
  constructor
  · intro ⟨i, hslot⟩
    have hfirst : (List.range queueSize).find? (fun j => (s.msg j).waits) = some i := hslot
    rw [waiting, (contents_of_first hfirst).1]
    exact Nat.succ_pos _
  · intro hsome
    cases hslot : waitingSlot s with
    | some i => exact ⟨i, rfl⟩
    | none =>
        have hnone : waiting s = [] := contents_eq_nil fun i hi => find_none hslot hi
        rw [hnone] at hsome
        exact absurd hsome (Nat.lt_irrefl 0)

/-- A message that waits is in its slot. -/
theorem waitingSlot_spec (h : waitingSlot s = some i) : i < queueSize ∧ (s.msg i).waits := by
  obtain ⟨hi, hwaits, _⟩ := find_some h
  exact ⟨hi, hwaits⟩

/-- The queue after a message has been spoken, and no longer waits. -/
theorem spoken_queue (h : waitingSlot s = some i)
    (hmsg : next.msg = Function.update s.msg i { s.msg i with state := 0 }) :
    (waiting next).length + 1 = (waiting s).length := by
  obtain ⟨hi, hwaits⟩ := waitingSlot_spec h
  rw [waiting, hmsg]
  exact length_contents_release hi hwaits (waits_of_free rfl)

/-- The queue after a message has been added. -/
theorem added_queue {message : List UInt8} (hmessage : message.length > 0)
    (h : freeSlot s = some i)
    (hmsg : next.msg = Function.update s.msg i ⟨message, message.length, 1⟩) :
    (waiting next).length = (waiting s).length + 1 := by
  obtain ⟨hi, hfree⟩ := freeSlot_spec h
  rw [waiting, hmsg]
  exact length_contents_take hi (waits_of_free hfree) (by simpa [VoiceMessage.waits] using hmessage)

/-- No message waits in a queue whose slots are free. -/
theorem free_queue (h : ∀ i, i < queueSize → (s.msg i).state = 0) : waiting s = [] :=
  contents_eq_nil fun i hi => waits_of_free (h i hi)

/-- Both scans find a slot, or none does. -/
theorem none_of_iff {first second : Option Nat}
    (h : (∃ i, first = some i) ↔ ∃ i, second = some i) (hnone : first = none) : second = none := by
  rw [Option.eq_none_iff_forall_ne_some]
  intro i hi
  obtain ⟨j, hj⟩ := h.2 ⟨i, hi⟩
  rw [hnone] at hj
  cases hj

/-! ## The steps -/

/-- Two states with the same flags, and a free queue each. -/
theorem alike_of_free {msg : Nat → VoiceMessage} (hsame : t = { s with msg := msg })
    (hleft : ∀ i, i < queueSize → (s.msg i).state = 0)
    (hright : ∀ i, i < queueSize → (t.msg i).state = 0) : Alike s t where
  same := ⟨msg, hsame⟩
  left := fun i hi => .inl (hleft i hi)
  right := fun i hi => .inl (hright i hi)
  count := by rw [free_queue hleft, free_queue hright]

/-- The flags of alike states are changed in the same way. -/
theorem Alike.change (h : Alike s t) {s' t' : CallRt} (hs : s'.msg = s.msg) (ht : t'.msg = t.msg)
    (hsame : t' = { s' with msg := t'.msg }) : Alike s' t' where
  same := ⟨_, hsame⟩
  left := fun i hi => by rw [hs]; exact h.left i hi
  right := fun i hi => by rw [ht]; exact h.right i hi
  count := by
    have hcount := h.count
    simp only [waiting] at hcount ⊢
    rw [hs, ht, hcount]

theorem alike_add (h : Alike s t) (message : List UInt8) :
    Matches Alike (callStep s (.addVoiceMessage message))
      (callStep t (.addVoiceMessage message)) := by
  have hfree : (∃ i, freeSlot s = some i) ↔ (∃ i, freeSlot t = some i) := by
    rw [h.left.free_iff, h.right.free_iff, h.count]
  simp only [callStep, addVoiceMessageToQueue]
  by_cases hmessage : message.length > 0
  · simp only [if_pos hmessage]
    cases hs : freeSlot s with
    | none =>
        rw [none_of_iff hfree hs]
        exact ⟨h, rfl⟩
    | some i =>
        obtain ⟨j, ht⟩ := hfree.1 ⟨i, hs⟩
        rw [ht]
        obtain ⟨msg, hsame⟩ := h.same
        by_cases hfits : message.length ≤ maxTtsTextSize
        · simp only [if_pos hfits]
          refine ⟨⟨⟨_, by rw [hsame]⟩, ?_, ?_, ?_⟩, rfl⟩
          · exact h.left.update (.inr (by simpa [VoiceMessage.waits] using hmessage)) rfl
          · exact h.right.update (.inr (by simpa [VoiceMessage.waits] using hmessage)) rfl
          · refine (added_queue hmessage hs rfl).trans ?_
            rw [h.count]
            exact (added_queue hmessage ht rfl).symm
        · simp only [if_neg hfits]
          rfl
  · simp only [if_neg hmessage]
    exact ⟨h, rfl⟩

theorem alike_speak (h : Alike s t) : Matches Alike (callStep s .speak) (callStep t .speak) := by
  have hwaiting : (∃ i, waitingSlot s = some i) ↔ (∃ i, waitingSlot t = some i) := by
    rw [waiting_iff, waiting_iff, h.count]
  obtain ⟨msg, hsame⟩ := h.same
  have hmode : t.callSimulationMode = s.callSimulationMode := by rw [hsame]
  have hstick : t.stickToLoopedMessage = s.stickToLoopedMessage := by rw [hsame]
  simp only [callStep, hmode, speak, hstick]
  refine ⟨?_, rfl⟩
  cases s.callSimulationMode with
  | false => exact h
  | true =>
      simp only [if_true]
      cases hs : waitingSlot s with
      | none =>
          rw [none_of_iff hwaiting hs]
          exact h.change rfl rfl (by rw [hsame])
      | some i =>
          obtain ⟨j, ht⟩ := hwaiting.1 ⟨i, hs⟩
          rw [ht]
          cases hloop : s.stickToLoopedMessage with
          | true =>
              simp only [if_true]
              exact h.change rfl rfl (by rw [hsame])
          | false =>
              simp only [Bool.false_eq_true, if_false]
              refine ⟨⟨_, by rw [hsame]⟩, ?_, ?_, ?_⟩
              · exact h.left.update (.inl rfl) rfl
              · exact h.right.update (.inl rfl) rfl
              · refine Nat.add_right_cancel (Eq.trans (spoken_queue hs rfl) ?_)
                exact Eq.trans h.count (Eq.symm (spoken_queue ht rfl))

/-- The loop over the instances of calls does not look at the queue. -/
theorem round_msg (msg : Nat → VoiceMessage) (callwait : UInt8) (bytes : Bytes)
    (info offset : Nat) :
    statusRound { s with msg := msg } callwait bytes info offset =
      statusRound s callwait bytes info offset := rfl

theorem forward_msg (msg : Nat → VoiceMessage) (bytes : Bytes) (scan : StatusScan) :
    forwardStatus { s with msg := msg } bytes scan =
      ((forwardStatus s bytes scan).1, { (forwardStatus s bytes scan).2.1 with msg := msg },
        (forwardStatus s bytes scan).2.2) := by
  unfold forwardStatus
  split_ifs
  all_goals rfl

theorem status_msg (msg : Nat → VoiceMessage) (callwait : UInt8) (bytes : Bytes) (len : Nat) :
    handleVoiceServiceCallStatus { s with msg := msg } callwait bytes len =
      (handleVoiceServiceCallStatus s callwait bytes len).map fun handled =>
        (handled.1, { handled.2.1 with msg := msg }, handled.2.2) := by
  unfold handleVoiceServiceCallStatus
  cases tlvOffset bytes len tlvRemoteNumber with
  | error fault => rfl
  | ok offset =>
      cases tlvOffset bytes len tlvCallInfo with
      | error fault =>
          simp only [Except.bind, bind]
          split_ifs
          all_goals rfl
      | ok info =>
          simp only [Except.bind, bind, round_msg, forward_msg]
          split_ifs
          · rfl
          · cases (List.range (numInstances bytes info).toNat).foldlM
              (statusRound s callwait bytes info offset) .start with
            | error fault => rfl
            | ok scan => rfl
          · cases (List.range (numInstances bytes info).toNat).foldlM
              (statusRound s callwait bytes info offset) .start with
            | error fault => rfl
            | ok scan => rfl

/-- A packet of the voice service leaves the queue alone, and is not handled after it. -/
theorem service_msg (msg : Nat → VoiceMessage) (callwait : UInt8) (source : PacketSource)
    (bytes : Bytes) (len : Nat) :
    callServiceHandler { s with msg := msg } callwait source bytes len =
      (callServiceHandler s callwait source bytes len).map fun handled =>
        (handled.1, { handled.2.1 with msg := msg }, handled.2.2) := by
  unfold callServiceHandler
  split_ifs
  · unfold handleVoiceServiceCallRequest
    split_ifs
    all_goals rfl
  · unfold handleVoiceServiceAnswerRequest
    split_ifs
    all_goals rfl
  · unfold handleVoiceServiceCallInfo
    split_ifs
    · cases getCallDirection bytes len tlvRemoteNumber with
      | error fault => rfl
      | ok direction => rfl
    · rfl
  · exact status_msg msg callwait bytes len
  · unfold handleVoiceServiceAllCallStatusInfo
    split_ifs
    all_goals rfl
  · unfold handleVoiceServiceDisconnectRequest
    split_ifs
    all_goals rfl
  · rfl

/-- A packet changes neither the queue, nor what is counted over the calls, nor the mode. -/
theorem service_keeps {action : PacketAction} {callwait : UInt8} {source : PacketSource}
    {bytes : Bytes} {len : Nat} {outputs : List CallOutput}
    (h : callServiceHandler s callwait source bytes len = .ok (action, next, outputs)) :
    next.msg = s.msg ∧ next.timeoutCounter = s.timeoutCounter ∧
      next.doNotDisturb = s.doNotDisturb := by
  cases (service_serves h).1 with
  | unchanged | closed | accepted | begun => exact ⟨rfl, rfl, rfl⟩

theorem alike_packet (h : Alike s t) (callwait : UInt8) (source : PacketSource) (bytes : Bytes)
    (len : Nat) :
    Matches Alike (callStep s (.packet callwait source bytes len))
      (callStep t (.packet callwait source bytes len)) := by
  obtain ⟨msg, hsame⟩ := h.same
  simp only [callStep, hsame, service_msg]
  cases hservice : callServiceHandler s callwait source bytes len with
  | error fault => rfl
  | ok handled =>
      obtain ⟨action, next, outputs⟩ := handled
      exact ⟨h.change (service_keeps hservice).1 (by rw [hsame]) rfl, rfl⟩

/-- The end of a call frees the queue. -/
theorem alike_reset (hsame : ∃ msg, t = { s with msg := msg }) :
    Alike (resetCallState s) (resetCallState t) := by
  have hfree : ∀ state i, i < queueSize → ((resetCallState state).msg i).state = 0 := by
    intro state i hi
    simp only [resetCallState, if_pos hi]
    rfl
  obtain ⟨msg, hsame⟩ := hsame
  rw [hsame]
  exact alike_of_free rfl (hfree _) (hfree _)

theorem alike_close (h : Alike s t) :
    Alike (closeIdleCall s).1 (closeIdleCall t).1 ∧ (closeIdleCall s).2 = (closeIdleCall t).2 := by
  obtain ⟨msg, hsame⟩ := h.same
  rw [hsame] at h ⊢
  simp only [closeIdleCall]
  split_ifs
  · exact ⟨alike_reset ⟨msg, rfl⟩, rfl⟩
  · exact ⟨h, rfl⟩

theorem alike_kill (h : Alike s t) :
    Alike (killUnansweredCall s).1 (killUnansweredCall t).1 ∧
      (killUnansweredCall s).2 = (killUnansweredCall t).2 := by
  obtain ⟨msg, hsame⟩ := h.same
  rw [hsame] at h ⊢
  simp only [killUnansweredCall]
  split_ifs
  · exact ⟨alike_reset ⟨msg, rfl⟩, rfl⟩
  · exact ⟨h.change rfl rfl rfl, rfl⟩
  · exact ⟨h, rfl⟩

theorem alike_pass (h : Alike s t) (messagesPending : Bool) :
    Matches Alike (callStep s (.pass messagesPending)) (callStep t (.pass messagesPending)) := by
  have hclose := alike_close h
  have hkill := alike_kill hclose.1
  have hnotify : Alike (notifySimulatedCall s).1 (notifySimulatedCall t).1 ∧
      (notifySimulatedCall s).2 = (notifySimulatedCall t).2 :=
    ⟨hkill.1, congrArg₂ (· ++ ·) hclose.2 hkill.2⟩
  obtain ⟨msg, hsame⟩ := h.same
  rw [hsame] at h hnotify ⊢
  simp only [callStep, processSimulatedCalls]
  split_ifs
  · exact ⟨h, rfl⟩
  · exact ⟨h.change rfl rfl rfl, rfl⟩
  · exact hnotify
  · exact ⟨h, rfl⟩

theorem alike_finish (h : Alike s t) :
    Matches Alike (callStep s .finishTts) (callStep t .finishTts) := by
  have hfree : ∀ state i, i < queueSize → ((finishTts state).msg i).state = 0 := by
    intro state i hi
    simp only [finishTts, if_pos hi]
  obtain ⟨msg, hsame⟩ := h.same
  rw [hsame]
  exact ⟨alike_of_free rfl (hfree _) (hfree _), rfl⟩

/-- Alike states send the same in every step, and stay alike. -/
theorem alike_step (s t : CallRt) (op : CallOp) (h : Alike s t) :
    Matches Alike (callStep s op) (callStep t op) := by
  obtain ⟨msg, hsame⟩ := h.same
  cases op with
  | setPendingCallFlag en => exact ⟨h.change rfl rfl (by rw [hsame]; rfl), rfl⟩
  | setLoopedMessage en => exact ⟨h.change rfl rfl (by rw [hsame]; rfl), rfl⟩
  | setDoNotDisturb en => exact ⟨h.change rfl rfl (by rw [hsame]; rfl), rfl⟩
  | addVoiceMessage message => exact alike_add h message
  | packet callwait source bytes len => exact alike_packet h callwait source bytes len
  | pass messagesPending => exact alike_pass h messagesPending
  | speak => exact alike_speak h
  | finishTts => exact alike_finish h

/-! ## Reachable states -/

/-- The slots of the queue are free or hold messages that wait. -/
theorem step_sound (h : SlotsSound s) (hnext : callNext s op = .ok next) : SlotsSound next := by
  have halike : Alike s s := ⟨⟨s.msg, rfl⟩, h, h, rfl⟩
  obtain ⟨outputs, hstep⟩ := callNext_ok hnext
  have hmatch := alike_step s s op halike
  rw [hstep] at hmatch
  exact hmatch.1.left

end OpenQti.Call
