import OpenQti.Call.Alike

/-!
# What is left of earlier calls

A simulated call should start fresh, however the earlier ones ended. Only a call that times out is
reset: if the host hangs up, or a real call takes over, the two counters and the flag of a reminder
stay as they are, and the next call goes on with them. `calls_fresh_iff` says that nothing else is
left: two idle states with the same queue and the same do-not-disturb mode lead to the same status
events exactly if they agree in these three.

That each of the three makes a difference is shown by what the host can do: it answers and hangs up
to empty the queue, and then lets the next call ring, or answers it and waits.
-/

namespace OpenQti.Call

open Bytes Qmi Machine Except Slots

/-- A call to the host is asked for and started. -/
def startCall : List CallOp := [.setPendingCallFlag true, .pass false]

/-- A status event among what is sent. -/
def statusEvent : CallOutput → Option VoicePacket
  | .write packet => if packet.msgid = VoiceMsgid.callStatus.code then some packet else none
  | _ => none

/-- The status events of a sequence of steps. -/
def statusEvents (s : CallRt) (ops : List CallOp) : Except CallFault (List VoicePacket) :=
  (sent callStep s ops).map (List.filterMap statusEvent)

/-- A call leads to the same status events in both states, whatever happens during and after it. -/
def SameEvents (s t : CallRt) : Prop :=
  ∀ ops, statusEvents s (startCall ++ ops) = statusEvents t (startCall ++ ops)

/-- Idle states that agree in the queue and in the do-not-disturb mode. -/
structure Comparable (s t : CallRt) : Prop where
  leftIdle : s.callSimulationMode = false
  rightIdle : t.callSimulationMode = false
  queue : waiting s = waiting t
  mode : s.doNotDisturb = t.doNotDisturb

/-- Every simulated call starts fresh. -/
def CallsFresh : Prop :=
  ∀ (earlier others : List CallOp) (s t : CallRt), Run callNext Anything .zero earlier s →
    Run callNext Anything .zero others t → Comparable s t → SameEvents s t

/-- The states agree in what a call leaves behind if it does not time out. -/
structure SameLeftovers (s t : CallRt) : Prop where
  loops : s.emptyMessageLoop = t.emptyMessageLoop
  timeout : s.timeoutCounter = t.timeoutCounter
  looped : s.stickToLoopedMessage = t.stickToLoopedMessage

variable {s t r q : CallRt} {op : CallOp} {ops : List CallOp} {outputs : List CallOutput}

/-! ## Reachable states -/

/-- What holds in every state: the slots are sound, and an unanswered call is not counted further
than to its end. -/
structure Counted (s : CallRt) : Prop where
  slots : SlotsSound s
  timeout : s.timeoutCounter.toNat ≤ 61

theorem kill_timeout (s : CallRt) (h : s.timeoutCounter.toNat ≤ 61) :
    (killUnansweredCall s).1.timeoutCounter.toNat ≤ 61 := by
  unfold killUnansweredCall
  split_ifs with hunanswered hlong
  · exact Nat.zero_le _
  · simp only [UInt8.toNat_add, UInt8.toNat_ofNat]
    omega
  · exact h

theorem close_timeout (h : s.timeoutCounter.toNat ≤ 61) :
    (closeIdleCall s).1.timeoutCounter.toNat ≤ 61 := by
  unfold closeIdleCall
  split_ifs
  · exact Nat.zero_le _
  · exact h

theorem pass_timeout (messagesPending : Bool) (h : s.timeoutCounter.toNat ≤ 61) :
    (processSimulatedCalls s messagesPending).1.timeoutCounter.toNat ≤ 61 := by
  unfold processSimulatedCalls
  split_ifs
  · exact h
  · exact h
  · exact kill_timeout _ (close_timeout h)
  · exact h

theorem Counted.step (h : Counted s) (hnext : callNext s op = .ok r) : Counted r := by
  refine ⟨step_sound h.slots hnext, ?_⟩
  obtain ⟨outputs, hstep⟩ := callNext_ok hnext
  cases step_effect hstep with
  | pending | looped | mode | added | spoken | finished => exact h.timeout
  | passed messagesPending => exact pass_timeout messagesPending h.timeout
  | handled hservice =>
      rw [(service_keeps hservice).2.1]
      exact h.timeout

theorem counted_of_run (h : Run callNext Anything .zero ops s) : Counted s := by
  refine Run.invariant Counted ?_ (fun _ _ _ hcounted _ hnext => hcounted.step hnext) h
  exact ⟨fun _ _ => .inl rfl, Nat.zero_le _⟩

/-! ## Alike calls -/

/-- The state in which a call of the modem to the host begins. -/
def started (s : CallRt) : CallRt :=
  (startSimulatedCall (setPendingCallFlag (setPendingCallFlag s true) false)).1

/-- What is sent when a call begins. -/
def ringOutputs : List CallOutput := [.pulseRingIn, .write (callStatusPacket 1 .incoming .ringing)]

theorem start_spec (hidle : s.callSimulationMode = false) :
    emit callStep s startCall = .ok (started s, ringOutputs) := by
  cases s
  cases hidle
  rfl

/-- Alike states lead to the same status events. -/
theorem sameEvents_of_leftovers (hs : SlotsSound s) (ht : SlotsSound t) (h : Comparable s t)
    (hleft : SameLeftovers s t) : SameEvents s t := by
  have halike : Alike (started s) (started t) := by
    refine ⟨⟨t.msg, ?_⟩, hs, ht, congrArg List.length h.queue⟩
    simp only [started, startSimulatedCall, sendVoiceCallStatusEvent, setCallSimulationMode,
      setPendingCallFlag, hleft.loops, hleft.timeout, hleft.looped, h.mode, Bool.false_and]
  intro ops
  have hsent := sent_eq alike_step halike ops
  rw [statusEvents, statusEvents, sent_append (start_spec h.leftIdle),
    sent_append (start_spec h.rightIdle), hsent]

/-! ## The end of a call -/

/-- The next pass ends the call: nothing has been said, or nobody has answered, for too long. -/
def Ends (s : CallRt) : Prop :=
  s.emptyMessageLoop.toNat > callMaxLoops ∨
    s.simulatedCallState ≠ .established ∧ s.timeoutCounter.toNat > 60

/-- A call goes on, and no other one is to be started. -/
structure Calling (s : CallRt) : Prop where
  simulated : s.callSimulationMode = true
  single : s.isCallPending = false

theorem Calling.pass (h : Calling s) : callStep s (.pass false) = .ok (notifySimulatedCall s) := by
  simp [callStep, processSimulatedCalls, h.simulated, h.single]

/-- The end of a call is announced. -/
theorem pass_of_ends (h : Calling s) (hends : Ends s) :
    ∃ next first second, callStep s (.pass false) =
      .ok (next, [.write (callStatusPacket first s.simCallDirection .disconnecting),
        .write (callStatusPacket second s.simCallDirection .hangup)]) := by
  rw [h.pass, notifySimulatedCall]
  by_cases hidle : s.callSimulationMode ∧ s.emptyMessageLoop.toNat > callMaxLoops
  · simp only [closeIdleCall, if_pos hidle]
    exact ⟨_, _, _, rfl⟩
  · obtain ⟨hringing, hlong⟩ := hends.resolve_left fun hloops => hidle ⟨h.simulated, hloops⟩
    simp only [closeIdleCall, if_neg hidle, killUnansweredCall, if_pos hringing, if_pos hlong]
    exact ⟨_, _, _, rfl⟩

/-- A call that goes on is not heard of, and an unanswered one is counted. -/
theorem pass_of_goes_on (h : Calling s) (hends : ¬ Ends s) :
    callStep s (.pass false) = .ok (if s.simulatedCallState ≠ .established then
      { s with timeoutCounter := s.timeoutCounter + 1 } else s, []) := by
  have hidle : ¬ (s.callSimulationMode ∧ s.emptyMessageLoop.toNat > callMaxLoops) :=
    fun hidle => hends (.inl hidle.2)
  rw [h.pass, notifySimulatedCall]
  simp only [closeIdleCall, if_neg hidle, killUnansweredCall]
  split_ifs with hringing hlong
  · exact absurd (.inr ⟨hringing, hlong⟩) hends
  · rfl
  · rfl

/-- Calls that have led to the same end at the same time. -/
theorem ends_of_sameEvents (h : SameEvents s t)
    (hs : emit callStep s (startCall ++ ops) = .ok (r, outputs)) (hr : Calling r)
    (ht : emit callStep t (startCall ++ ops) = .ok (q, outputs)) (hq : Calling q)
    (hends : Ends r) : Ends q := by
  by_contra hgoes
  obtain ⟨next, first, second, hpass⟩ := pass_of_ends hr hends
  have hquiet := pass_of_goes_on hq hgoes
  have hevents := h (ops ++ [.pass false])
  rw [statusEvents, statusEvents, ← List.append_assoc, sent_append hs, sent_append ht,
    sent_cons hpass, sent_cons hquiet] at hevents
  simp only [sent, emit, Except.map, Except.ok.injEq, List.append_nil, List.filterMap_append]
    at hevents
  rw [List.append_right_eq_self] at hevents
  cases hevents

/-! ## The host waits -/

theorem count_succ (n : UInt8) (k : Nat) : n + 1 + UInt8.ofNat k = n + UInt8.ofNat (k + 1) := by
  rw [UInt8.add_assoc, UInt8.add_comm 1, UInt8.ofNat_add]
  rfl

/-- The thread says that it waits for a message, again and again. -/
theorem idle_speaks (hmode : r.callSimulationMode = true) (hnone : waitingSlot r = none) (k : Nat) :
    emit callStep r (List.replicate k .speak) =
      .ok ({ r with emptyMessageLoop := r.emptyMessageLoop + UInt8.ofNat k }, []) := by
  induction k generalizing r with
  | zero => simp [emit]
  | succ k ih =>
      have hstep : callStep r .speak =
          .ok ({ r with emptyMessageLoop := r.emptyMessageLoop + 1 }, []) := by
        simp [callStep, hmode, speak, hnone]
      rw [List.replicate_succ, emit_quiet hstep, ← count_succ]
      exact ih hmode hnone

/-- The thread repeats a message. -/
theorem looped_speaks (hmode : r.callSimulationMode = true) (hloop : r.stickToLoopedMessage = true)
    (hsilent : r.emptyMessageLoop = 0) {i : Nat} (hslot : waitingSlot r = some i) (k : Nat) :
    emit callStep r (List.replicate k .speak) = .ok (r, []) := by
  have hspeak : (speak r).1 = r := by
    simp only [speak, hslot, if_pos hloop]
    rw [← hsilent]
  have hstep : callStep r .speak = .ok (r, []) := by
    simp only [callStep, if_pos hmode, hspeak]
  induction k with
  | zero => rfl
  | succ k ih => rw [List.replicate_succ, emit_quiet hstep, ih]

/-- The host rings. -/
theorem ringing_passes (hcalling : Calling r) (hstate : r.simulatedCallState = .ringing)
    (hloops : r.emptyMessageLoop = 0) (k : Nat) (hk : r.timeoutCounter.toNat + k ≤ 61) :
    emit callStep r (List.replicate k (.pass false)) =
      .ok ({ r with timeoutCounter := r.timeoutCounter + UInt8.ofNat k }, []) := by
  induction k generalizing r with
  | zero => simp [emit]
  | succ k ih =>
      have hends : ¬ Ends r := by
        simp only [Ends, hloops, not_or, not_and]
        exact ⟨by decide, fun _ => by omega⟩
      have hunanswered : r.simulatedCallState ≠ .established := by simp [hstate]
      have hstep : callStep r (.pass false) =
          .ok ({ r with timeoutCounter := r.timeoutCounter + 1 }, []) := by
        rw [pass_of_goes_on hcalling hends, if_pos hunanswered]
      have hnext : (r.timeoutCounter + 1).toNat + k ≤ 61 := by
        simp only [UInt8.toNat_add, UInt8.toNat_ofNat]
        omega
      rw [List.replicate_succ, emit_quiet hstep, ← count_succ]
      exact ih ⟨hcalling.simulated, hcalling.single⟩ hstate hloops hnext

/-! ## What the leftovers change -/

/-- The host answers. -/
def answer : CallOp := .packet 0 .fromHost (sampleRequest 0x22 5 0) 28

/-- The host hangs up. -/
def hangUp : CallOp := .packet 0 .fromHost (sampleRequest 0x21 6 0) 28

/-- What is sent when the host answers. -/
def answerOutputs : List CallOutput :=
  [.write (callAcceptAck 5), .write (callStatusPacket 6 .incoming .established), .startTts]

/-- What is sent when the host hangs up. -/
def hangUpOutputs : List CallOutput :=
  [.write (endCallResponse 6), .write (callStatusPacket 6 .incoming .disconnecting),
    .write (callStatusPacket 7 .incoming .hangup)]

/-- A call is answered and ended, so that the queue is empty, and another one is answered. -/
def answeredAgain : List CallOp := [answer, hangUp, .finishTts] ++ startCall ++ [answer]

def answeredAgainOutputs : List CallOutput :=
  ringOutputs ++ answerOutputs ++ hangUpOutputs ++ ringOutputs ++ answerOutputs

/-- The state after that: the queue is empty, and the leftovers are still there. -/
structure AnsweredAgain (s r : CallRt) : Prop where
  calling : Calling r
  established : r.simulatedCallState = .established
  loops : r.emptyMessageLoop = s.emptyMessageLoop
  silent : waitingSlot r = none

/-- There is nothing to speak if all slots are free. -/
theorem silent_of_free (h : ∀ i, i < queueSize → (s.msg i).state = 0) : waitingSlot s = none := by
  rw [Option.eq_none_iff_forall_ne_some]
  intro i hslot
  obtain ⟨hi, hwaits⟩ := waitingSlot_spec hslot
  rw [waits_of_free (h i hi)] at hwaits
  cases hwaits

theorem answered_again (hidle : s.callSimulationMode = false) :
    ∃ r, emit callStep s (startCall ++ answeredAgain) = .ok (r, answeredAgainOutputs) ∧
      AnsweredAgain s r := by
  cases s
  cases hidle
  refine ⟨_, rfl, ⟨rfl, rfl⟩, rfl, rfl, silent_of_free fun i hi => ?_⟩
  exact congrArg VoiceMessage.state (if_pos hi)

/-- The host waits for `k` iterations after it has answered. -/
theorem loops_spec (hidle : s.callSimulationMode = false) (k : Nat) :
    ∃ r, emit callStep s (startCall ++ (answeredAgain ++ List.replicate k .speak)) =
        .ok (r, answeredAgainOutputs) ∧ Calling r ∧
      (Ends r ↔ (s.emptyMessageLoop.toNat + k) % 256 > callMaxLoops) := by
  obtain ⟨r, hrun, hr⟩ := answered_again hidle
  refine ⟨{ r with emptyMessageLoop := r.emptyMessageLoop + UInt8.ofNat k }, ?_,
    ⟨hr.calling.simulated, hr.calling.single⟩, ?_⟩
  · rw [← List.append_assoc, emit_append hrun, idle_speaks hr.calling.simulated hr.silent]
    simp [Except.map]
  · simp [Ends, hr.established, hr.loops, UInt8.toNat_add]

/-- The slots are free again after a message has been added and spoken. -/
theorem free_after_spoken {msg : Nat → VoiceMessage} {spoken : VoiceMessage}
    (hfree : ∀ i, i < queueSize → (msg i).state = 0) (added : VoiceMessage)
    (hspoken : spoken.state = 0) (i : Nat) (hi : i < queueSize) :
    (Function.update (Function.update msg 0 added) 0 spoken i).state = 0 := by
  by_cases hfirst : i = 0
  · rw [hfirst, Function.update_self, hspoken]
  · rw [Function.update_of_ne hfirst, Function.update_of_ne hfirst]
    exact hfree i hi

/-- After that a message is added and spoken. -/
def spokenAgain : List CallOp := answeredAgain ++ [.addVoiceMessage [65], .speak]

/-- A message is spoken, and the host waits for 16 iterations. -/
def reminded : List CallOp := spokenAgain ++ List.replicate 16 .speak

/-- The call ends unless messages are repeated. -/
theorem reminded_spec (hidle : s.callSimulationMode = false) :
    ∃ r, emit callStep s (startCall ++ reminded) = .ok (r, answeredAgainOutputs) ∧ Calling r ∧
      (Ends r ↔ s.stickToLoopedMessage = false) := by
  cases hloop : s.stickToLoopedMessage with
  | true =>
      have hrun : ∃ r, emit callStep s (startCall ++ spokenAgain) =
          .ok (r, answeredAgainOutputs) ∧ Calling r ∧ r.simulatedCallState = .established ∧
          r.emptyMessageLoop = 0 ∧ r.stickToLoopedMessage = true ∧ waitingSlot r = some 0 := by
        cases s
        cases hidle
        cases hloop
        exact ⟨_, rfl, ⟨rfl, rfl⟩, rfl, rfl, rfl, rfl⟩
      obtain ⟨r, hrun, hcalling, hstate, hloops, hstick, hslot⟩ := hrun
      refine ⟨r, ?_, hcalling, ?_⟩
      · rw [reminded, ← List.append_assoc, emit_append hrun,
          looped_speaks hcalling.simulated hstick hloops hslot]
        simp [Except.map]
      · simp [Ends, hstate, hloops]
  | false =>
      have hrun : ∃ r, emit callStep s (startCall ++ spokenAgain) =
          .ok (r, answeredAgainOutputs) ∧ Calling r ∧ r.emptyMessageLoop = 0 ∧
          waitingSlot r = none := by
        cases s
        cases hidle
        cases hloop
        refine ⟨_, rfl, ⟨rfl, rfl⟩, rfl, silent_of_free fun i hi => ?_⟩
        refine free_after_spoken (fun j hj => ?_) _ rfl i hi
        exact congrArg VoiceMessage.state (if_pos hj)
      obtain ⟨r, hrun, hcalling, hloops, hsilent⟩ := hrun
      refine ⟨{ r with emptyMessageLoop := r.emptyMessageLoop + UInt8.ofNat 16 }, ?_,
        ⟨hcalling.simulated, hcalling.single⟩, ?_⟩
      · rw [reminded, ← List.append_assoc, emit_append hrun,
          idle_speaks hcalling.simulated hsilent]
        simp [Except.map]
      · simp [Ends, hloops, callMaxLoops]

/-- A message is spoken, and the host hangs up and is called again. -/
def renewed : List CallOp := spokenAgain ++ [hangUp, .finishTts] ++ startCall

def renewedOutputs : List CallOutput := answeredAgainOutputs ++ hangUpOutputs ++ ringOutputs

/-- The host rings for `k` passes more. -/
theorem renewed_spec (hidle : s.callSimulationMode = false) (k : Nat)
    (hk : s.timeoutCounter.toNat + k ≤ 61) :
    ∃ r, emit callStep s (startCall ++ (renewed ++ List.replicate k (.pass false))) =
        .ok (r, renewedOutputs) ∧ Calling r ∧ (Ends r ↔ s.timeoutCounter.toNat + k = 61) := by
  have hrun : ∃ r, emit callStep s (startCall ++ renewed) = .ok (r, renewedOutputs) ∧ Calling r ∧
      r.simulatedCallState = .ringing ∧ r.emptyMessageLoop = 0 ∧
      r.timeoutCounter = s.timeoutCounter := by
    cases hloop : s.stickToLoopedMessage with
    | true =>
        cases s
        cases hidle
        cases hloop
        exact ⟨_, rfl, ⟨rfl, rfl⟩, rfl, rfl, rfl⟩
    | false =>
        cases s
        cases hidle
        cases hloop
        exact ⟨_, rfl, ⟨rfl, rfl⟩, rfl, rfl, rfl⟩
  obtain ⟨r, hrun, hcalling, hstate, hloops, htimeout⟩ := hrun
  refine ⟨{ r with timeoutCounter := r.timeoutCounter + UInt8.ofNat k }, ?_,
    ⟨hcalling.simulated, hcalling.single⟩, ?_⟩
  · rw [← List.append_assoc, emit_append hrun,
      ringing_passes hcalling hstate hloops k (by rw [htimeout]; exact hk)]
    simp [Except.map]
  · simp only [Ends, hstate, hloops, htimeout, UInt8.toNat_add, UInt8.toNat_ofNat', ne_eq,
      reduceCtorEq, not_false_eq_true, true_and, UInt8.toNat_zero, callMaxLoops]
    omega

/-- Calls that have been led on in the same way end in both states, or in none. -/
theorem ends_iff (h : SameEvents s t)
    (hs : emit callStep s (startCall ++ ops) = .ok (r, outputs)) (hr : Calling r)
    (ht : emit callStep t (startCall ++ ops) = .ok (q, outputs)) (hq : Calling q) :
    Ends r ↔ Ends q :=
  ⟨ends_of_sameEvents h hs hr ht hq, ends_of_sameEvents (fun ops => (h ops).symm) ht hq hs hr⟩

theorem loops_of_sameEvents (h : Comparable s t) (hevents : SameEvents s t) :
    s.emptyMessageLoop = t.emptyMessageLoop := by
  have hloops : ∀ k, (s.emptyMessageLoop.toNat + k) % 256 > 15 ↔
      (t.emptyMessageLoop.toNat + k) % 256 > 15 := by
    intro k
    obtain ⟨r, hrun, hr, hends⟩ := loops_spec h.leftIdle k
    obtain ⟨q, hother, hq, hstops⟩ := loops_spec h.rightIdle k
    rw [callMaxLoops] at hends hstops
    rw [← hends, ← hstops]
    exact ends_iff hevents hrun hr hother hq
  -- with these numbers of iterations the counter of `s` comes to 0 and to 15
  have hzero := hloops (256 - s.emptyMessageLoop.toNat)
  have hlast := hloops (271 - s.emptyMessageLoop.toNat)
  have hsize := s.emptyMessageLoop.toNat_lt
  have hother := t.emptyMessageLoop.toNat_lt
  apply UInt8.toNat_inj.1
  omega

theorem timeout_of_sameEvents (hs : Counted s) (ht : Counted t) (h : Comparable s t)
    (hevents : SameEvents s t) : s.timeoutCounter = t.timeoutCounter := by
  have htimeout : ∀ k, s.timeoutCounter.toNat + k ≤ 61 → t.timeoutCounter.toNat + k ≤ 61 →
      (s.timeoutCounter.toNat + k = 61 ↔ t.timeoutCounter.toNat + k = 61) := by
    intro k hleft hright
    obtain ⟨r, hrun, hr, hends⟩ := renewed_spec h.leftIdle k hleft
    obtain ⟨q, hother, hq, hstops⟩ := renewed_spec h.rightIdle k hright
    rw [← hends, ← hstops]
    exact ends_iff hevents hrun hr hother hq
  -- the call that has rung for longer ends first
  have hlast := htimeout (61 - max s.timeoutCounter.toNat t.timeoutCounter.toNat)
  have hsize := hs.timeout
  have hother := ht.timeout
  apply UInt8.toNat_inj.1
  omega

theorem looped_of_sameEvents (h : Comparable s t) (hevents : SameEvents s t) :
    s.stickToLoopedMessage = t.stickToLoopedMessage := by
  obtain ⟨r, hrun, hr, hends⟩ := reminded_spec h.leftIdle
  obtain ⟨q, hother, hq, hstops⟩ := reminded_spec h.rightIdle
  have hsame : s.stickToLoopedMessage = false ↔ t.stickToLoopedMessage = false := by
    rw [← hends, ← hstops]
    exact ends_iff hevents hrun hr hother hq
  cases hleft : s.stickToLoopedMessage with
  | false => exact (hsame.1 hleft).symm
  | true =>
      cases hright : t.stickToLoopedMessage with
      | true => rfl
      | false =>
          rw [hsame.2 hright] at hleft
          cases hleft

/-- The leftovers can be told from the status events. -/
theorem leftovers_of_sameEvents (hs : Counted s) (ht : Counted t) (h : Comparable s t)
    (hevents : SameEvents s t) : SameLeftovers s t where
  loops := loops_of_sameEvents h hevents
  timeout := timeout_of_sameEvents hs ht h hevents
  looped := looped_of_sameEvents h hevents

/-! ## Fresh calls -/

/-- Two reachable idle states with the same queue and the same do-not-disturb mode lead to the same
status events exactly if they agree in the counters and the flag that only a time-out resets. -/
theorem calls_fresh_iff {earlier others : List CallOp} (hs : Run callNext Anything .zero earlier s)
    (ht : Run callNext Anything .zero others t) (h : Comparable s t) :
    SameEvents s t ↔ SameLeftovers s t := by
  have hleft := counted_of_run hs
  have hright := counted_of_run ht
  exact ⟨leftovers_of_sameEvents hleft hright h,
    sameEvents_of_leftovers hleft.slots hright.slots h⟩

/-- A call that the host ends at once leaves nothing behind. -/
theorem fresh_after_refused_call :
    ∃ t, Run callNext Anything .zero [.setPendingCallFlag true, .pass false, hangUp] t ∧
      SameEvents .zero t := by
  have hrun : ∃ t, Run callNext Anything .zero [.setPendingCallFlag true, .pass false, hangUp] t ∧
      Comparable .zero t ∧ SameLeftovers .zero t := by
    refine ⟨_, .snoc (.snoc (.snoc (.nil _) trivial rfl) trivial rfl) trivial rfl, ?_, ?_⟩
    · exact ⟨rfl, rfl, rfl, rfl⟩
    · exact ⟨rfl, rfl, rfl⟩
  obtain ⟨t, hrun, hcomparable, hleftovers⟩ := hrun
  exact ⟨t, hrun, (calls_fresh_iff (.nil _) hrun hcomparable).2 hleftovers⟩

/-- A call that rings for a pass and is ended by the host leaves its counter to the next one. -/
theorem stale_after_refused_call : ¬ CallsFresh := by
  intro h
  have hrun : ∃ t, Run callNext Anything .zero
      [.setPendingCallFlag true, .pass false, .pass false, hangUp] t ∧ Comparable .zero t ∧
      t.timeoutCounter = 1 := by
    refine ⟨_, .snoc (.snoc (.snoc (.snoc (.nil _) trivial rfl) trivial rfl) trivial rfl) trivial
      rfl, ?_, rfl⟩
    exact ⟨rfl, rfl, rfl, rfl⟩
  obtain ⟨t, hrun, hcomparable, htimeout⟩ := hrun
  have hzero : Run callNext Anything .zero [] .zero := .nil _
  have hevents := h _ _ _ _ hzero hrun hcomparable
  have hleftovers := leftovers_of_sameEvents (counted_of_run hzero) (counted_of_run hrun)
    hcomparable hevents
  have hsame := hleftovers.timeout
  rw [htimeout] at hsame
  cases hsame

end OpenQti.Call
