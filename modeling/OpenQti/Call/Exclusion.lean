import OpenQti.Call.Steps

/-!
# One simulated call at a time

A call of the modem to the host waits for the next pass of the proxy loop. `set_pending_call_flag`
does not let it wait while a call is simulated, but a call of the host to the modem may begin after
that. The pass that follows starts the second call inside of the first one. `calls_exclusive` says
that no other step leads to such a state.
-/

namespace OpenQti.Call

open Bytes Qmi Machine Except
open Sms (PacketAction qmiMsgid)

/-- A call is to be started, and one is simulated. -/
def CallInsideCall (s : CallRt) : Prop := s.isCallPending ∧ s.callSimulationMode

/-- No call is to be started during another one, and none is started there. -/
structure Exclusive (s : CallRt) : Prop where
  flags : ¬ CallInsideCall s
  starts : ∀ op next outputs, callStep s op = .ok (next, outputs) → Rings outputs →
    s.callSimulationMode = false

/-- Simulated calls are exclusive in every state that is reached. -/
def CallsExclusive : Prop :=
  ∀ (ops : List CallOp) (s : CallRt), Run callNext Anything .zero ops s → Exclusive s

/-- The step is not a call of the host to the modem while a call to the host waits. -/
def NoHostCallWhilePending (s : CallRt) (op : CallOp) : Prop :=
  ∀ callwait source bytes len, op = .packet callwait source bytes len → CallsModem bytes →
    s.isCallPending = false

variable {s next : CallRt} {op : CallOp} {outputs : List CallOutput}

/-! ## The steps -/

/-- The end of an unanswered or idle call clears the flags. -/
theorem notify_spec (s : CallRt) :
    ((notifySimulatedCall s).1.isCallPending = true → s.isCallPending = true) ∧
      ¬ Rings (notifySimulatedCall s).2 := by
  have hclosed : ∀ state, ((closeIdleCall state).1.isCallPending = true →
      state.isCallPending = true) ∧
      ¬ Rings (closeIdleCall state).2 := by
    intro state
    unfold closeIdleCall
    split_ifs
    · exact ⟨fun h => (nomatch h), close_quiet _ _⟩
    · exact ⟨id, by simp [Rings]⟩
  have hkilled : ∀ state, ((killUnansweredCall state).1.isCallPending = true →
      state.isCallPending = true) ∧ ¬ Rings (killUnansweredCall state).2 := by
    intro state
    unfold killUnansweredCall
    split_ifs
    · exact ⟨fun h => (nomatch h), close_quiet _ _⟩
    · exact ⟨id, by simp [Rings]⟩
    · exact ⟨id, by simp [Rings]⟩
  refine ⟨fun h => (hclosed s).1 ((hkilled _).1 h), ?_⟩
  have hfirst := (hclosed s).2
  have hsecond := (hkilled (closeIdleCall s).1).2
  simp only [Rings, notifySimulatedCall, List.mem_append] at hfirst hsecond ⊢
  exact fun h => h.elim hfirst hsecond

/-- A pass of the proxy loop: the call that waits is started, or the flag is not raised. -/
theorem pass_spec (messagesPending : Bool) :
    (¬ CallInsideCall s → ¬ CallInsideCall (processSimulatedCalls s messagesPending).1) ∧
      (Rings (processSimulatedCalls s messagesPending).2 → s.isCallPending = true) := by
  unfold processSimulatedCalls
  split_ifs with hbusy hpending hmode
  · exact ⟨id, fun h => by simp [Rings] at h⟩
  · exact ⟨fun _ h => absurd h.1 (by simp [startSimulatedCall, sendVoiceCallStatusEvent,
      setCallSimulationMode, setPendingCallFlag]), fun _ => hpending⟩
  · obtain ⟨hflag, hquiet⟩ := notify_spec s
    exact ⟨fun _ h => absurd (hflag h.1) hpending, fun h => absurd h hquiet⟩
  · exact ⟨id, fun h => by simp [Rings] at h⟩

/-- The flags after a packet of the voice service. -/
theorem packet_flags {callwait : UInt8} {source : PacketSource} {bytes : Bytes} {len : Nat}
    {action : PacketAction} (hflags : ¬ CallInsideCall s)
    (h : callServiceHandler s callwait source bytes len = .ok (action, next, outputs)) :
    CallInsideCall next ↔ CallsModem bytes ∧ s.isCallPending = true := by
  have hidle : s.callSimulationMode = true → s.isCallPending = true → False :=
    fun hmode hpending => hflags ⟨hpending, hmode⟩
  cases (service_serves h).1 with
  | unchanged hbusy =>
      exact ⟨fun hinside => absurd hinside hflags, fun h => absurd h.2 (hidle (hbusy h.1))⟩
  | closed hmode hother | accepted hmode hother =>
      exact ⟨fun hinside => absurd hinside.1 (hidle hmode), fun h => absurd h.1 hother⟩
  | begun hstopped hcalls => exact ⟨fun hinside => ⟨hcalls, hinside.1⟩, fun h => ⟨h.2, rfl⟩⟩

/-- A step keeps the flags apart exactly if it is not a call of the host to the modem while a call
to the host waits. A call is started only if it waits. -/
theorem step_flags (hflags : ¬ CallInsideCall s) (h : callStep s op = .ok (next, outputs)) :
    (¬ CallInsideCall next ↔ NoHostCallWhilePending s op) ∧
      (Rings outputs → s.isCallPending = true) := by
  -- all steps but those of the voice service are allowed
  have hkept : (∀ callwait source bytes len, op ≠ .packet callwait source bytes len) →
      ¬ CallInsideCall next → (¬ CallInsideCall next ↔ NoHostCallWhilePending s op) :=
    fun hop hnext => iff_of_true hnext fun _ _ _ _ hpacket => absurd hpacket (hop _ _ _ _)
  cases step_effect h with
  | pending en =>
      refine ⟨hkept (fun _ _ _ _ hop => nomatch hop) fun hinside => ?_,
        fun hrings => absurd hrings not_rings_nil⟩
      have hraised := hinside.1
      have hmode : s.callSimulationMode = true := hinside.2
      simp [setPendingCallFlag, hmode] at hraised
  | looped | mode | added | spoken | finished =>
      exact ⟨hkept (fun _ _ _ _ hop => nomatch hop) hflags,
        fun hrings => absurd hrings not_rings_nil⟩
  | passed messagesPending =>
      obtain ⟨hapart, hstarts⟩ := pass_spec (s := s) messagesPending
      exact ⟨hkept (fun _ _ _ _ hop => nomatch hop) (hapart hflags), hstarts⟩
  | handled hservice =>
      refine ⟨?_, fun hrings => absurd hrings (service_serves hservice).2⟩
      rw [packet_flags hflags hservice]
      constructor
      · intro hapart _ _ _ _ hop hcalls
        cases hop
        simpa using fun hpending => hapart ⟨hcalls, hpending⟩
      · intro hallowed hcalls
        have hidle := hallowed _ _ _ _ rfl hcalls.1
        rw [hcalls.2] at hidle
        cases hidle

/-! ## Runs -/

theorem exclusive_of_flags (hflags : ¬ CallInsideCall s) : Exclusive s where
  flags := hflags
  starts := by
    intro op next outputs h hrings
    have hpending := (step_flags hflags h).2 hrings
    cases hmode : s.callSimulationMode with
    | false => rfl
    | true => exact absurd ⟨hpending, hmode⟩ hflags

/-- In every run in which the host does not call the modem while a call to the host waits, simulated
calls are exclusive, and a next step keeps them so exactly if it is not such a call either. -/
theorem calls_exclusive {ops : List CallOp} (h : Run callNext NoHostCallWhilePending .zero ops s) :
    Exclusive s ∧ ∀ op next, callNext s op = .ok next →
      (Exclusive next ↔ NoHostCallWhilePending s op) := by
  have hflags : ¬ CallInsideCall s := by
    refine Run.invariant (fun s => ¬ CallInsideCall s) (fun hinside => by cases hinside.1) ?_ h
    intro s op next hflags hallowed hnext
    obtain ⟨outputs, hstep⟩ := callNext_ok hnext
    exact (step_flags hflags hstep).1.2 hallowed
  refine ⟨exclusive_of_flags hflags, fun op next hnext => ?_⟩
  obtain ⟨outputs, hstep⟩ := callNext_ok hnext
  rw [← (step_flags hflags hstep).1]
  exact ⟨fun hexclusive => hexclusive.flags, exclusive_of_flags⟩

/-- The modem is to call the host, and the host calls the modem first. -/
theorem host_calls_while_pending : ¬ CallsExclusive := by
  intro h
  have hrun : ∃ s, Run callNext Anything .zero
      [.setPendingCallFlag true, .packet 0 .fromHost (sampleRequest 0x20 5 0) 28] s ∧
      CallInsideCall s := by
    refine ⟨_, .snoc (.snoc (.nil _) trivial rfl) trivial rfl, ?_⟩
    exact ⟨rfl, rfl⟩
  obtain ⟨s, hrun, hinside⟩ := hrun
  exact (h _ _ hrun).flags hinside

/-- The host calls the modem, hangs up, and is called. -/
theorem host_calls_then_modem :
    ∃ s, Run callNext NoHostCallWhilePending .zero
        [.packet 0 .fromHost (sampleRequest 0x20 5 0) 28,
          .packet 0 .fromHost (sampleRequest 0x21 6 0) 28, .setPendingCallFlag true, .pass false] s ∧
      Exclusive s ∧ s.callSimulationMode = true := by
  have hrun : ∃ s, Run callNext NoHostCallWhilePending .zero
      [.packet 0 .fromHost (sampleRequest 0x20 5 0) 28,
        .packet 0 .fromHost (sampleRequest 0x21 6 0) 28, .setPendingCallFlag true, .pass false] s ∧
      s.callSimulationMode = true := by
    refine ⟨_, .snoc (.snoc (.snoc (.snoc (.nil _) ?_ rfl) ?_ rfl) ?_ rfl) ?_ rfl, rfl⟩
    · exact fun _ _ _ _ _ _ => rfl
    · exact fun _ _ _ _ _ _ => rfl
    · exact fun _ _ _ _ hop => (nomatch hop)
    · exact fun _ _ _ _ hop => (nomatch hop)
  obtain ⟨s, hrun, hmode⟩ := hrun
  exact ⟨s, hrun, (calls_exclusive hrun).1, hmode⟩

end OpenQti.Call
