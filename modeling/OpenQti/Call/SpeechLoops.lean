import OpenQti.Call.Exclusion

/-!
# The threads that speak

A host that calls the modem, or answers its call, makes the daemon create a thread with
`simulated_call_tts_handler`. Nothing records that such a thread runs. It ends when it sees that no
call is simulated; a call that begins before that keeps it alive, and an answer that is repeated
creates another one. `one_speech_loop` says that there are no other ways to two threads, or to one
that speaks in a later call.

That a thread is created does not fail. The exit of a thread is one step with its last look at the
mode.
-/

namespace OpenQti.Call

open Bytes Qmi Machine Except
open Sms (PacketAction qmiMsgid)

/-- The state of the calls, the number of simulated calls that have begun, and for each thread that is
alive the number of the call for which it was created. -/
structure Speech where
  rt : CallRt
  calls : Nat
  loops : List Nat

/-- The state at start-up. -/
def Speech.zero : Speech := ⟨.zero, 0, []⟩

/-- A step of a thread that does not speak. -/
structure OtherOp where
  op : CallOp
  notSpeak : op ≠ .speak
  notFinish : op ≠ .finishTts

inductive SpeechOp where
  | other (event : OtherOp)
  /-- An iteration of the loop of a thread. -/
  | iterate (i : Nat)
  /-- A thread sees that no call is simulated, and ends. -/
  | exit (i : Nat)
  /-- A thread ends since a device or a file cannot be opened. -/
  | abandon (i : Nat)

/-- The threads that are created. -/
def threads (outputs : List CallOutput) : Nat := outputs.count .startTts

/-- A simulated call begins. -/
def Begins (s next : CallRt) (outputs : List CallOutput) : Prop :=
  Rings outputs ∨ s.callSimulationMode = false ∧ next.callSimulationMode = true

instance (outputs : List CallOutput) : Decidable (Rings outputs) :=
  inferInstanceAs (Decidable (_ ∈ _))

instance (s next : CallRt) (outputs : List CallOutput) : Decidable (Begins s next outputs) :=
  inferInstanceAs (Decidable (_ ∨ _))

/-- The thread is alive and a call is simulated. -/
def Speech.CanSpeak (st : Speech) (i : Nat) : Prop :=
  i < st.loops.length ∧ st.rt.callSimulationMode = true

/-- The thread is alive and no call is simulated. -/
def Speech.CanExit (st : Speech) (i : Nat) : Prop :=
  i < st.loops.length ∧ st.rt.callSimulationMode = false

instance (st : Speech) (i : Nat) : Decidable (st.CanSpeak i) := inferInstanceAs (Decidable (_ ∧ _))

instance (st : Speech) (i : Nat) : Decidable (st.CanExit i) := inferInstanceAs (Decidable (_ ∧ _))

/-- The state after a step. A thread that is not alive, or does not see what the step needs, does
nothing. -/
def speechStep (st : Speech) (op : SpeechOp) : Except CallFault Speech :=
  match op with
  | .other event => do
      let (next, outputs) ← callStep st.rt event.op
      let calls := if Begins st.rt next outputs then st.calls + 1 else st.calls
      .ok ⟨next, calls, st.loops ++ List.replicate (threads outputs) calls⟩
  | .iterate i => .ok (if st.CanSpeak i then { st with rt := (speak st.rt).1 } else st)
  | .exit i =>
      .ok (if st.CanExit i then
        { st with rt := finishTts st.rt, loops := st.loops.eraseIdx i } else st)
  | .abandon i => .ok { st with loops := st.loops.eraseIdx i }

/-- At most one thread is alive, one that speaks does so in its own call, and when one ends and
releases the devices no other one uses them. -/
structure OneSpeechLoop (st : Speech) : Prop where
  one : st.loops.length ≤ 1
  own : ∀ i, st.CanSpeak i → st.loops[i]? = some st.calls
  released : ∀ i, i < st.loops.length → st.loops.eraseIdx i = []

/-- There is one thread in every state that is reached. -/
def OneLoopAlways : Prop :=
  ∀ (ops : List SpeechOp) (st : Speech), Run speechStep Anything .zero ops st → OneSpeechLoop st

/-- The step begins a simulated call: by a pass of the proxy loop, or by a call of the host. -/
def BeginsCall (s : CallRt) (op : CallOp) : Prop :=
  (op = .pass false ∧ s.isCallPending = true) ∨
    ∃ callwait source bytes len, op = .packet callwait source bytes len ∧ CallsModem bytes ∧
      s.callSimulationMode = false

/-- The step is the answer to a simulated call. -/
def AnswersCall (s : CallRt) (op : CallOp) : Prop :=
  ∃ callwait source bytes len, op = .packet callwait source bytes len ∧
    qmiMsgid bytes = VoiceMsgid.callAnswerReq.code ∧ s.callSimulationMode = true

/-- A simulated call begins, or is answered, only when no thread is alive. -/
def NoLoopLeft (st : Speech) (op : SpeechOp) : Prop :=
  ∀ event, op = .other event → BeginsCall st.rt event.op ∨ AnswersCall st.rt event.op →
    st.loops = []

variable {s next : CallRt} {op : CallOp} {outputs : List CallOutput} {action : PacketAction}
  {bytes : Bytes} {len : Nat} {callwait : UInt8} {source : PacketSource} {st after : Speech}

/-! ## What creates a thread -/

theorem threads_of_absent (h : .startTts ∉ outputs) : threads outputs = 0 := List.count_eq_zero.2 h

theorem threads_close (s : CallRt) (tid : UInt16) : threads (closeInternalCall s tid).2 = 0 :=
  threads_of_absent (close_outputs s tid (.inr rfl))

theorem threads_pass (s : CallRt) (messagesPending : Bool) :
    threads (processSimulatedCalls s messagesPending).2 = 0 := by
  have hclosed : ∀ state tid, CallOutput.startTts ∉ (closeInternalCall state tid).2 :=
    fun state tid => close_outputs state tid (.inr rfl)
  refine threads_of_absent ?_
  unfold processSimulatedCalls
  split_ifs with hbusy hpending hmode
  · simp
  · simp [startSimulatedCall, sendVoiceCallStatusEvent]
  · have hidle : CallOutput.startTts ∉ (closeIdleCall s).2 := by
      unfold closeIdleCall
      split_ifs
      · exact hclosed s _
      · simp
    have hkilled : CallOutput.startTts ∉ (killUnansweredCall (closeIdleCall s).1).2 := by
      unfold killUnansweredCall
      split_ifs
      · exact hclosed _ _
      · simp
      · simp
    simp only [notifySimulatedCall, List.mem_append]
    exact fun h => h.elim hidle hkilled
  · simp

/-- What a packet of the voice service does to the threads and the mode. -/
structure Served (s : CallRt) (bytes : Bytes) (next : CallRt) (outputs : List CallOutput) : Prop where
  begins : CallsModem bytes → s.callSimulationMode = false →
    next.callSimulationMode = true ∧ threads outputs = 1
  answers : qmiMsgid bytes = VoiceMsgid.callAnswerReq.code → s.callSimulationMode = true →
    next.callSimulationMode = true ∧ threads outputs = 1
  others : ¬ (CallsModem bytes ∧ s.callSimulationMode = false) →
    ¬ (qmiMsgid bytes = VoiceMsgid.callAnswerReq.code ∧ s.callSimulationMode = true) →
    threads outputs = 0 ∧ (next.callSimulationMode = true → s.callSimulationMode = true)

/-- A packet that neither begins nor answers a call. -/
theorem served_other (hcalls : ¬ (CallsModem bytes ∧ s.callSimulationMode = false))
    (hanswer : ¬ (qmiMsgid bytes = VoiceMsgid.callAnswerReq.code ∧ s.callSimulationMode = true))
    (hthreads : threads outputs = 0)
    (hmode : next.callSimulationMode = true → s.callSimulationMode = true) :
    Served s bytes next outputs where
  begins := fun h hidle => absurd ⟨h, hidle⟩ hcalls
  answers := fun h hmode => absurd ⟨h, hmode⟩ hanswer
  others := fun _ _ => ⟨hthreads, hmode⟩

theorem request_served (hrequest : qmiMsgid bytes = VoiceMsgid.callRequest.code)
    (h : handleVoiceServiceCallRequest s bytes = .ok (action, next, outputs)) :
    Served s bytes next outputs := by
  have hanswer : ¬ (qmiMsgid bytes = VoiceMsgid.callAnswerReq.code ∧
      s.callSimulationMode = true) := by
    rintro ⟨hanswer, _⟩
    rw [hrequest] at hanswer
    cases hanswer
  unfold handleVoiceServiceCallRequest at h
  split_ifs at h with hlong hours hidle hmode
  · cases h
    have hidle : s.callSimulationMode = false := by simpa using hidle
    exact ⟨fun _ _ => ⟨rfl, rfl⟩, fun h hmode => absurd ⟨h, hmode⟩ hanswer,
      fun hother => absurd ⟨⟨hrequest, hours⟩, hidle⟩ hother⟩
  · cases h
    exact served_other (fun hcalls => hidle (by simp [hcalls.2])) hanswer rfl id
  · cases h
    exact served_other (fun hcalls => hours hcalls.1.2) hanswer (threads_close _ _)
      (fun hclosed => nomatch hclosed)
  · cases h
    exact served_other (fun hcalls => hours hcalls.1.2) hanswer rfl id

theorem answer_served (hanswer : qmiMsgid bytes = VoiceMsgid.callAnswerReq.code)
    (h : handleVoiceServiceAnswerRequest s bytes = .ok (action, next, outputs)) :
    Served s bytes next outputs := by
  have hcalls : ¬ CallsModem bytes := by
    intro hcalls
    have hsame := hanswer.symm.trans hcalls.1
    cases hsame
  unfold handleVoiceServiceAnswerRequest at h
  split_ifs at h with hmode
  · cases h
    exact ⟨fun h => absurd h hcalls, fun _ _ => ⟨hmode, rfl⟩,
      fun _ hother => absurd ⟨hanswer, hmode⟩ hother⟩
  · cases h
    exact served_other (fun h => hcalls h.1) (fun h => hmode h.2) rfl id

/-- What a packet of the voice service does to the threads. -/
theorem service_served
    (h : callServiceHandler s callwait source bytes len = .ok (action, next, outputs)) :
    Served s bytes next outputs := by
  have hserves := (service_serves h).1
  unfold callServiceHandler at h
  split_ifs at h with hrequest hanswer hinfo hstatus hall hend
  · exact request_served hrequest h
  · exact answer_served hanswer h
  -- the other packets create no threads, and begin no calls
  all_goals
    have hcalls : ¬ (CallsModem bytes ∧ s.callSimulationMode = false) := fun h => hrequest h.1.1
    have hkept : next.callSimulationMode = true → s.callSimulationMode = true := by
      cases hserves with
      | unchanged => exact id
      | closed hmode | accepted hmode => exact fun _ => hmode
      | begun _ hbegun => exact absurd hbegun.1 hrequest
    refine served_other hcalls (fun h => hanswer h.1) (threads_of_absent ?_) hkept
  · unfold handleVoiceServiceCallInfo at h
    split_ifs at h with hquiet
    · obtain ⟨direction, _, h⟩ := bind_ok h
      cases h
      simp
    · cases h
      simp
  · exact status_outputs (.inr rfl) h
  · unfold handleVoiceServiceAllCallStatusInfo at h
    split_ifs at h with hquiet
    · cases h
      simp
    · cases h
      simp
  · unfold handleVoiceServiceDisconnectRequest at h
    split_ifs at h with hmode
    · cases h
      have hclosed : .startTts ∉ (closeInternalCall s (getQmiTransactionId bytes)).2 :=
        close_outputs s _ (.inr rfl)
      exact fun hcreated => hclosed ((List.mem_cons.1 hcreated).resolve_left (by simp))
    · cases h
      simp
  · cases h
    simp

/-- What a step of another thread does to the threads and the mode. -/
structure Affects (s : CallRt) (op : CallOp) (next : CallRt) (outputs : List CallOutput) : Prop where
  begins : BeginsCall s op →
    Begins s next outputs ∧ next.callSimulationMode = true ∧ threads outputs ≤ 1
  answers : AnswersCall s op →
    ¬ Begins s next outputs ∧ next.callSimulationMode = true ∧ threads outputs = 1
  others : ¬ BeginsCall s op → ¬ AnswersCall s op → ¬ Begins s next outputs ∧
    threads outputs = 0 ∧ (next.callSimulationMode = true → s.callSimulationMode = true)

/-- The mode is not turned on, and no call is started. -/
theorem not_begins (hquiet : ¬ Rings outputs)
    (hmode : next.callSimulationMode = true → s.callSimulationMode = true) :
    ¬ Begins s next outputs := by
  rintro (hrings | ⟨hidle, hbegun⟩)
  · exact hquiet hrings
  · rw [hmode hbegun] at hidle
    cases hidle

/-- A step that is neither a pass nor a packet. -/
theorem affects_other (hpass : ∀ messagesPending, op ≠ .pass messagesPending)
    (hpacket : ∀ callwait source bytes len, op ≠ .packet callwait source bytes len)
    (hmode : next.callSimulationMode = s.callSimulationMode) : Affects s op next [] where
  begins := by
    rintro (⟨hop, _⟩ | ⟨_, _, _, _, hop, _⟩)
    · exact absurd hop (hpass _)
    · exact absurd hop (hpacket _ _ _ _)
  answers := by
    rintro ⟨_, _, _, _, hop, _⟩
    exact absurd hop (hpacket _ _ _ _)
  others := fun _ _ =>
    ⟨not_begins not_rings_nil hmode.symm.trans, rfl, hmode.symm.trans⟩

theorem not_answers_pass (s : CallRt) (messagesPending : Bool) :
    ¬ AnswersCall s (.pass messagesPending) := by
  rintro ⟨_, _, _, _, hop, _⟩
  cases hop

theorem affects_pass (s : CallRt) (messagesPending : Bool) :
    Affects s (.pass messagesPending) (processSimulatedCalls s messagesPending).1
      (processSimulatedCalls s messagesPending).2 := by
  have hthreads := threads_pass s messagesPending
  have hanswers := not_answers_pass s messagesPending
  constructor
  · rintro (⟨hop, hpending⟩ | ⟨_, _, _, _, hop, _⟩)
    · cases hop
      have hstart : processSimulatedCalls s false =
          startSimulatedCall (setPendingCallFlag s false) := by
        simp [processSimulatedCalls, hpending]
      refine ⟨.inl ?_, ?_, hthreads.le.trans zero_le_one⟩
      · rw [hstart]
        exact List.mem_cons_self
      · rw [hstart]
        rfl
    · cases hop
  · exact fun h => absurd h hanswers
  · intro hbegins _
    have hquiet : ¬ Rings (processSimulatedCalls s messagesPending).2 ∧
        ((processSimulatedCalls s messagesPending).1.callSimulationMode = true →
          s.callSimulationMode = true) := by
      unfold processSimulatedCalls
      split_ifs with hbusy hpending hmode
      · exact ⟨not_rings_nil, id⟩
      · exact absurd (.inl ⟨by simpa using hbusy, hpending⟩) hbegins
      · exact ⟨(notify_spec s).2, fun _ => hmode⟩
      · exact ⟨not_rings_nil, id⟩
    exact ⟨not_begins hquiet.1 hquiet.2, hthreads, hquiet.2⟩

theorem affects_packet
    (h : callServiceHandler s callwait source bytes len = .ok (action, next, outputs)) :
    Affects s (.packet callwait source bytes len) next outputs := by
  have hquiet := (service_serves h).2
  have hserved := service_served h
  constructor
  · rintro (⟨hop, _⟩ | ⟨_, _, _, _, hop, hcalls, hidle⟩)
    · cases hop
    · cases hop
      obtain ⟨hmode, hthreads⟩ := hserved.begins hcalls hidle
      exact ⟨.inr ⟨hidle, hmode⟩, hmode, hthreads.le⟩
  · rintro ⟨_, _, _, _, hop, hanswer, hmode⟩
    cases hop
    obtain ⟨hafter, hthreads⟩ := hserved.answers hanswer hmode
    exact ⟨not_begins hquiet fun _ => hmode, hafter, hthreads⟩
  · intro hbegins hanswers
    obtain ⟨hthreads, hmode⟩ := hserved.others
      (fun h => hbegins (.inr ⟨_, _, _, _, rfl, h⟩)) (fun h => hanswers ⟨_, _, _, _, rfl, h⟩)
    exact ⟨not_begins hquiet hmode, hthreads, hmode⟩

theorem step_affects (h : callStep s op = .ok (next, outputs)) : Affects s op next outputs := by
  cases step_effect h with
  | pending | looped | mode | added | spoken | finished =>
      exact affects_other (fun _ hop => nomatch hop) (fun _ _ _ _ hop => nomatch hop) rfl
  | passed messagesPending => exact affects_pass s messagesPending
  | handled hservice => exact affects_packet hservice

/-! ## Runs -/

/-- The threads of every state that is reached under the condition. A thread is one of a call that has
begun. -/
structure Owned (st : Speech) : Prop where
  one : st.loops.length ≤ 1
  own : st.rt.callSimulationMode = true → ∀ call ∈ st.loops, call = st.calls
  begun : ∀ call ∈ st.loops, call ≤ st.calls

theorem Owned.oneSpeechLoop (h : Owned st) : OneSpeechLoop st where
  one := h.one
  own := by
    rintro i ⟨hi, hmode⟩
    rw [List.getElem?_eq_getElem hi, h.own hmode _ (List.getElem_mem hi)]
  released := by
    intro i hi
    have hlength := List.length_eraseIdx_of_lt hi
    rw [← List.length_eq_zero_iff]
    have hone := h.one
    omega

/-- The steps of the threads themselves. -/
theorem Owned.fewer {loops : List Nat} {rt : CallRt} (h : Owned st) (hloops : loops.Sublist st.loops)
    (hmode : rt.callSimulationMode = st.rt.callSimulationMode) : Owned ⟨rt, st.calls, loops⟩ where
  one := hloops.length_le.trans h.one
  own := fun hcalling call hcall => h.own (hmode.symm.trans hcalling) call (hloops.subset hcall)
  begun := fun call hcall => h.begun call (hloops.subset hcall)

theorem mode_speak (s : CallRt) : (speak s).1.callSimulationMode = s.callSimulationMode := by
  obtain ⟨msg, loops, hframe⟩ := speak_frame s
  rw [hframe]

theorem other_step_ok {event : OtherOp} (h : speechStep st (.other event) = .ok after) :
    ∃ next outputs, callStep st.rt event.op = .ok (next, outputs) ∧
      after = ⟨next, if Begins st.rt next outputs then st.calls + 1 else st.calls,
        st.loops ++ List.replicate (threads outputs)
          (if Begins st.rt next outputs then st.calls + 1 else st.calls)⟩ := by
  obtain ⟨⟨next, outputs⟩, hstep, h⟩ := bind_ok h
  cases h
  exact ⟨next, outputs, hstep, rfl⟩

/-- With no thread alive, a step creates at most one, and that for the call of the moment. -/
theorem owned_of_none {rt : CallRt} {calls created : Nat} (hcreated : created ≤ 1) :
    Owned ⟨rt, calls, List.replicate created calls⟩ where
  one := by simpa using hcreated
  own := fun _ _ hcall => List.eq_of_mem_replicate hcall
  begun := fun _ hcall => (List.eq_of_mem_replicate hcall).le

/-- A step of another thread keeps a single thread exactly if it does not begin or answer a call
while one is alive. -/
theorem Owned.other {event : OtherOp} (h : Owned st)
    (hstep : speechStep st (.other event) = .ok after) :
    (NoLoopLeft st (.other event) → Owned after) ∧
      (OneSpeechLoop after → NoLoopLeft st (.other event)) := by
  obtain ⟨next, outputs, hcall, rfl⟩ := other_step_ok hstep
  have haffects := step_affects hcall
  by_cases hstarts : BeginsCall st.rt event.op ∨ AnswersCall st.rt event.op
  · have hmode : next.callSimulationMode = true :=
      hstarts.elim (fun h => (haffects.begins h).2.1) (fun h => (haffects.answers h).2.1)
    have hcreated : threads outputs ≤ 1 :=
      hstarts.elim (fun h => (haffects.begins h).2.2) (fun h => (haffects.answers h).2.2.le)
    -- a call begins or is answered: at most one thread is created
    constructor
    · intro hnone
      rw [hnone event rfl hstarts]
      exact owned_of_none hcreated
    · intro hone _ hevent _
      cases hevent
      -- otherwise the first thread is one of an earlier call, or there are two
      by_contra hleft
      obtain ⟨call, rest, hloops⟩ := List.exists_cons_of_ne_nil hleft
      rcases hstarts with hbegins | hanswers
      · have hfirst := hone.own 0 ⟨by simp [hloops], hmode⟩
        have hbegun := h.begun call (by simp [hloops])
        rw [if_pos (haffects.begins hbegins).1] at hfirst
        simp only [hloops, List.cons_append, List.getElem?_cons_zero, Option.some.injEq] at hfirst
        omega
      · have htwo := hone.one
        simp only [hloops, (haffects.answers hanswers).2.2, List.length_append, List.length_cons,
          List.length_replicate] at htwo
        omega
  · obtain ⟨hbegins, hanswers⟩ := not_or.1 hstarts
    obtain ⟨hno, hthreads, hmode⟩ := haffects.others hbegins hanswers
    refine ⟨fun _ => ?_, fun _ _ hevent hstart => ?_⟩
    · rw [if_neg hno, hthreads, List.replicate_zero, List.append_nil]
      exact ⟨h.one, fun hcalling => h.own (hmode hcalling), h.begun⟩
    · cases hevent
      exact absurd hstart hstarts

/-- A step keeps a single thread exactly if it is allowed. -/
theorem Owned.step {op : SpeechOp} (h : Owned st) (hstep : speechStep st op = .ok after) :
    (NoLoopLeft st op → Owned after) ∧ (OneSpeechLoop after → NoLoopLeft st op) := by
  cases op with
  | other event => exact h.other hstep
  | iterate i =>
      cases hstep
      refine ⟨fun _ => ?_, fun _ _ hevent => nomatch hevent⟩
      split_ifs
      · exact h.fewer (List.Sublist.refl _) (mode_speak st.rt)
      · exact h
  | exit i =>
      cases hstep
      refine ⟨fun _ => ?_, fun _ _ hevent => nomatch hevent⟩
      split_ifs
      · exact h.fewer (List.eraseIdx_sublist ..) rfl
      · exact h
  | abandon i =>
      cases hstep
      exact ⟨fun _ => h.fewer (List.eraseIdx_sublist ..) rfl, fun _ _ hevent => nomatch hevent⟩

/-- In every run in which no call begins or is answered while a thread is alive there is at most one
thread, and a next step keeps this exactly if it meets the condition. -/
theorem one_speech_loop {ops : List SpeechOp} (h : Run speechStep NoLoopLeft .zero ops st) :
    OneSpeechLoop st ∧ ∀ op after, speechStep st op = .ok after →
      (OneSpeechLoop after ↔ NoLoopLeft st op) := by
  have howned : Owned st := by
    refine Run.invariant Owned ?_ (fun _ _ _ howned hallowed hstep =>
      (howned.step hstep).1 hallowed) h
    exact ⟨Nat.zero_le _, fun _ _ hcall => (nomatch hcall), fun _ hcall => (nomatch hcall)⟩
  refine ⟨howned.oneSpeechLoop, fun op after hstep => ?_⟩
  obtain ⟨hkept, hallowed⟩ := howned.step hstep
  exact ⟨hallowed, fun h => (hkept h).oneSpeechLoop⟩

/-- A packet of the host. -/
def hostPacket (bytes : Bytes) : SpeechOp := .other ⟨.packet 0 .fromHost bytes 28, by simp, by simp⟩

/-- The host calls the modem, and says that it takes the call. -/
theorem repeated_answer_speaks_twice : ¬ OneLoopAlways := by
  intro h
  have hrun : ∃ st, Run speechStep Anything .zero
      [hostPacket (sampleRequest 0x20 5 0), hostPacket (sampleRequest 0x22 6 0)] st ∧
      st.loops = [1, 1] := ⟨_, .snoc (.snoc (.nil _) trivial rfl) trivial rfl, rfl⟩
  obtain ⟨st, hrun, hloops⟩ := hrun
  have hone := (h _ _ hrun).one
  simp [hloops] at hone

/-- The host calls the modem, hangs up, and calls again after the thread has ended. -/
theorem redial_after_exit :
    ∃ st, Run speechStep NoLoopLeft .zero
        [hostPacket (sampleRequest 0x20 5 0), .iterate 0, hostPacket (sampleRequest 0x21 6 0),
          .exit 0, hostPacket (sampleRequest 0x20 7 0)] st ∧
      OneSpeechLoop st ∧ st.loops = [2] := by
  have hrun : ∃ st, Run speechStep NoLoopLeft .zero
      [hostPacket (sampleRequest 0x20 5 0), .iterate 0, hostPacket (sampleRequest 0x21 6 0),
        .exit 0, hostPacket (sampleRequest 0x20 7 0)] st ∧ st.loops = [2] := by
    refine ⟨_, .snoc (.snoc (.snoc (.snoc (.snoc (.nil _) ?_ rfl) ?_ rfl) ?_ rfl) ?_ rfl) ?_ rfl, rfl⟩
    · exact fun _ _ _ => rfl
    · exact fun _ hop => nomatch hop
    · rintro _ hop ((⟨hpass, _⟩ | ⟨_, _, _, _, hpacket, hcalls, _⟩) |
        ⟨_, _, _, _, hpacket, hanswer, _⟩)
      · cases hop
        cases hpass
      · cases hop
        cases hpacket
        exact absurd hcalls.1 (by decide)
      · cases hop
        cases hpacket
        exact absurd hanswer (by decide)
    · exact fun _ hop => nomatch hop
    · exact fun _ _ _ => rfl
  obtain ⟨st, hrun, hloops⟩ := hrun
  exact ⟨st, hrun, (one_speech_loop hrun).1, hloops⟩

end OpenQti.Call
