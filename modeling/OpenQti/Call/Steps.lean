import OpenQti.Call.Service
import OpenQti.Lib.Run

/-!
# What happens to the calls

The threads of the daemon that touch `call_rt` do so in the steps of `CallOp`: chat commands and
tasks set flags and queue messages, both sides send packets of the voice service, the proxy loop
passes, and the thread of a call speaks or ends. For each part of the service there is a lemma that
says how it changes the state.
-/

namespace OpenQti.Call

open Bytes Qmi Machine Except
open Sms (PacketAction qmiMsgid)

/-- A step of one of the threads. -/
inductive CallOp where
  /-- By the 'call me' command, a call task, or the proxy. -/
  | setPendingCallFlag (en : Bool)
  /-- By a call task. -/
  | setLoopedMessage (en : Bool)
  | setDoNotDisturb (en : Bool)
  | addVoiceMessage (message : List UInt8)
  /-- A packet of the voice service, with the setting for waiting calls. -/
  | packet (callwait : UInt8) (source : PacketSource) (bytes : Bytes) (len : Nat)
  /-- `process_simulated_packet`. -/
  | pass (messagesPending : Bool)
  /-- An iteration of the loop of `simulated_call_tts_handler`. -/
  | speak
  /-- The end of `simulated_call_tts_handler`. -/
  | finishTts

/-- The state after a step, and what has been sent. -/
def callStep (s : CallRt) (op : CallOp) : Except CallFault (CallRt × List CallOutput) :=
  match op with
  | .setPendingCallFlag en => .ok (setPendingCallFlag s en, [])
  | .setLoopedMessage en => .ok (setLoopedMessage s en, [])
  | .setDoNotDisturb en => .ok (setDoNotDisturb s en, [])
  | .addVoiceMessage message => do
      let s ← addVoiceMessageToQueue s message
      .ok (s, [])
  | .packet callwait source bytes len => do
      let (_, s, outputs) ← callServiceHandler s callwait source bytes len
      .ok (s, outputs)
  | .pass messagesPending => .ok (processSimulatedCalls s messagesPending)
  -- the loop goes on only while a call is simulated
  | .speak => .ok (if s.callSimulationMode then (speak s).1 else s, [])
  | .finishTts => .ok (finishTts s, [])

/-- The state after a step. -/
def callNext (s : CallRt) (op : CallOp) : Except CallFault CallRt :=
  (callStep s op).map Prod.fst

variable {s next : CallRt} {op : CallOp} {outputs : List CallOutput} {action : PacketAction}
  {bytes : Bytes} {len : Nat} {callwait : UInt8} {source : PacketSource}

theorem callNext_ok (h : callNext s op = .ok next) :
    ∃ outputs, callStep s op = .ok (next, outputs) := by
  obtain ⟨⟨_, outputs⟩, hstep, rfl⟩ := of_map_ok h
  exact ⟨outputs, hstep⟩

/-! ## The handler of a packet -/

theorem handler_of_call_request (hmsgid : qmiMsgid bytes = VoiceMsgid.callRequest.code) :
    callServiceHandler s callwait source bytes len = handleVoiceServiceCallRequest s bytes :=
  if_pos hmsgid

theorem handler_of_answer_request (hmsgid : qmiMsgid bytes = VoiceMsgid.callAnswerReq.code) :
    callServiceHandler s callwait source bytes len = handleVoiceServiceAnswerRequest s bytes := by
  rw [callServiceHandler, hmsgid]
  rfl

theorem handler_of_end_request (hmsgid : qmiMsgid bytes = VoiceMsgid.callEndReq.code) :
    callServiceHandler s callwait source bytes len =
      handleVoiceServiceDisconnectRequest s bytes := by
  rw [callServiceHandler, hmsgid]
  rfl

/-! ## The voice -/

theorem add_frame {message : List UInt8} (h : addVoiceMessageToQueue s message = .ok next) :
    ∃ msg, next = { s with msg := msg } := by
  unfold addVoiceMessageToQueue at h
  by_cases hempty : message.length > 0
  · rw [if_pos hempty] at h
    cases hslot : freeSlot s with
    | none =>
        rw [hslot] at h
        cases h
        exact ⟨_, rfl⟩
    | some i =>
        simp only [hslot] at h
        split_ifs at h
        cases h
        exact ⟨_, rfl⟩
  · rw [if_neg hempty] at h
    cases h
    exact ⟨_, rfl⟩

theorem speak_frame (s : CallRt) :
    ∃ msg loops, (speak s).1 = { s with msg := msg, emptyMessageLoop := loops } := by
  unfold speak
  cases waitingSlot s with
  | none => exact ⟨_, _, rfl⟩
  | some i =>
      cases hloop : s.stickToLoopedMessage with
      | true => exact ⟨s.msg, 0, by simp [hloop]⟩
      | false => exact ⟨_, 0, by simp; rfl⟩

/-! ## The parts of the service -/

/-- Does the output come from `start_simulated_call`? -/
def Rings (outputs : List CallOutput) : Prop := .pulseRingIn ∈ outputs

theorem accept_quiet (s : CallRt) (tid : UInt16) : ¬ Rings (processIncomingCallAccept s tid).2 := by
  simp [Rings, processIncomingCallAccept, sendVoiceCallStatusEvent]

theorem dummy_quiet (s : CallRt) (tid : UInt16) : ¬ Rings (sendDummyCallEstablished s tid).2 := by
  simp [Rings, sendDummyCallEstablished, sendVoiceCallStatusEvent]

theorem copy_outputs {scan copied : StatusScan} {offset : Nat}
    (h : scan.copy bytes offset = .ok copied) : copied.outputs = scan.outputs := by
  simp only [StatusScan.copy] at h
  split_ifs at h
  cases h
  rfl

/-- Neither a packet, nor a message, nor a call of `handle_call_pkt`. -/
def CallOutput.Inside (output : CallOutput) : Prop := output = .pulseRingIn ∨ output = .startTts

theorem CallOutput.Inside.not_sent {output : CallOutput} (h : output.Inside) :
    (∀ packet, output ≠ .write packet) ∧ (∀ tid callId, output ≠ .hangUp tid callId) ∧
      (∀ text, output ≠ .sms text) ∧ ∀ number, output ≠ .callPkt number := by
  rcases h with rfl | rfl
  · simp
  · simp

/-- The loop over the instances of calls sends messages and requests to end calls. -/
theorem round_outputs {info offset i : Nat} {scan after : StatusScan} {output : CallOutput}
    (hinside : output.Inside) (habsent : output ∉ scan.outputs)
    (h : statusRound s callwait bytes info offset scan i = .ok after) :
    output ∉ after.outputs := by
  obtain ⟨_, hhangUp, hsms, _⟩ := hinside.not_sent
  unfold statusRound at h
  split_ifs at h with hfirst hwaiting
  · obtain ⟨copied, hcopy, h⟩ := bind_ok h
    cases h
    rw [← copy_outputs hcopy] at habsent
    simp only [announceFirst]
    split_ifs
    · simp [hsms, hhangUp]
    · simp [hsms]
    · exact habsent
    · simp [hsms]
    · exact habsent
  · obtain ⟨copied, hcopy, h⟩ := bind_ok h
    cases h
    rw [← copy_outputs hcopy] at habsent
    exact habsent
  · obtain ⟨copied, hcopy, h⟩ := bind_ok h
    cases h
    rw [← copy_outputs hcopy] at habsent
    exact habsent

theorem close_outputs (s : CallRt) (tid : UInt16) {output : CallOutput} (hinside : output.Inside) :
    output ∉ (closeInternalCall s tid).2 := by
  simp [closeInternalCall, sendVoiceCallStatusEvent, hinside.not_sent.1]

theorem close_quiet (s : CallRt) (tid : UInt16) : ¬ Rings (closeInternalCall s tid).2 :=
  close_outputs s tid (.inl rfl)

theorem forward_outputs (s : CallRt) (bytes : Bytes) (scan : StatusScan) {output : CallOutput}
    (hinside : output.Inside) (habsent : output ∉ scan.outputs) :
    output ∉ (forwardStatus s bytes scan).2.2 := by
  obtain ⟨_, _, _, hcallPkt⟩ := hinside.not_sent
  have hclosed := close_outputs s (getQmiTransactionId bytes) hinside
  unfold forwardStatus
  split_ifs with hnumber hours hmode hsimulated
  · exact habsent
  · simp only [List.mem_append, List.mem_singleton, hcallPkt, or_false]
    exact fun h => h.elim habsent hclosed
  · simpa [hcallPkt] using habsent
  · exact habsent
  · simpa [hcallPkt] using habsent

/-- What the announcement of a call makes the modem send. -/
theorem status_outputs {output : CallOutput} (hinside : output.Inside)
    (h : handleVoiceServiceCallStatus s callwait bytes len = .ok (action, next, outputs)) :
    output ∉ outputs := by
  unfold handleVoiceServiceCallStatus at h
  obtain ⟨offset, _, h⟩ := bind_ok h
  split_ifs at h with hmissing
  · cases h
    simp
  obtain ⟨info, _, h⟩ := bind_ok h
  obtain ⟨scan, hscan, h⟩ := bind_ok h
  have habsent : output ∉ scan.outputs :=
    foldlM_invariant (fun scan => output ∉ scan.outputs) (by simp [StatusScan.start])
      (fun _ _ _ habsent hround => round_outputs hinside habsent hround) hscan
  split_ifs at h with hhidden
  · cases h
    exact habsent
  · rw [Except.ok.injEq] at h
    have hforward := forward_outputs s bytes scan hinside habsent
    rw [h] at hforward
    exact hforward

/-- The state in which a call of the host to the modem begins. -/
def answerHost (s : CallRt) (tid : UInt16) : CallRt :=
  { (sendDummyCallEstablished (setCallSimulationMode s true) tid).1 with
    simCallDirection := .outgoing }

/-- The packet asks for a call to the modem. -/
def CallsModem (bytes : Bytes) : Prop :=
  qmiMsgid bytes = VoiceMsgid.callRequest.code ∧ ForOurPhone bytes

/-- What a packet of the voice service does to the state: nothing, or it ends the simulated call, or
answers it, or begins one. -/
inductive Serves (s : CallRt) (bytes : Bytes) : CallRt → Prop where
  | unchanged (hbusy : CallsModem bytes → s.callSimulationMode = true) : Serves s bytes s
  | closed (hmode : s.callSimulationMode = true) (hother : ¬ CallsModem bytes) :
      Serves s bytes (closeInternalCall s (getQmiTransactionId bytes)).1
  | accepted (hmode : s.callSimulationMode = true) (hother : ¬ CallsModem bytes) :
      Serves s bytes (processIncomingCallAccept s (getQmiTransactionId bytes)).1
  | begun (hidle : s.callSimulationMode = false) (hcalls : CallsModem bytes) :
      Serves s bytes (answerHost s (getQmiTransactionId bytes))

/-- A packet that is no call request leaves the state alone, and nothing is sent. -/
theorem serves_same (hother : qmiMsgid bytes ≠ VoiceMsgid.callRequest.code) : Serves s bytes s :=
  .unchanged fun hcalls => absurd hcalls.1 hother

theorem serves_close (hother : qmiMsgid bytes ≠ VoiceMsgid.callRequest.code)
    (hmode : s.callSimulationMode = true) :
    Serves s bytes (closeInternalCall s (getQmiTransactionId bytes)).1 :=
  .closed hmode fun hcalls => hother hcalls.1

theorem not_rings_nil : ¬ Rings [] := by simp [Rings]

theorem request_serves (hrequest : qmiMsgid bytes = VoiceMsgid.callRequest.code)
    (h : handleVoiceServiceCallRequest s bytes = .ok (action, next, outputs)) :
    Serves s bytes next ∧ ¬ Rings outputs := by
  unfold handleVoiceServiceCallRequest at h
  split_ifs at h with hlong hours hidle hmode
  · cases h
    refine ⟨.begun (by simpa using hidle) ⟨hrequest, hours⟩, ?_⟩
    exact dummy_quiet (setCallSimulationMode s true) _
  · cases h
    exact ⟨.unchanged fun _ => by simpa using hidle, not_rings_nil⟩
  · cases h
    exact ⟨.closed hmode fun hcalls => hours hcalls.2, close_quiet s _⟩
  · cases h
    exact ⟨.unchanged fun hcalls => absurd hcalls.2 hours, not_rings_nil⟩

theorem answer_serves (hother : qmiMsgid bytes ≠ VoiceMsgid.callRequest.code)
    (h : handleVoiceServiceAnswerRequest s bytes = .ok (action, next, outputs)) :
    Serves s bytes next ∧ ¬ Rings outputs := by
  unfold handleVoiceServiceAnswerRequest at h
  split_ifs at h with hmode
  · cases h
    exact ⟨.accepted hmode fun hcalls => hother hcalls.1, accept_quiet s _⟩
  · cases h
    exact ⟨serves_same hother, not_rings_nil⟩

theorem disconnect_serves (hother : qmiMsgid bytes ≠ VoiceMsgid.callRequest.code)
    (h : handleVoiceServiceDisconnectRequest s bytes = .ok (action, next, outputs)) :
    Serves s bytes next ∧ ¬ Rings outputs := by
  unfold handleVoiceServiceDisconnectRequest at h
  split_ifs at h with hmode
  · cases h
    have hclosed := close_quiet s (getQmiTransactionId bytes)
    refine ⟨serves_close hother hmode, ?_⟩
    simp only [Rings, List.mem_cons, reduceCtorEq, false_or]
    exact hclosed
  · cases h
    exact ⟨serves_same hother, not_rings_nil⟩

theorem info_serves (hother : qmiMsgid bytes ≠ VoiceMsgid.callRequest.code)
    (h : handleVoiceServiceCallInfo s source bytes len = .ok (action, next, outputs)) :
    Serves s bytes next ∧ ¬ Rings outputs := by
  unfold handleVoiceServiceCallInfo at h
  split_ifs at h with hquiet
  · obtain ⟨direction, _, h⟩ := bind_ok h
    cases h
    exact ⟨serves_same hother, not_rings_nil⟩
  · cases h
    exact ⟨serves_same hother, not_rings_nil⟩

theorem all_serves (hother : qmiMsgid bytes ≠ VoiceMsgid.callRequest.code)
    (h : handleVoiceServiceAllCallStatusInfo s source bytes = .ok (action, next, outputs)) :
    Serves s bytes next ∧ ¬ Rings outputs := by
  unfold handleVoiceServiceAllCallStatusInfo at h
  split_ifs at h with hquiet
  · cases h
    exact ⟨serves_same hother, by simp [Rings]⟩
  · cases h
    exact ⟨serves_same hother, not_rings_nil⟩

/-- A call that is not hidden leaves the state alone, or ends the simulated call. -/
theorem forward_serves (hother : qmiMsgid bytes ≠ VoiceMsgid.callRequest.code) (s : CallRt)
    (scan : StatusScan) : Serves s bytes (forwardStatus s bytes scan).2.1 := by
  unfold forwardStatus
  split_ifs with hnumber hours hmode hsimulated
  · exact serves_same hother
  · exact serves_close hother hmode
  · exact serves_same hother
  · exact serves_same hother
  · exact serves_same hother

theorem status_serves (hother : qmiMsgid bytes ≠ VoiceMsgid.callRequest.code)
    (h : handleVoiceServiceCallStatus s callwait bytes len = .ok (action, next, outputs)) :
    Serves s bytes next ∧ ¬ Rings outputs := by
  refine ⟨?_, status_outputs (.inl rfl) h⟩
  unfold handleVoiceServiceCallStatus at h
  obtain ⟨offset, _, h⟩ := bind_ok h
  split_ifs at h with hmissing
  · cases h
    exact serves_same hother
  obtain ⟨info, _, h⟩ := bind_ok h
  obtain ⟨scan, _, h⟩ := bind_ok h
  split_ifs at h with hhidden
  · cases h
    exact serves_same hother
  · rw [Except.ok.injEq] at h
    have hforward := forward_serves hother s scan
    rw [h] at hforward
    exact hforward

/-- What a packet of the voice service does. It does not make the host ring. -/
theorem service_serves
    (h : callServiceHandler s callwait source bytes len = .ok (action, next, outputs)) :
    Serves s bytes next ∧ ¬ Rings outputs := by
  unfold callServiceHandler at h
  split_ifs at h with hrequest hanswer hinfo hstatus hall hend
  · exact request_serves hrequest h
  · exact answer_serves hrequest h
  · exact info_serves hrequest h
  · exact status_serves hrequest h
  · exact all_serves hrequest h
  · exact disconnect_serves hrequest h
  · cases h
    exact ⟨serves_same hrequest, not_rings_nil⟩

/-! ## What a step can do -/

/-- What a step does to the state. The steps of the voice work on the queue and on the counter of the
iterations without a message. -/
inductive CallEffect (s : CallRt) : CallOp → CallRt → List CallOutput → Prop where
  | pending (en : Bool) : CallEffect s (.setPendingCallFlag en) (setPendingCallFlag s en) []
  | looped (en : Bool) : CallEffect s (.setLoopedMessage en) (setLoopedMessage s en) []
  | mode (en : Bool) : CallEffect s (.setDoNotDisturb en) (setDoNotDisturb s en) []
  | added (message : List UInt8) (msg : Nat → VoiceMessage) :
      CallEffect s (.addVoiceMessage message) { s with msg := msg } []
  | spoken (msg : Nat → VoiceMessage) (loops : UInt8) :
      CallEffect s .speak { s with msg := msg, emptyMessageLoop := loops } []
  | finished (msg : Nat → VoiceMessage) : CallEffect s .finishTts { s with msg := msg } []
  | passed (messagesPending : Bool) :
      CallEffect s (.pass messagesPending) (processSimulatedCalls s messagesPending).1
        (processSimulatedCalls s messagesPending).2
  | handled {callwait : UInt8} {source : PacketSource} {bytes : Bytes} {len : Nat}
      {action : PacketAction} {next : CallRt} {outputs : List CallOutput}
      (h : callServiceHandler s callwait source bytes len = .ok (action, next, outputs)) :
      CallEffect s (.packet callwait source bytes len) next outputs

theorem step_effect (h : callStep s op = .ok (next, outputs)) : CallEffect s op next outputs := by
  cases op with
  | setPendingCallFlag en =>
      cases h
      exact .pending en
  | setLoopedMessage en =>
      cases h
      exact .looped en
  | setDoNotDisturb en =>
      cases h
      exact .mode en
  | addVoiceMessage message =>
      obtain ⟨after, hadd, hresult⟩ := bind_ok h
      cases hresult
      obtain ⟨msg, hframe⟩ := add_frame hadd
      rw [hframe]
      exact .added message msg
  | packet callwait source bytes len =>
      obtain ⟨⟨action, after, sent⟩, hservice, hresult⟩ := bind_ok h
      cases hresult
      exact .handled hservice
  | pass messagesPending =>
      have hpass : processSimulatedCalls s messagesPending = (next, outputs) := Except.ok.inj h
      have heffect := CallEffect.passed (s := s) messagesPending
      rw [hpass] at heffect
      exact heffect
  | speak =>
      cases h
      obtain ⟨msg, loops, hframe⟩ := speak_frame s
      rw [hframe]
      split_ifs
      · exact .spoken msg loops
      · exact .spoken s.msg s.emptyMessageLoop
  | finishTts =>
      cases h
      exact .finished _

/-! ## A request -/

/-- A request of the host for the modem: a packet with the number of the modem. -/
def sampleRequest (msgid low high : UInt8) : Bytes :=
  Bytes.ofList ([0x01, 0x1b, 0, 0, 0x09, 0x02, 0, low, high, msgid, 0, 0x0f, 0, 0x01, 0x0c, 0] ++
    ourPhone)

end OpenQti.Call
