import OpenQti.Call.Steps

/-!
# Responses to the requests of the host

A request that the modem keeps has to be answered by the modem: one packet with a QMI result, the id
of the request and its transaction id. Three slips are in the way. A call to the modem while one goes
on is kept without an answer, the acknowledgement of an answered call takes only the low byte of the
transaction id, and the acknowledgement of a hang-up has the id of a status event.
`responses_right_iff` says that there are no others.
-/

namespace OpenQti.Call

open Bytes Qmi Machine
open Sms (PacketAction qmiMsgid qmiTransactionId)

/-- A request of the host about a call. -/
structure VoiceRequest where
  bytes : Bytes
  len : Nat
  request : qmiMsgid bytes = VoiceMsgid.callRequest.code ∨
    qmiMsgid bytes = VoiceMsgid.callAnswerReq.code ∨ qmiMsgid bytes = VoiceMsgid.callEndReq.code

/-- The packet has a QMI result. -/
def VoicePacket.hasResult (packet : VoicePacket) : Bool := packet.tlvs.any fun tlv => tlv.id = 0x02

/-- The packets with a QMI result that are written to the host. -/
def responses (outputs : List CallOutput) : List VoicePacket :=
  outputs.filterMap fun output =>
    match output with
    | .write packet => if packet.hasResult then some packet else none
    | _ => none

/-- If the request is kept, it is answered with one packet that carries its ids. -/
def Answered (s : CallRt) (callwait : UInt8) (request : VoiceRequest) : Prop :=
  ∀ next outputs,
    callServiceHandler s callwait .fromHost request.bytes request.len = .ok (.bypass, next, outputs) →
    ∃ packet, responses outputs = [packet] ∧
      packet.transactionId = getQmiTransactionId request.bytes ∧
      packet.msgid = qmiMsgid request.bytes

/-- Every request that is kept is answered. -/
def RequestsAnswered : Prop :=
  ∀ (ops : List CallOp) (s : CallRt), Run callNext Anything .zero ops s →
    ∀ callwait request, Answered s callwait request

/-- The request is not a call to the modem during another one, nor a hang-up of a simulated call, and
a simulated call is answered with a transaction id of one byte. -/
structure AnsweredRight (s : CallRt) (request : VoiceRequest) : Prop where
  call : CallsModem request.bytes → (dialledDigits request.bytes).length ≤ maxPhoneNumberLength →
    s.callSimulationMode = false
  answer : qmiMsgid request.bytes = VoiceMsgid.callAnswerReq.code → s.callSimulationMode = true →
    qmiTransactionId request.bytes < 256
  hangUp : qmiMsgid request.bytes = VoiceMsgid.callEndReq.code → s.callSimulationMode = false

variable {s : CallRt} {callwait : UInt8} {bytes : Bytes}

/-! ## What is answered -/

-- the status events are not responses
theorem responses_accept (s : CallRt) (tid : UInt16) :
    responses (processIncomingCallAccept s tid).2 = [callAcceptAck tid.toUInt8] := rfl

theorem responses_dummy (s : CallRt) (tid : UInt16) :
    responses (sendDummyCallEstablished s tid).2 = [callRequestResponse tid] := rfl

theorem responses_disconnect (s : CallRt) (tid : UInt16) :
    responses (.write (endCallResponse tid) :: (closeInternalCall s tid).2) =
      [endCallResponse tid] := rfl

/-- The low byte is the transaction id. -/
theorem accept_id_iff (bytes : Bytes) :
    (callAcceptAck (getQmiTransactionId bytes).toUInt8).transactionId = getQmiTransactionId bytes ↔
      qmiTransactionId bytes < 256 := by
  have hbound : qmiTransactionId bytes < 65536 := by
    have hlow := (bytes 7).toNat_lt
    have hhigh := (bytes 8).toNat_lt
    simp only [qmiTransactionId, le16, Nat.reduceAdd]
    omega
  show (UInt16.ofNat (qmiTransactionId bytes)).toUInt8.toUInt16 = UInt16.ofNat _ ↔ _
  rw [← UInt16.toNat_inj]
  simp only [UInt8.toNat_toUInt16, UInt16.toNat_toUInt8, UInt16.toNat_ofNat']
  omega

/-- A call to the modem is answered unless one goes on. -/
theorem call_answered_iff (request : VoiceRequest)
    (hmsgid : qmiMsgid request.bytes = VoiceMsgid.callRequest.code) :
    Answered s callwait request ↔ (CallsModem request.bytes →
      (dialledDigits request.bytes).length ≤ maxPhoneNumberLength →
      s.callSimulationMode = false) := by
  rw [Answered, handler_of_call_request hmsgid, handleVoiceServiceCallRequest]
  constructor
  · intro h hcalls hfits
    by_contra hmode
    rw [if_neg (Nat.not_lt.2 hfits), if_pos hcalls.2, if_neg (by simpa using hmode)] at h
    obtain ⟨packet, hpacket, _⟩ := h s [] rfl
    cases hpacket
  · intro h next outputs hkept
    split_ifs at hkept with hlong hours hidle hmode
    · cases hkept
      exact ⟨_, responses_dummy (setCallSimulationMode s true) _, rfl, hmsgid.symm⟩
    · rw [h ⟨hmsgid, hours⟩ (Nat.not_lt.1 hlong)] at hidle
      simp at hidle
    · cases hkept
    · cases hkept

/-- An answer to a simulated call is acknowledged under its id if that fits into a byte. -/
theorem answer_answered_iff (request : VoiceRequest)
    (hmsgid : qmiMsgid request.bytes = VoiceMsgid.callAnswerReq.code) :
    Answered s callwait request ↔
      (s.callSimulationMode = true → qmiTransactionId request.bytes < 256) := by
  rw [Answered, handler_of_answer_request hmsgid, handleVoiceServiceAnswerRequest]
  constructor
  · intro h hmode
    rw [if_pos hmode] at h
    obtain ⟨packet, hpacket, htid, _⟩ := h _ _ rfl
    have hsame := (responses_accept s (getQmiTransactionId request.bytes)).symm.trans hpacket
    rw [List.cons.injEq] at hsame
    rw [← hsame.1] at htid
    exact (accept_id_iff _).1 htid
  · intro h next outputs hkept
    split_ifs at hkept with hmode
    · cases hkept
      exact ⟨_, responses_accept s _, (accept_id_iff _).2 (h hmode), hmsgid.symm⟩
    · cases hkept

/-- The hang-up of a simulated call is not acknowledged under its message id. -/
theorem hangUp_answered_iff (request : VoiceRequest)
    (hmsgid : qmiMsgid request.bytes = VoiceMsgid.callEndReq.code) :
    Answered s callwait request ↔ s.callSimulationMode = false := by
  rw [Answered, handler_of_end_request hmsgid, handleVoiceServiceDisconnectRequest]
  constructor
  · intro h
    by_contra hmode
    rw [if_pos (by simpa using hmode)] at h
    obtain ⟨packet, hpacket, _, hid⟩ := h _ _ rfl
    have hsame := (responses_disconnect s (getQmiTransactionId request.bytes)).symm.trans hpacket
    rw [List.cons.injEq] at hsame
    rw [← hsame.1, hmsgid] at hid
    cases hid
  · intro h next outputs hkept
    rw [if_neg (by simp [h])] at hkept
    cases hkept

/-- A request is answered right, if it is kept, exactly if none of the three slips is in the way. -/
theorem responses_right_iff (s : CallRt) (callwait : UInt8) (request : VoiceRequest) :
    Answered s callwait request ↔ AnsweredRight s request := by
  have hexclusive : ∀ {first second : VoiceMsgid}, qmiMsgid request.bytes = first.code →
      qmiMsgid request.bytes = second.code → first.code = second.code :=
    fun hfirst hsecond => hfirst.symm.trans hsecond
  rcases request.request with hcall | hanswer | hend
  · rw [call_answered_iff request hcall]
    refine ⟨fun h => ⟨h, fun hother => ?_, fun hother => ?_⟩, AnsweredRight.call⟩
    · exact absurd (hexclusive hcall hother) (by decide)
    · exact absurd (hexclusive hcall hother) (by decide)
  · rw [answer_answered_iff request hanswer]
    refine ⟨fun h => ⟨fun hother => ?_, fun _ => h, fun hother => ?_⟩, fun h => h.answer hanswer⟩
    · exact absurd (hexclusive hanswer hother.1) (by decide)
    · exact absurd (hexclusive hanswer hother) (by decide)
  · rw [hangUp_answered_iff request hend]
    refine ⟨fun h => ⟨fun hother => ?_, fun hother => ?_, fun _ => h⟩, fun h => h.hangUp hend⟩
    · exact absurd (hexclusive hend hother.1) (by decide)
    · exact absurd (hexclusive hend hother) (by decide)

/-- The host calls the modem and hangs up. -/
theorem hang_up_mislabelled : ¬ RequestsAnswered := by
  intro h
  have hrun : ∃ s, Run callNext Anything .zero [.packet 0 .fromHost (sampleRequest 0x20 5 0) 28] s ∧
      s.callSimulationMode = true := ⟨_, .snoc (.nil _) trivial rfl, rfl⟩
  obtain ⟨s, hrun, hmode⟩ := hrun
  have hidle := (hangUp_answered_iff ⟨sampleRequest 0x21 6 0, 28, .inr (.inr rfl)⟩ rfl).1
    (h _ s hrun 0 _)
  rw [hmode] at hidle
  cases hidle

end OpenQti.Call
