import OpenQti.Call.Responses

/-!
# Responses of the baseband to the requests of the host

The baseband answers a request of the host about a call under the message id of the request. The
three handlers get the side a packet comes from, but do not look at it: during a simulated call the
response is taken for a request of the host, and is kept or ends the call. `reply_let_through_iff`
says when the host gets it.
-/

namespace OpenQti.Call

open Bytes Qmi Machine
open Sms (PacketAction qmiMsgid)

/-- A packet of the baseband goes on to the host, nothing is sent, and the state is left alone. -/
def LetThrough (s : CallRt) (callwait : UInt8) (reply : VoiceRequest) : Prop :=
  callServiceHandler s callwait .fromDsp reply.bytes reply.len = .ok (.forcedPt, s, [])

/-- The responses of the baseband go on to the host in every state that is reached. -/
def RepliesLetThrough : Prop :=
  ∀ (ops : List CallOp) (s : CallRt), Run callNext Anything .zero ops s →
    ∀ callwait reply, LetThrough s callwait reply

/-- What stands where a request has the number that is dialled: it fits into its array, and it is not
the number of the modem. -/
def NotDialled (bytes : Bytes) : Prop :=
  (dialledDigits bytes).length ≤ maxPhoneNumberLength ∧ ¬ ForOurPhone bytes

variable {s : CallRt}

theorem close_ne (hmode : s.callSimulationMode = true) (tid : UInt16) :
    (closeInternalCall s tid).1 ≠ s := by
  intro hsame
  have hclosed : (closeInternalCall s tid).1.callSimulationMode = false := rfl
  rw [hsame, hmode] at hclosed
  cases hclosed

theorem request_let_through_iff (s : CallRt) (bytes : Bytes) :
    handleVoiceServiceCallRequest s bytes = .ok (.forcedPt, s, []) ↔
      s.callSimulationMode = false ∧ NotDialled bytes := by
  unfold handleVoiceServiceCallRequest NotDialled
  constructor
  · intro h
    split_ifs at h with hlong hours hidle hmode
    · cases h
    · cases h
    · have hsame : (closeInternalCall s (getQmiTransactionId bytes)).1 = s := by
        have hpair := (Prod.mk.inj (Except.ok.inj h)).2
        rw [hpair]
      exact absurd hsame (close_ne hmode _)
    · exact ⟨by simpa using hmode, Nat.not_lt.1 hlong, hours⟩
  · rintro ⟨hidle, hfits, hother⟩
    rw [if_neg (Nat.not_lt.2 hfits), if_neg hother, if_neg (by simp [hidle])]

theorem answer_let_through_iff (s : CallRt) (bytes : Bytes) :
    handleVoiceServiceAnswerRequest s bytes = .ok (.forcedPt, s, []) ↔
      s.callSimulationMode = false := by
  unfold handleVoiceServiceAnswerRequest
  cases hmode : s.callSimulationMode with
  | false => exact iff_of_true rfl rfl
  | true => exact iff_of_false (fun h => by cases h) (fun h => by cases h)

theorem disconnect_let_through_iff (s : CallRt) (bytes : Bytes) :
    handleVoiceServiceDisconnectRequest s bytes = .ok (.forcedPt, s, []) ↔
      s.callSimulationMode = false := by
  unfold handleVoiceServiceDisconnectRequest
  cases hmode : s.callSimulationMode with
  | false => exact iff_of_true rfl rfl
  | true => exact iff_of_false (fun h => by cases h) (fun h => by cases h)

/-- A response of the baseband goes on to the host exactly if no call is simulated and, where it has
the message id of a call request, it does not look like one to the modem. -/
theorem reply_let_through_iff (s : CallRt) (callwait : UInt8) (reply : VoiceRequest) :
    LetThrough s callwait reply ↔ s.callSimulationMode = false ∧
      (qmiMsgid reply.bytes = VoiceMsgid.callRequest.code → NotDialled reply.bytes) := by
  unfold LetThrough
  rcases reply.request with hcall | hanswer | hend
  · rw [handler_of_call_request hcall, request_let_through_iff]
    exact and_congr_right fun _ => ⟨fun h _ => h, fun h => h hcall⟩
  · rw [handler_of_answer_request hanswer, answer_let_through_iff, hanswer]
    exact ⟨fun h => ⟨h, fun hother => absurd hother (by decide)⟩, fun h => h.1⟩
  · rw [handler_of_end_request hend, disconnect_let_through_iff, hend]
    exact ⟨fun h => ⟨h, fun hother => absurd hother (by decide)⟩, fun h => h.1⟩

/-- The response of the baseband to the end of a real call: a result, and the id of the call. -/
def sampleReply : Bytes :=
  Bytes.ofList [0x01, 0x17, 0, 0x80, 0x09, 0x02, 0x02, 7, 0, 0x21, 0, 0x0b, 0,
    0x02, 0x04, 0, 0, 0, 0, 0, 0x10, 0x01, 0, 0x01]

/-- The host calls the modem, and the response to an earlier hang-up comes after that. -/
theorem late_reply_kept : ¬ RepliesLetThrough := by
  intro h
  have hrun : ∃ s, Run callNext Anything .zero [.packet 0 .fromHost (sampleRequest 0x20 8 0) 28] s ∧
      s.callSimulationMode = true := ⟨_, .snoc (.nil _) trivial rfl, rfl⟩
  obtain ⟨s, hrun, hmode⟩ := hrun
  have hthrough := h _ s hrun 0 ⟨sampleReply, 24, .inr (.inr rfl)⟩
  have hidle := (disconnect_let_through_iff s sampleReply).1 hthrough
  rw [hmode] at hidle
  cases hidle

end OpenQti.Call
