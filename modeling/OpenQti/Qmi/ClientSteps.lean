import OpenQti.Lib.Run
import OpenQti.Qmi.ClientPass

/-!
# The internal QMI client as a machine

The calls of `add_pending_message`, the passes over the services and the packets that are read
from the port are the operations of one machine, taken in any order. `ClientEffect` says what an
operation does to the client when it does not fault, and `client_step_effect` that there is
nothing else.
-/

namespace OpenQti.Qmi

open Bytes InternalQmiClient

/-- A call of a client, a pass over the services, or a packet from the baseband. -/
inductive ClientOp where
  | addPendingMessage (service : UInt8) (buf : List UInt8)
  | sendPendingInternalQmiMessages
  | handleIncomingQmiControlMessage (bytes : Bytes) (len : Nat)
  | dispatchIncomingQmiMessage (bytes : Bytes)

/-- One operation. -/
def clientStep (s : InternalQmiClient) : ClientOp → Except ClientFault InternalQmiClient
  | .addPendingMessage service buf => do
      let (_, s) ← addPendingMessage s service buf
      .ok s
  | .sendPendingInternalQmiMessages => sendPendingInternalQmiMessages s
  | .handleIncomingQmiControlMessage bytes len => handleIncomingQmiControlMessage s bytes len
  | .dispatchIncomingQmiMessage bytes => dispatchIncomingQmiMessage s bytes

/-- The client before its first operation: the structure is zero. -/
def initialClient : InternalQmiClient where
  hasPendingMessage := false
  services := fun _ => ⟨0, 0, false, false, none, 0⟩
  port := []

/-! ## Packets -/

/-- A reply that allocates a client. -/
def Allocates (bytes : Bytes) (len : Nat) : Prop :=
  le16 bytes 8 = clientRegisterReq ∧ clientAllocResponseSize ≤ len ∧
    le16 bytes 17 = 0 ∧ le16 bytes 15 = 0

instance (bytes : Bytes) (len : Nat) : Decidable (Allocates bytes len) :=
  inferInstanceAs (Decidable (_ ∧ _ ∧ _ ∧ _))

/-- The entry of a service after its client has been allocated. -/
def allocated (bytes : Bytes) (b : QmiServiceBindings) : QmiServiceBindings :=
  { b with
    service := bytes 22
    instanceId := bytes 23
    transactionId := (bytes 7).toUInt16
    isInitialized := true }

/-- The transaction id that a packet of a service leaves. -/
def nextTransactionId (bytes : Bytes) : UInt16 := (le16 bytes 7 + 1).toUInt16

variable {s next : InternalQmiClient} {op : ClientOp}

/-- The entry of one service is changed. -/
def InternalQmiClient.set (s : InternalQmiClient) (i : Nat) (b : QmiServiceBindings) :
    InternalQmiClient :=
  { s with services := Function.update s.services i b }

theorem modify_eq {i : Nat} {f : QmiServiceBindings → QmiServiceBindings} :
    s.modify i f = if i < qmiServicesLast then .ok (s.set i (f (s.services i)))
      else .error (.index i) :=
  rfl

theorem modify_ok_iff {i : Nat} {f : QmiServiceBindings → QmiServiceBindings} :
    s.modify i f = .ok next ↔ i < qmiServicesLast ∧ next = s.set i (f (s.services i)) := by
  rw [modify_eq]
  split_ifs with hi
  · simp [hi, eq_comm]
  · simp [hi]

/-- The range check lets every id through. -/
theorem range_check_passes (service : UInt8) : ¬ service.toNat > qmiServicesLast := by
  have := service.toNat_lt
  simp only [qmiServicesLast]
  omega

/-! ## Effects -/

/-- What an operation does to the client. -/
inductive ClientEffect (s : InternalQmiClient) (op : ClientOp) (next : InternalQmiClient) : Prop where
  | idle (hadd : ∀ service buf, op = .addPendingMessage service buf →
        addPendingMessage s service buf = .ok (-22, s))
      (hsend : op = .sendPendingInternalQmiMessages → s.hasPendingMessage = false)
      (hcontrol : ∀ bytes len, op = .handleIncomingQmiControlMessage bytes len →
        ¬ Allocates bytes len)
      (hdispatch : ∀ bytes, op ≠ .dispatchIncomingQmiMessage bytes)
      (hnext : next = s)
  | accepted (service : UInt8) (buf : List UInt8) (hop : op = .addPendingMessage service buf)
      (hservice : service.toNat < qmiServicesLast)
      (hempty : (s.services service.toNat).hasPendingMessage = false)
      (hresult : addPendingMessage s service buf = .ok (0, next))
      (hnext : next = { s.set service.toNat
        { s.services service.toNat with message := some buf, hasPendingMessage := true } with
          hasPendingMessage := true })
  | passed (hop : op = .sendPendingInternalQmiMessages) (hpending : s.hasPendingMessage = true)
      (hsendable : ∀ i < qmiServicesLast, Sendable s i) (hnext : next = afterPass s)
  | allocated (bytes : Bytes) (len : Nat)
      (hop : op = .handleIncomingQmiControlMessage bytes len) (hreply : Allocates bytes len)
      (hservice : (bytes 22).toNat < qmiServicesLast)
      (hnext : next = s.set (bytes 22).toNat (allocated bytes (s.services (bytes 22).toNat)))
  | ready (bytes : Bytes) (len : Nat) (hop : op = .handleIncomingQmiControlMessage bytes len)
      (hshort : len < clientAllocResponseSize)
      (hnext : next = s.set qmiServiceMdmfs
        { s.services qmiServiceMdmfs with isInitialized := true })
  | received (bytes : Bytes) (hop : op = .dispatchIncomingQmiMessage bytes)
      (hservice : (bytes 4).toNat < qmiServicesLast)
      (hnext : next = s.set (bytes 4).toNat
        { s.services (bytes 4).toNat with transactionId := nextTransactionId bytes })

theorem add_effect {service : UInt8} {buf : List UInt8}
    (h : clientStep s (.addPendingMessage service buf) = .ok next) :
    ClientEffect s (.addPendingMessage service buf) next := by
  cases hresult : addPendingMessage s service buf with
  | error fault => simp [clientStep, hresult, bind, Except.bind] at h
  | ok result =>
      have hnext : next = result.2 := by simpa [clientStep, hresult, bind, Except.bind] using h.symm
      have hexpanded := hresult
      simp only [addPendingMessage, if_neg (range_check_passes service), InternalQmiClient.get,
        modify_eq] at hexpanded
      by_cases hservice : service.toNat < qmiServicesLast
      · cases hpending : (s.services service.toNat).hasPendingMessage with
        | true =>
            have hrefused : result = (-22, s) := by
              simpa [hservice, hpending, bind, Except.bind] using hexpanded.symm
            subst hrefused
            refine .idle (fun service' buf' hop => ?_) (by simp) (by simp) (by simp) hnext
            cases hop
            exact hresult
        | false =>
            have haccepted : result = (0, { s.set service.toNat
                { s.services service.toNat with message := some buf, hasPendingMessage := true } with
                  hasPendingMessage := true }) := by
              simpa [hservice, hpending, bind, Except.bind] using hexpanded.symm
            subst haccepted
            exact .accepted service buf rfl hservice hpending (hnext ▸ hresult) hnext
      · simp [hservice, bind, Except.bind] at hexpanded

theorem control_effect {bytes : Bytes} {len : Nat}
    (h : clientStep s (.handleIncomingQmiControlMessage bytes len) = .ok next) :
    ClientEffect s (.handleIncomingQmiControlMessage bytes len) next := by
  simp only [clientStep, handleIncomingQmiControlMessage] at h
  split_ifs at h with hregister hlength hresult
  · obtain ⟨hservice, hnext⟩ := modify_ok_iff.1 h
    exact .allocated bytes len rfl ⟨hregister, hlength, hresult⟩ hservice hnext
  · cases h
    refine .idle (by simp) (by simp) (fun bytes' len' hop hreply => ?_) (by simp) rfl
    cases hop
    exact hresult hreply.2.2
  · obtain ⟨_, hnext⟩ := modify_ok_iff.1 h
    exact .ready bytes len rfl (by omega) hnext
  · cases h
    refine .idle (by simp) (by simp) (fun bytes' len' hop hreply => ?_) (by simp) rfl
    cases hop
    exact hregister hreply.1

theorem dispatch_effect {bytes : Bytes}
    (h : clientStep s (.dispatchIncomingQmiMessage bytes) = .ok next) :
    ClientEffect s (.dispatchIncomingQmiMessage bytes) next := by
  rw [clientStep, dispatchIncomingQmiMessage, setTransactionIdForService,
    if_neg (range_check_passes _)] at h
  obtain ⟨hservice, hnext⟩ := modify_ok_iff.1 h
  exact .received bytes rfl hservice hnext

/-- An operation that does not fault has one of the effects. -/
theorem client_step_effect (h : clientStep s op = .ok next) : ClientEffect s op next := by
  cases op with
  | addPendingMessage service buf => exact add_effect h
  | sendPendingInternalQmiMessages =>
      cases hpending : s.hasPendingMessage with
      | false =>
          simp only [clientStep, sendPendingInternalQmiMessages, hpending, Bool.not_false,
            if_true] at h
          cases h
          exact .idle (by simp) (fun _ => hpending) (by simp) (by simp) rfl
      | true =>
          obtain ⟨hsendable, hnext⟩ := (send_pending_iff hpending).1 h
          exact .passed rfl hpending hsendable hnext
  | handleIncomingQmiControlMessage bytes len => exact control_effect h
  | dispatchIncomingQmiMessage bytes => exact dispatch_effect h

end OpenQti.Qmi
