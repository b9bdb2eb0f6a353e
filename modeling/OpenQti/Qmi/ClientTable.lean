import OpenQti.Qmi.ClientSteps

/-!
# Bounds of the table of services

Every function that takes a service id as a byte rejects the ids above `QMI_SERVICES_LAST`, and
there are none; the table ends before `QMI_SERVICES_LAST`. `table_bounds` says for which calls
and packets the table is accessed inside its bounds: those that do not name service 255.

The handlers of the services are behind `dispatch_incoming_qmi_message`; they reach the table
only through `add_pending_message`, with the constant of a service.
-/

namespace OpenQti.Qmi

open Bytes InternalQmiClient

/-- A packet that has been read, or a call of a function that takes a service id. -/
inductive TableCall where
  | packet (bytes : Bytes) (len : Nat)
  | addPendingMessage (service : UInt8) (buf : List UInt8)
  | setTransactionIdForService (service : UInt8) (transactionId : UInt16)
  | getTransactionIdForService (service : UInt8)
  | clearCurrentTransactionId (service : UInt8)
  | clearMessageForService (service : UInt8)

/-- The client after the call. -/
def tableCall (s : InternalQmiClient) : TableCall → Except ClientFault InternalQmiClient
  | .packet bytes len => handlePacket s bytes len
  | .addPendingMessage service buf => do
      let (_, s) ← addPendingMessage s service buf
      .ok s
  | .setTransactionIdForService service transactionId =>
      setTransactionIdForService s service transactionId
  | .getTransactionIdForService service => do
      let _ ← getTransactionIdForService s service
      .ok s
  | .clearCurrentTransactionId service => clearCurrentTransactionId s service
  | .clearMessageForService service => clearMessageForService s service

/-- The service that a call names: the one of the QMUX header, or that of the allocated client. -/
def TableCall.service : TableCall → Option UInt8
  | .packet bytes len =>
      if bytes 4 = 0 then if Allocates bytes len then some (bytes 22) else none else some (bytes 4)
  | .addPendingMessage service _ => some service
  | .setTransactionIdForService service _ => some service
  | .getTransactionIdForService service => some service
  | .clearCurrentTransactionId service => some service
  | .clearMessageForService service => some service

/-- No access is outside the table, and a call that names no entry of it leaves it unchanged. -/
def StaysInTable (s : InternalQmiClient) (call : TableCall) : Prop :=
  ∃ next, tableCall s call = .ok next ∧
    ∀ service, call.service = some service → ¬ service.toNat < qmiServicesLast → next = s

/-- The call names an entry of the table, or it is a packet that is too short to be dispatched. -/
def TableCall.NamesEntry (call : TableCall) : Prop :=
  ∀ service, call.service = some service → service.toNat < qmiServicesLast ∨
    ∃ bytes len, call = .packet bytes len ∧ bytes 4 ≠ 0 ∧ len ≤ 13

variable {s next : InternalQmiClient} {service : UInt8}

theorem modify_ok {f : QmiServiceBindings → QmiServiceBindings} :
    (∃ next, s.modify service.toNat f = .ok next) ↔ service.toNat < qmiServicesLast := by
  simp only [modify_ok_iff, exists_and_left, exists_eq, and_true]

/-- A call whose only service is given returns exactly if the service has an entry. -/
theorem stays_in_table_iff {call : TableCall} (hservice : call.service = some service)
    (hpacket : ∀ bytes len, call = .packet bytes len → bytes 4 ≠ 0 → 13 < len)
    (hok : (∃ next, tableCall s call = .ok next) ↔ service.toNat < qmiServicesLast) :
    StaysInTable s call ↔ call.NamesEntry := by
  constructor
  · rintro ⟨next, hnext, _⟩ named hnamed
    rw [hservice, Option.some.injEq] at hnamed
    exact .inl (hnamed ▸ hok.1 ⟨next, hnext⟩)
  · intro hnames
    have hentry : service.toNat < qmiServicesLast := by
      rcases hnames service hservice with hentry | ⟨bytes, len, hcall, hzero, hshort⟩
      · exact hentry
      · have := hpacket bytes len hcall hzero
        omega
    obtain ⟨next, hnext⟩ := hok.2 hentry
    refine ⟨next, hnext, fun named hnamed hlast => ?_⟩
    rw [hservice, Option.some.injEq] at hnamed
    exact absurd (hnamed ▸ hentry) hlast

/-! ## Packets -/

/-- The entry that a control message changes exists, if it is not that of the allocated client. -/
theorem control_ok {bytes : Bytes} {len : Nat} (h : ¬ Allocates bytes len) :
    ∃ next, handleIncomingQmiControlMessage s bytes len = .ok next := by
  unfold handleIncomingQmiControlMessage
  split_ifs with hregister hlength hresult
  · exact absurd ⟨hregister, hlength, hresult⟩ h
  · exact ⟨s, rfl⟩
  · exact ⟨_, modify_ok_iff.2 ⟨by decide, rfl⟩⟩
  · exact ⟨s, rfl⟩

theorem packet_ok {bytes : Bytes} {len : Nat} (h : ¬ Allocates bytes len) (hzero : bytes 4 = 0) :
    ∃ next, handlePacket s bytes len = .ok next := by
  unfold handlePacket
  rw [if_pos hzero]
  split_ifs
  · exact control_ok h
  · exact ⟨s, rfl⟩
  · exact ⟨s, rfl⟩

theorem packet_allocates {bytes : Bytes} {len : Nat} (h : Allocates bytes len)
    (hzero : bytes 4 = 0) :
    handlePacket s bytes len = s.modify (bytes 22).toNat (allocated bytes) := by
  obtain ⟨hregister, hlength, hresult⟩ := h
  have hlarge : len > 12 := Nat.lt_of_lt_of_le (by decide) hlength
  rw [handlePacket, if_pos (by omega), if_pos hzero, if_pos hlarge,
    handleIncomingQmiControlMessage, if_pos hregister, if_pos hlength, if_pos hresult]
  rfl

theorem packet_dispatched {bytes : Bytes} {len : Nat} (hzero : bytes 4 ≠ 0) (hlength : 13 < len) :
    handlePacket s bytes len = s.modify (bytes 4).toNat fun b =>
      { b with transactionId := nextTransactionId bytes } := by
  rw [handlePacket, if_pos (by omega), if_neg hzero, if_pos hlength, dispatchIncomingQmiMessage,
    setTransactionIdForService, if_neg (range_check_passes _)]
  rfl

theorem packet_short {bytes : Bytes} {len : Nat} (hzero : bytes 4 ≠ 0) (hlength : len ≤ 13) :
    handlePacket s bytes len = .ok s := by
  unfold handlePacket
  rw [if_neg hzero, if_neg (by omega : ¬ len > 13)]
  split_ifs <;> rfl

theorem packet_bounds (s : InternalQmiClient) (bytes : Bytes) (len : Nat) :
    StaysInTable s (.packet bytes len) ↔ (TableCall.packet bytes len).NamesEntry := by
  by_cases hzero : bytes 4 = 0
  · by_cases hreply : Allocates bytes len
    · have hservice : (TableCall.packet bytes len).service = some (bytes 22) := by
        simp [TableCall.service, hzero, hreply]
      refine stays_in_table_iff hservice (fun _ _ hcall hnonzero => ?_) ?_
      · cases hcall
        exact absurd hzero hnonzero
      · rw [tableCall, packet_allocates hreply hzero]
        exact modify_ok
    · have hservice : (TableCall.packet bytes len).service = none := by
        simp [TableCall.service, hzero, hreply]
      obtain ⟨next, hnext⟩ := packet_ok (s := s) hreply hzero
      constructor
      · intro _ service hnamed
        rw [hservice] at hnamed
        cases hnamed
      · intro _
        refine ⟨next, hnext, fun service hnamed => ?_⟩
        rw [hservice] at hnamed
        cases hnamed
  · by_cases hlength : 13 < len
    · have hservice : (TableCall.packet bytes len).service = some (bytes 4) := by
        simp [TableCall.service, hzero]
      refine stays_in_table_iff hservice (fun _ _ hcall _ => ?_) ?_
      · cases hcall
        exact hlength
      · rw [tableCall, packet_dispatched hzero hlength]
        exact modify_ok
    · constructor
      · exact fun _ service _ => .inr ⟨bytes, len, rfl, hzero, by omega⟩
      · exact fun _ => ⟨s, packet_short hzero (by omega), fun _ _ _ => rfl⟩

/-! ## Calls -/

theorem add_ok {buf : List UInt8} :
    (∃ next, tableCall s (.addPendingMessage service buf) = .ok next) ↔
      service.toNat < qmiServicesLast := by
  by_cases hservice : service.toNat < qmiServicesLast
  · cases hpending : (s.services service.toNat).hasPendingMessage with
    | true =>
        simp [tableCall, addPendingMessage, range_check_passes, InternalQmiClient.get, hservice,
          hpending, bind, Except.bind]
    | false =>
        simp [tableCall, addPendingMessage, range_check_passes, InternalQmiClient.get, modify_eq,
          hservice, hpending, bind, Except.bind]
  · simp [tableCall, addPendingMessage, range_check_passes, InternalQmiClient.get, hservice, bind,
      Except.bind]

theorem clear_message_ok :
    (∃ next, tableCall s (.clearMessageForService service) = .ok next) ↔
      service.toNat < qmiServicesLast := by
  by_cases hservice : service.toNat < qmiServicesLast
  · by_cases hmessage : (s.services service.toNat).message = none
    · simp [tableCall, clearMessageForService, range_check_passes, InternalQmiClient.get, hservice,
        hmessage, bind, Except.bind]
    · simp [tableCall, clearMessageForService, range_check_passes, InternalQmiClient.get, modify_eq,
        hservice, hmessage, bind, Except.bind]
  · simp [tableCall, clearMessageForService, range_check_passes, InternalQmiClient.get, hservice,
      bind, Except.bind]

theorem get_transaction_id_ok :
    (∃ next, tableCall s (.getTransactionIdForService service) = .ok next) ↔
      service.toNat < qmiServicesLast := by
  by_cases hservice : service.toNat < qmiServicesLast
  · simp [tableCall, getTransactionIdForService, range_check_passes, InternalQmiClient.get,
      hservice, bind, Except.bind]
  · simp [tableCall, getTransactionIdForService, range_check_passes, InternalQmiClient.get,
      hservice, bind, Except.bind]

theorem set_transaction_id_ok {transactionId : UInt16} :
    (∃ next, tableCall s (.setTransactionIdForService service transactionId) = .ok next) ↔
      service.toNat < qmiServicesLast := by
  rw [tableCall, setTransactionIdForService, if_neg (range_check_passes _)]
  exact modify_ok

theorem clear_transaction_id_ok :
    (∃ next, tableCall s (.clearCurrentTransactionId service) = .ok next) ↔
      service.toNat < qmiServicesLast := by
  rw [tableCall, clearCurrentTransactionId, if_neg (range_check_passes _)]
  exact modify_ok

/-- In every state, a call or a packet stays inside the table exactly if the service it names has an
entry, or if it is a packet of a service that is too short to be dispatched. -/
theorem table_bounds (s : InternalQmiClient) (call : TableCall) :
    StaysInTable s call ↔ call.NamesEntry := by
  cases call with
  | packet bytes len => exact packet_bounds s bytes len
  | addPendingMessage service buf => exact stays_in_table_iff rfl nofun add_ok
  | setTransactionIdForService service transactionId =>
      exact stays_in_table_iff rfl nofun set_transaction_id_ok
  | getTransactionIdForService service => exact stays_in_table_iff rfl nofun get_transaction_id_ok
  | clearCurrentTransactionId service =>
      exact stays_in_table_iff rfl nofun clear_transaction_id_ok
  | clearMessageForService service => exact stays_in_table_iff rfl nofun clear_message_ok

/-- The id of service 255 is let through. -/
theorem service_255_out_of_table :
    ¬ ∀ s call, StaysInTable s call := by
  intro hall
  obtain ⟨next, hnext, _⟩ := hall initialClient (.getTransactionIdForService 255)
  have hfault : tableCall initialClient (.getTransactionIdForService 255) = .error (.index 255) :=
    rfl
  rw [hfault] at hnext
  cases hnext

end OpenQti.Qmi
