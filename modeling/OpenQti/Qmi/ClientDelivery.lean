import Mathlib.Data.List.Forall2
import OpenQti.Qmi.ClientSteps

/-!
# Delivery of internal messages

Runs in which messages are accepted for the services that the pass handles, each naming its own
service. `Ledger` keeps, beside the client, the messages that have been accepted for a service
and those that have been written to the port, each with the entry of the service at that
moment. What has been accepted is what has been sent, followed by what is in the slot:
`Balanced` is this invariant, and `internal_messages_delivered` collects what follows.
-/

namespace OpenQti.Qmi

open Bytes InternalQmiClient Machine

/-! ## The ledger -/

/-- A message that has been written to the port, with the entry of its service. -/
structure Sent where
  binding : QmiServiceBindings
  bytes : List UInt8

/-- The messages accepted and sent so far, for each service and in order. -/
structure Ledger where
  accepted : Nat → List (List UInt8)
  sent : Nat → List Sent

/-- Nothing has been accepted. -/
def Ledger.empty : Ledger := ⟨fun _ => [], fun _ => []⟩

/-- The bytes of a message to service `i`. -/
def messageTo (i : Nat) : PortWrite → Option (List UInt8)
  | .message service bytes => if service = i then some bytes else none
  | .allocation _ => none

/-- The message that the operation queues for service `i`, if it returns `0`. -/
def acceptedBy (s : InternalQmiClient) (i : Nat) : ClientOp → List (List UInt8)
  | .addPendingMessage service buf =>
      match addPendingMessage s service buf with
      | .ok (0, _) => if service.toNat = i then [buf] else []
      | _ => []
  | _ => []

/-- Observe an operation. A pass changes no instance id and no transaction id, so that the entry
before it is the one at the moment of sending. -/
def Ledger.record (s : InternalQmiClient) (op : ClientOp) (next : InternalQmiClient) (l : Ledger) :
    Ledger where
  accepted := fun i => l.accepted i ++ acceptedBy s i op
  sent := fun i =>
    l.sent i ++ ((newWrites s next).filterMap (messageTo i)).map (Sent.mk (s.services i))

/-- An operation together with its observer. -/
def ledgerStep (state : InternalQmiClient × Ledger) (op : ClientOp) :
    Except ClientFault (InternalQmiClient × Ledger) :=
  match clientStep state.1 op with
  | .ok next => .ok (next, state.2.record state.1 op next)
  | .error fault => .error fault

/-! ## The property -/

/-- Messages are queued for a service that the pass handles. They have at least 13 bytes and name
that service. -/
def Proper : ClientOp → Prop
  | .addPendingMessage service buf =>
      service.toNat ∈ handledServices ∧ 13 ≤ buf.length ∧ buf.getD 4 0 = service
  | _ => True

/-- A message as it was queued and as it was sent: the service was ready, and the bytes are the
same but for the instance id and the transaction id, which are those of the service. -/
structure Carries (message : List UInt8) (sent : Sent) : Prop where
  ready : sent.binding.isInitialized = true
  length : sent.bytes.length = message.length
  instanceId : sent.bytes[5]? = some sent.binding.instanceId
  low : sent.bytes[7]? = some (sent.binding.transactionId.toNat % 256).toUInt8
  high : sent.bytes[8]? = some (sent.binding.transactionId.toNat / 256).toUInt8
  others : ∀ k, k ≠ 5 → k ≠ 7 → k ≠ 8 → sent.bytes[k]? = message[k]?

/-- The reply to an allocation names the entry after the last one. -/
def NamesNoEntry : ClientOp → Prop
  | .handleIncomingQmiControlMessage bytes len =>
      Allocates bytes len ∧ (bytes 22).toNat = qmiServicesLast
  | .dispatchIncomingQmiMessage bytes => (bytes 4).toNat = qmiServicesLast
  | _ => False

variable {s next : InternalQmiClient} {l : Ledger} {op : ClientOp} {i : Nat}

/-- A message is sent with the ids of the service. -/
theorem carries_patch {b : QmiServiceBindings} {message : List UInt8} (hready : b.isInitialized = true)
    (hlength : 13 ≤ message.length) :
    Carries message ⟨b, patch message b.instanceId b.transactionId⟩ where
  ready := hready
  length := by simp [patch]
  instanceId := by simp [patch, show 5 < message.length by omega]
  low := by simp [patch, show 7 < message.length by omega]
  high := by simp [patch, show 8 < message.length by omega]
  others := by
    intro k hfive hseven height
    simp [patch, hfive.symm, hseven.symm, height.symm]

/-! ## The invariant -/

/-- What is in the slot of a service. -/
def waiting (b : QmiServiceBindings) : List (List UInt8) :=
  if b.hasPendingMessage then b.message.toList else []

/-- What has been accepted is what has been sent, followed by what is waiting. -/
structure Balanced (s : InternalQmiClient) (l : Ledger) : Prop where
  slot : ∀ i, (s.services i).hasPendingMessage = true → i ∈ handledServices ∧
    ∃ message, (s.services i).message = some message ∧ 13 ≤ message.length ∧
      (message.getD 4 0).toNat = i
  flag : ∀ i, (s.services i).hasPendingMessage = true → s.hasPendingMessage = true
  port : ∀ i, (l.sent i).map Sent.bytes = s.port.filterMap (messageTo i)
  ledger : ∀ i, ∃ delivered, l.accepted i = delivered ++ waiting (s.services i) ∧
    List.Forall₂ Carries delivered (l.sent i)

theorem balanced_initial : Balanced initialClient Ledger.empty where
  slot := by
    intro i h
    cases h
  flag := by
    intro i h
    cases h
  port := fun _ => rfl
  ledger := fun _ => ⟨[], rfl, .nil⟩

theorem record_sent_of_port_eq (hport : next.port = s.port) :
    (l.record s op next).sent = l.sent := by
  funext i
  simp [Ledger.record, new_writes_of_port_eq hport]

/-- A change of the entries that keeps the slots, without a write or an acceptance. -/
theorem Balanced.configured (h : Balanced s l) (hflag : next.hasPendingMessage = s.hasPendingMessage)
    (hport : next.port = s.port) (hop : ∀ i, acceptedBy s i op = [])
    (hpending : ∀ i, (next.services i).hasPendingMessage = (s.services i).hasPendingMessage)
    (hmessage : ∀ i, (next.services i).message = (s.services i).message) :
    Balanced next (l.record s op next) where
  slot := by
    intro i
    rw [hpending, hmessage]
    exact h.slot i
  flag := by
    intro i
    rw [hpending, hflag]
    exact h.flag i
  port := by
    intro i
    rw [record_sent_of_port_eq hport, hport]
    exact h.port i
  ledger := by
    intro i
    have haccepted : (l.record s op next).accepted i = l.accepted i := by
      simp [Ledger.record, hop]
    have hwaiting : waiting (next.services i) = waiting (s.services i) := by
      simp only [waiting, hpending, hmessage]
    rw [record_sent_of_port_eq hport, haccepted, hwaiting]
    exact h.ledger i

/-- A message is put into an empty slot. -/
theorem Balanced.accepted (h : Balanced s l) {service : UInt8} {buf : List UInt8}
    (hproper : Proper (.addPendingMessage service buf))
    (hempty : (s.services service.toNat).hasPendingMessage = false)
    (hresult : addPendingMessage s service buf = .ok (0, next))
    (hnext : next = { s.set service.toNat
      { s.services service.toNat with message := some buf, hasPendingMessage := true } with
        hasPendingMessage := true }) :
    Balanced next (l.record s (.addPendingMessage service buf) next) := by
  obtain ⟨hhandled, hlength, hservice⟩ := hproper
  have hport : next.port = s.port := by
    rw [hnext]
    rfl
  have hentry : next.services service.toNat =
      { s.services service.toNat with message := some buf, hasPendingMessage := true } := by
    rw [hnext]
    exact Function.update_self _ _ _
  have hothers : ∀ i, i ≠ service.toNat → next.services i = s.services i := by
    intro i hi
    rw [hnext]
    exact Function.update_of_ne hi _ _
  have haccepted : ∀ i, (l.record s (.addPendingMessage service buf) next).accepted i =
      l.accepted i ++ if service.toNat = i then [buf] else [] := by
    intro i
    simp only [Ledger.record, acceptedBy, hresult]
  constructor
  case slot =>
    intro i hi
    by_cases hsame : i = service.toNat
    · subst hsame
      rw [hentry]
      exact ⟨hhandled, buf, rfl, hlength, by rw [hservice]⟩
    · rw [hothers i hsame] at hi ⊢
      exact h.slot i hi
  case flag =>
    intro i _
    rw [hnext]
  case port =>
    intro i
    rw [record_sent_of_port_eq hport, hport]
    exact h.port i
  case ledger =>
    intro i
    obtain ⟨delivered, hdelivered, hcarries⟩ := h.ledger i
    refine ⟨delivered, ?_, by rwa [record_sent_of_port_eq hport]⟩
    rw [haccepted, hdelivered]
    by_cases hsame : i = service.toNat
    · subst hsame
      simp [waiting, hentry, hempty]
    · rw [hothers i hsame, if_neg (Ne.symm hsame), List.append_nil]

/-! ## The pass -/

/-- Every message in a slot can be sent. -/
theorem Balanced.sendable (h : Balanced s l) (i : Nat) : Sendable s i := by
  rintro ⟨hpending, _, hhandled⟩
  obtain ⟨_, message, hmessage, hlength, hservice⟩ := h.slot i hpending
  exact ⟨message, hmessage, by omega, hservice ▸ handled_lt hhandled⟩

theorem pass_writes_of_ne {j : Nat} (hj : j ≠ i) : (passWrites s j).filterMap (messageTo i) = [] := by
  unfold passWrites
  split_ifs
  · rfl
  · cases (s.services j).message with
    | none => rfl
    | some message => simp [messageTo, hj]
  all_goals rfl

/-- The messages that a pass writes for a service are what was waiting, if the service is ready. -/
theorem Balanced.pass_messages (h : Balanced s l) (i : Nat) :
    (newWrites s (afterPass s)).filterMap (messageTo i) =
      if (s.services i).isInitialized then
        (waiting (s.services i)).map fun message =>
          patch message (s.services i).instanceId (s.services i).transactionId
      else [] := by
  cases hpending : (s.services i).hasPendingMessage with
  | false =>
      have hnone : ∀ j, (passWrites s j).filterMap (messageTo i) = [] := by
        intro j
        by_cases hj : j = i
        · simp [hj, passWrites, hpending]
        · exact pass_writes_of_ne hj
      rw [new_writes_after_pass, List.filterMap_flatMap]
      simp [hnone, waiting, hpending]
  | true =>
      obtain ⟨hhandled, message, hmessage, hlength, hservice⟩ := h.slot i hpending
      rw [filter_map_new_writes (handled_lt hhandled) fun j hj => pass_writes_of_ne hj]
      cases hready : (s.services i).isInitialized with
      | false => simp [passWrites, hpending, hready, messageTo]
      | true =>
          have hprepared : prepared s message =
              patch message (s.services i).instanceId (s.services i).transactionId := by
            rw [prepared, hservice]
          simp [passWrites, hpending, hready, hhandled, hmessage, messageTo, waiting, hprepared]

/-- Entries that do not exist have nothing in their slots. -/
theorem Balanced.not_pending (h : Balanced s l) (hi : ¬ i < qmiServicesLast) :
    (s.services i).hasPendingMessage = false := by
  rw [← Bool.not_eq_true]
  intro hpending
  exact hi (handled_lt (h.slot i hpending).1)

/-- A flag after a pass is one that was set for a service that is not ready. -/
theorem Balanced.pending_after_pass (h : Balanced s l)
    (hpending : ((afterPass s).services i).hasPendingMessage = true) :
    i < qmiServicesLast ∧ (s.services i).isInitialized = false ∧
      (s.services i).hasPendingMessage = true ∧ (afterPass s).services i = s.services i := by
  by_cases hi : i < qmiServicesLast
  · rw [after_pass_services hi] at hpending ⊢
    rw [pass_entry_has_pending_message, Bool.and_eq_true, Bool.not_eq_true'] at hpending
    exact ⟨hi, hpending.2, hpending.1, by simp [passEntry, hpending.2]⟩
  · rw [after_pass_services_of_ge (by omega), h.not_pending hi] at hpending
    cases hpending

/-- The slots after a pass. -/
theorem Balanced.waiting_after_pass (h : Balanced s l) (i : Nat) :
    waiting ((afterPass s).services i) =
      if (s.services i).isInitialized then [] else waiting (s.services i) := by
  by_cases hi : i < qmiServicesLast
  · rw [after_pass_services hi]
    cases hready : (s.services i).isInitialized with
    | false => simp [passEntry, hready]
    | true => simp [waiting, pass_entry_has_pending_message, hready]
  · rw [after_pass_services_of_ge (by omega)]
    simp [waiting, h.not_pending hi]

/-- What a pass sends for a service that is ready, in terms of the ledger. -/
theorem Balanced.sent_after_pass (h : Balanced s l) (i : Nat) :
    (l.record s .sendPendingInternalQmiMessages (afterPass s)).sent i = l.sent i ++
      if (s.services i).isInitialized then
        (waiting (s.services i)).map fun message =>
          ⟨s.services i, patch message (s.services i).instanceId (s.services i).transactionId⟩
      else [] := by
  simp only [Ledger.record, h.pass_messages i]
  split_ifs
  · rw [List.map_map]
    rfl
  · rfl

/-- What is waiting is long enough. -/
theorem Balanced.waiting_length (h : Balanced s l) {message : List UInt8}
    (hmessage : message ∈ waiting (s.services i)) : 13 ≤ message.length := by
  unfold waiting at hmessage
  split_ifs at hmessage with hpending
  · obtain ⟨_, queued, hqueued, hlength, _⟩ := h.slot i hpending
    rw [hqueued, Option.toList_some, List.mem_singleton] at hmessage
    exact hmessage ▸ hlength
  · cases hmessage

/-- What is waiting for a service that is ready is carried. -/
theorem Balanced.carries_waiting (h : Balanced s l) (hready : (s.services i).isInitialized = true) :
    List.Forall₂ Carries (waiting (s.services i)) ((waiting (s.services i)).map fun message =>
      ⟨s.services i, patch message (s.services i).instanceId (s.services i).transactionId⟩) := by
  rw [List.forall₂_map_right_iff, List.forall₂_same]
  intro message hmessage
  exact carries_patch hready (h.waiting_length hmessage)

/-- A pass over the services. -/
theorem Balanced.passed (h : Balanced s l) :
    Balanced (afterPass s) (l.record s .sendPendingInternalQmiMessages (afterPass s)) := by
  constructor
  case slot =>
    intro i hpending
    obtain ⟨_, _, hbefore, hentry⟩ := h.pending_after_pass hpending
    rw [hentry]
    exact h.slot i hbefore
  case flag =>
    intro i hpending
    exact after_pass_has_pending_message (h.pending_after_pass hpending).1 hpending
  case port =>
    intro i
    rw [after_pass_port, ← new_writes_after_pass, List.filterMap_append, ← h.port i]
    have hbytes : Sent.bytes ∘ Sent.mk (s.services i) = id := rfl
    simp [Ledger.record, hbytes]
  case ledger =>
    intro i
    obtain ⟨delivered, hdelivered, hcarries⟩ := h.ledger i
    have haccepted : (l.record s .sendPendingInternalQmiMessages (afterPass s)).accepted i =
        l.accepted i := List.append_nil _
    rw [h.sent_after_pass, haccepted, h.waiting_after_pass, hdelivered]
    split_ifs with hready
    · refine ⟨delivered ++ waiting (s.services i), (List.append_nil _).symm, ?_⟩
      exact List.rel_append hcarries (h.carries_waiting hready)
    · refine ⟨delivered, rfl, ?_⟩
      rwa [List.append_nil]

/-! ## Runs -/

theorem ledger_step_ok {state after : InternalQmiClient × Ledger}
    (h : ledgerStep state op = .ok after) :
    clientStep state.1 op = .ok after.1 ∧ after.2 = state.2.record state.1 op after.1 := by
  unfold ledgerStep at h
  cases hnext : clientStep state.1 op with
  | error fault =>
      rw [hnext] at h
      cases h
  | ok next =>
      rw [hnext] at h
      cases h
      exact ⟨rfl, rfl⟩

/-- Packets from the baseband leave the slots as they are. -/
theorem Balanced.set (h : Balanced s l) {b : QmiServiceBindings}
    (hpending : b.hasPendingMessage = (s.services i).hasPendingMessage)
    (hmessage : b.message = (s.services i).message) (hop : ∀ j, acceptedBy s j op = []) :
    Balanced (s.set i b) (l.record s op (s.set i b)) := by
  have hentry : (s.set i b).services i = b := Function.update_self _ _ _
  have hothers : ∀ j, j ≠ i → (s.set i b).services j = s.services j :=
    fun j hj => Function.update_of_ne hj _ _
  refine h.configured rfl rfl hop (fun j => ?_) fun j => ?_
  · by_cases hj : j = i
    · rw [hj, hentry, hpending]
    · rw [hothers j hj]
  · by_cases hj : j = i
    · rw [hj, hentry, hmessage]
    · rw [hothers j hj]

theorem Balanced.step (h : Balanced s l) (hproper : Proper op) (hstep : clientStep s op = .ok next) :
    Balanced next (l.record s op next) := by
  cases client_step_effect hstep with
  | idle hadd _ _ _ hnext =>
      subst hnext
      refine h.configured rfl rfl (fun i => ?_) (fun _ => rfl) fun _ => rfl
      cases op with
      | addPendingMessage service buf => simp [acceptedBy, hadd service buf rfl]
      | sendPendingInternalQmiMessages | handleIncomingQmiControlMessage
      | dispatchIncomingQmiMessage => rfl
  | accepted service buf hop _ hempty hresult hnext =>
      subst hop
      exact h.accepted hproper hempty hresult hnext
  | passed hop _ _ hnext =>
      subst hop hnext
      exact h.passed
  | allocated bytes len hop _ _ hnext =>
      subst hop hnext
      exact h.set rfl rfl fun _ => rfl
  | ready bytes len hop _ hnext =>
      subst hop hnext
      exact h.set rfl rfl fun _ => rfl
  | received bytes hop _ hnext =>
      subst hop hnext
      exact h.set rfl rfl fun _ => rfl

theorem Balanced.run {ops : List ClientOp} {state : InternalQmiClient × Ledger}
    (h : Run ledgerStep (fun _ op => Proper op) (initialClient, Ledger.empty) ops state) :
    Balanced state.1 state.2 := by
  refine Run.invariant (fun state => Balanced state.1 state.2) balanced_initial ?_ h
  intro state op after hbalanced hproper hstep
  obtain ⟨hnext, hledger⟩ := ledger_step_ok hstep
  rw [hledger]
  exact hbalanced.step hproper hnext

/-- A pass returns, and the client is as `afterPass` says if something was pending. -/
theorem Balanced.send_ok (h : Balanced s l) :
    clientStep s .sendPendingInternalQmiMessages =
      .ok (if s.hasPendingMessage then afterPass s else s) := by
  cases hpending : s.hasPendingMessage with
  | false => simp [clientStep, sendPendingInternalQmiMessages, hpending]
  | true => exact (send_pending_iff hpending).2 ⟨fun i _ => h.sendable i, rfl⟩

/-- After a pass everything that was accepted for a service that is ready has been sent. -/
theorem Balanced.pass_sends_all (h : Balanced s l) :
    ∃ after, ledgerStep (s, l) .sendPendingInternalQmiMessages = .ok after ∧
      ∀ i, (s.services i).isInitialized = true →
        List.Forall₂ Carries (after.2.accepted i) (after.2.sent i) := by
  refine ⟨_, by rw [ledgerStep, h.send_ok], fun i hready => ?_⟩
  obtain ⟨delivered, hdelivered, hcarries⟩ := h.ledger i
  have haccepted : ∀ next, (l.record s .sendPendingInternalQmiMessages next).accepted i =
      l.accepted i := fun _ => List.append_nil _
  rw [haccepted, hdelivered]
  cases hpending : s.hasPendingMessage with
  | true =>
      rw [if_pos rfl, h.sent_after_pass, if_pos hready]
      exact List.rel_append hcarries (h.carries_waiting hready)
  | false =>
      have hempty : (s.services i).hasPendingMessage = false := by
        rw [← Bool.not_eq_true]
        intro hslot
        rw [h.flag i hslot] at hpending
        cases hpending
      rw [if_neg Bool.false_ne_true, record_sent_of_port_eq rfl]
      simpa [waiting, hempty] using hcarries

/-- Only a packet that names the entry after the last one faults. -/
theorem Balanced.no_fault (h : Balanced s l) (hproper : Proper op) (hentry : ¬ NamesNoEntry op) :
    ∃ next, clientStep s op = .ok next := by
  have hlt : ∀ byte : UInt8, byte.toNat ≠ qmiServicesLast → byte.toNat < qmiServicesLast := by
    intro byte hbyte
    have := byte.toNat_lt
    simp only [qmiServicesLast] at *
    omega
  cases op with
  | addPendingMessage service buf =>
      have hservice := handled_lt hproper.1
      have hle : ¬ service.toNat > qmiServicesLast := by omega
      cases hpending : (s.services service.toNat).hasPendingMessage with
      | true =>
          simp [clientStep, addPendingMessage, InternalQmiClient.get, hservice, hle, hpending,
            bind, Except.bind]
      | false =>
          simp [clientStep, addPendingMessage, InternalQmiClient.get, modify_eq, hservice, hle,
            hpending, bind, Except.bind]
  | sendPendingInternalQmiMessages => exact ⟨_, h.send_ok⟩
  | handleIncomingQmiControlMessage bytes len =>
      simp only [clientStep, handleIncomingQmiControlMessage, modify_eq]
      split_ifs with hregister hlength hresult hservice
      any_goals exact ⟨_, rfl⟩
      · exact absurd (hlt _ fun hlast => hentry ⟨⟨hregister, hlength, hresult⟩, hlast⟩) hservice
      · exact absurd (by decide) ‹¬ qmiServiceMdmfs < qmiServicesLast›
  | dispatchIncomingQmiMessage bytes =>
      have hservice := hlt _ hentry
      simp only [clientStep, dispatchIncomingQmiMessage, setTransactionIdForService, modify_eq,
        if_pos hservice]
      split_ifs <;> exact ⟨_, rfl⟩

/-- In every run, what has been written to the port for a service are the messages accepted for it,
in order, each of them once, while the service was ready and with its ids, up to the message in
its slot. A pass leaves no message of a service that is ready unsent. The global flag is set
while a flag of a service is. Nothing faults but a packet that names the entry after the last
one. -/
theorem internal_messages_delivered {ops : List ClientOp} {s : InternalQmiClient} {l : Ledger}
    (h : Run ledgerStep (fun _ op => Proper op) (initialClient, Ledger.empty) ops (s, l)) :
    (∀ i, (l.sent i).map Sent.bytes = s.port.filterMap (messageTo i)) ∧
      (∀ i, ∃ delivered waiting, l.accepted i = delivered ++ waiting ∧ waiting.length ≤ 1 ∧
        List.Forall₂ Carries delivered (l.sent i)) ∧
      (∃ after, ledgerStep (s, l) .sendPendingInternalQmiMessages = .ok after ∧
        ∀ i, (s.services i).isInitialized = true →
          List.Forall₂ Carries (after.2.accepted i) (after.2.sent i)) ∧
      (∀ i, (s.services i).hasPendingMessage = true → s.hasPendingMessage = true) ∧
      ∀ op, Proper op → ¬ NamesNoEntry op → ∃ next, clientStep s op = .ok next := by
  have hbalanced : Balanced s l := Balanced.run h
  refine ⟨hbalanced.port, fun i => ?_, hbalanced.pass_sends_all, hbalanced.flag,
    fun op => hbalanced.no_fault⟩
  obtain ⟨delivered, hdelivered, hcarries⟩ := hbalanced.ledger i
  refine ⟨delivered, waiting (s.services i), hdelivered, ?_, hcarries⟩
  unfold waiting
  split_ifs
  · cases (s.services i).message <;> simp
  · simp

/-- A request to the DMS service, as it is queued. -/
def sampleRequest : List UInt8 := [0x01, 0x0c, 0, 0, 0x02, 0, 0, 0, 0, 0x25, 0, 0, 0]

/-- The reply that allocates client 7 of a service. -/
def allocationReply (service : UInt8) : Bytes :=
  Bytes.ofList [0x01, 0x17, 0, 0x80, 0, 0, 0x01, 0x05, 0x22, 0, 0x0c, 0, 0x02, 0x04, 0, 0, 0, 0, 0,
    0x01, 0x02, 0, service, 0x07]

/-- A message is queued before its service is ready, and sent after that. -/
theorem sample_request_delivered :
    ∃ s l, Run ledgerStep (fun _ op => Proper op) (initialClient, Ledger.empty)
      [.addPendingMessage 0x02 sampleRequest, .sendPendingInternalQmiMessages,
        .handleIncomingQmiControlMessage (allocationReply 0x02) 24] (s, l) ∧
      ∃ after, ledgerStep (s, l) .sendPendingInternalQmiMessages = .ok after ∧
        List.Forall₂ Carries (after.2.accepted 2) (after.2.sent 2) := by
  have hrun : ∃ state, Run ledgerStep (fun _ op => Proper op) (initialClient, Ledger.empty)
      [.addPendingMessage 0x02 sampleRequest, .sendPendingInternalQmiMessages,
        .handleIncomingQmiControlMessage (allocationReply 0x02) 24] state ∧
      (state.1.services 2).isInitialized = true := by
    have hqueued : ∃ state, Run ledgerStep (fun _ op => Proper op) (initialClient, Ledger.empty)
        [.addPendingMessage 0x02 sampleRequest] state :=
      ⟨_, .snoc (.nil _) (show _ ∧ _ ∧ _ by decide) rfl⟩
    obtain ⟨queued, hqueued⟩ := hqueued
    obtain ⟨asked, hasked, _⟩ := (Balanced.run hqueued).pass_sends_all
    have hsend : Proper .sendPendingInternalQmiMessages := trivial
    have hreply : Proper (.handleIncomingQmiControlMessage (allocationReply 0x02) 24) := trivial
    exact ⟨_, .snoc (.snoc hqueued hsend hasked) hreply rfl, rfl⟩
  obtain ⟨⟨s, l⟩, hrun, hready⟩ := hrun
  obtain ⟨after, hafter, hall⟩ := (internal_messages_delivered hrun).2.2.1
  exact ⟨s, l, hrun, after, hafter, hall 2 hready⟩

end OpenQti.Qmi
