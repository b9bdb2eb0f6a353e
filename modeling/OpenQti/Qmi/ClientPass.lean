import Mathlib.Data.List.Basic
import OpenQti.Qmi.Client

/-!
# What a pass over the services does

A pass changes nothing of a service but its message and its flag, so what it writes is given by
the table it starts from: `passWrites` is what the pass writes for a service, `passEntry` is the
entry it leaves. `Sendable` is the condition under which the service can be handled without a
fault. `send_loop_eq` and `send_pending_eq` collect the loop from this; the results about runs
use these two and not the loop.
-/

namespace OpenQti.Qmi

open InternalQmiClient

variable {s next : InternalQmiClient} {i j : Nat}

/-! ## One service -/

/-- The pass sends the message in the slot of service `i`. -/
def Sends (s : InternalQmiClient) (i : Nat) : Prop :=
  (s.services i).hasPendingMessage = true ∧ (s.services i).isInitialized = true ∧
    i ∈ handledServices

/-- The message can be read, and the service in it is one of the table. -/
def Sendable (s : InternalQmiClient) (i : Nat) : Prop :=
  Sends s i → ∃ message, (s.services i).message = some message ∧
    9 ≤ message.length ∧ (message.getD 4 0).toNat < qmiServicesLast

/-- A message as `prepare_internal_pkt` leaves it. -/
def prepared (s : InternalQmiClient) (message : List UInt8) : List UInt8 :=
  patch message (s.services (message.getD 4 0).toNat).instanceId
    (s.services (message.getD 4 0).toNat).transactionId

/-- What the pass writes for service `i`. -/
def passWrites (s : InternalQmiClient) (i : Nat) : List PortWrite :=
  if (s.services i).hasPendingMessage then
    if !(s.services i).isInitialized then [.allocation i]
    else if i ∈ handledServices then
      (s.services i).message.toList.map fun message => .message i (prepared s message)
    else []
  else []

/-- What the pass makes of the entry of service `i`. -/
def passEntry (i : Nat) (b : QmiServiceBindings) : QmiServiceBindings :=
  if b.hasPendingMessage && b.isInitialized then
    if i ∈ handledServices then { b with message := none, hasPendingMessage := false }
    else { b with hasPendingMessage := false }
  else b

theorem handled_lt (h : i ∈ handledServices) : i < qmiServicesLast := by
  revert i
  decide

theorem to_nat_to_u8 (h : i < qmiServicesLast) : i.toUInt8.toNat = i := by
  have hi : i < 255 := h
  simp only [Nat.toUInt8_eq, UInt8.toNat_ofNat']
  omega

@[simp] theorem pass_entry_instance_id (b : QmiServiceBindings) :
    (passEntry i b).instanceId = b.instanceId := by
  unfold passEntry
  split_ifs <;> rfl

@[simp] theorem pass_entry_transaction_id (b : QmiServiceBindings) :
    (passEntry i b).transactionId = b.transactionId := by
  unfold passEntry
  split_ifs <;> rfl

@[simp] theorem pass_entry_is_initialized (b : QmiServiceBindings) :
    (passEntry i b).isInitialized = b.isInitialized := by
  unfold passEntry
  split_ifs <;> rfl

/-- The flag stays for a service that is not ready. -/
theorem pass_entry_has_pending_message (b : QmiServiceBindings) :
    (passEntry i b).hasPendingMessage = (b.hasPendingMessage && !b.isInitialized) := by
  unfold passEntry
  cases hpending : b.hasPendingMessage with
  | false => simp [hpending]
  | true =>
      cases hready : b.isInitialized with
      | false => simp [hpending]
      | true =>
          simp only [Bool.and_self, if_true, Bool.not_true, Bool.and_false]
          split_ifs <;> rfl

/-- The client after service `i` has been handled. -/
def handled (s : InternalQmiClient) (i : Nat) : InternalQmiClient where
  hasPendingMessage := s.hasPendingMessage
  services := Function.update s.services i (passEntry i (s.services i))
  port := s.port ++ passWrites s i

theorem handled_idle (hentry : passEntry i (s.services i) = s.services i) :
    handled s i = { s with port := s.port ++ passWrites s i } := by
  simp only [handled, hentry, Function.update_eq_self]

/-- The flag is not set. -/
theorem send_service_empty (hi : i < qmiServicesLast)
    (hpending : (s.services i).hasPendingMessage = false) : sendService s i = .ok (handled s i) := by
  have hentry : passEntry i (s.services i) = s.services i := by simp [passEntry, hpending]
  rw [handled_idle hentry]
  simp [sendService, InternalQmiClient.get, hi, hpending, passWrites, bind, Except.bind]

/-- The service is not ready. -/
theorem send_service_allocates (hi : i < qmiServicesLast)
    (hpending : (s.services i).hasPendingMessage = true)
    (hready : (s.services i).isInitialized = false) : sendService s i = .ok (handled s i) := by
  have hentry : passEntry i (s.services i) = s.services i := by simp [passEntry, hready]
  rw [handled_idle hentry]
  simp [sendService, InternalQmiClient.get, hi, hpending, hready, passWrites, bind, Except.bind,
    writeToQmiPort]

/-- The service has no case in the pass. -/
theorem send_service_discards (hi : i < qmiServicesLast)
    (hpending : (s.services i).hasPendingMessage = true)
    (hready : (s.services i).isInitialized = true) (hhandled : i ∉ handledServices) :
    sendService s i = .ok (handled s i) := by
  simp [sendService, InternalQmiClient.get, InternalQmiClient.modify, hi, hpending, hready,
    hhandled, passWrites, bind, Except.bind, handled, passEntry]

theorem clear_message_some {message : List UInt8} (hi : i < qmiServicesLast)
    (hmessage : (s.services i).message = some message) :
    clearMessageForService s i.toUInt8 = .ok
      { s with
        services := Function.update s.services i
          { s.services i with message := none, hasPendingMessage := false } } := by
  have hle : ¬ i > qmiServicesLast := by omega
  simp [clearMessageForService, InternalQmiClient.get, InternalQmiClient.modify, to_nat_to_u8 hi,
    hi, hle, hmessage, bind, Except.bind]

/-- The message is sent if it can be. -/
theorem send_service_sends {message : List UInt8} (hsends : Sends s i)
    (hmessage : (s.services i).message = some message) (hlength : 9 ≤ message.length)
    (hservice : (message.getD 4 0).toNat < qmiServicesLast) :
    sendService s i = .ok (handled s i) := by
  obtain ⟨hpending, hready, hhandled⟩ := hsends
  have hi := handled_lt hhandled
  have hprepare : prepareInternalPkt s message = .ok (prepared s message) := by
    simp only [prepareInternalPkt, if_neg (show ¬ message.length < 5 by omega),
      InternalQmiClient.get, if_pos hservice, bind, Except.bind,
      if_neg (show ¬ message.length < 9 by omega), prepared]
  have hclear := clear_message_some (s := s.writeToQmiPort (.message i (prepared s message)))
    hi hmessage
  simp only [sendService, InternalQmiClient.get, if_pos hi, bind, Except.bind, hpending, hready,
    if_true, Bool.not_true, Bool.false_eq_true, if_false, if_pos hhandled, hmessage, hprepare,
    hclear]
  simp [handled, passEntry, passWrites, hpending, hready, hhandled, hmessage, writeToQmiPort]

/-- A service that is handled without a fault is sendable. -/
theorem sendable_of_send_service (hi : i < qmiServicesLast) (h : sendService s i = .ok next) :
    Sendable s i := by
  rintro ⟨hpending, hready, hhandled⟩
  simp only [sendService, InternalQmiClient.get, if_pos hi, bind, Except.bind, hpending, hready,
    if_true, Bool.not_true, Bool.false_eq_true, if_false, if_pos hhandled] at h
  cases hmessage : (s.services i).message with
  | none => simp [hmessage] at h
  | some message =>
      simp only [hmessage, prepareInternalPkt, InternalQmiClient.get, bind, Except.bind] at h
      refine ⟨message, rfl, ?_⟩
      split_ifs at h with hshort hservice hheader
      exact ⟨by omega, hservice⟩

/-- The service is handled without a fault exactly when its message is sendable. -/
theorem send_service_iff (hi : i < qmiServicesLast) :
    sendService s i = .ok next ↔ Sendable s i ∧ next = handled s i := by
  have hok : Sendable s i → sendService s i = .ok (handled s i) := by
    intro hsendable
    cases hpending : (s.services i).hasPendingMessage with
    | false => exact send_service_empty hi hpending
    | true =>
        cases hready : (s.services i).isInitialized with
        | false => exact send_service_allocates hi hpending hready
        | true =>
            by_cases hhandled : i ∈ handledServices
            · obtain ⟨message, hmessage, hlength, hservice⟩ :=
                hsendable ⟨hpending, hready, hhandled⟩
              exact send_service_sends ⟨hpending, hready, hhandled⟩ hmessage hlength hservice
            · exact send_service_discards hi hpending hready hhandled
  constructor
  · intro h
    have hsendable := sendable_of_send_service hi h
    rw [hok hsendable] at h
    cases h
    exact ⟨hsendable, rfl⟩
  · rintro ⟨hsendable, rfl⟩
    exact hok hsendable

/-! ## The loop -/

/-- The entries of the other services are kept. -/
theorem handled_services_of_ne (hj : j ≠ i) : (handled s i).services j = s.services j :=
  Function.update_of_ne hj _ _

/-- The instance id and the transaction id of every service are kept. -/
theorem prepared_handled (message : List UInt8) :
    prepared (handled s i) message = prepared s message := by
  have hkept : ∀ k, ((handled s i).services k).instanceId = (s.services k).instanceId ∧
      ((handled s i).services k).transactionId = (s.services k).transactionId := by
    intro k
    by_cases hk : k = i
    · subst hk
      simp [handled]
    · simp [handled_services_of_ne hk]
  simp only [prepared, (hkept _).1, (hkept _).2]

theorem pass_writes_handled (hj : j ≠ i) : passWrites (handled s i) j = passWrites s j := by
  simp only [passWrites, handled_services_of_ne hj, prepared_handled]

theorem sendable_handled (hj : j ≠ i) : Sendable (handled s i) j ↔ Sendable s j := by
  simp only [Sendable, Sends, handled_services_of_ne hj]

/-- The client after the `n` services from `i` on have been handled. -/
def handledFrom (s : InternalQmiClient) (i n : Nat) : InternalQmiClient where
  hasPendingMessage := s.hasPendingMessage
  services := fun j => if i ≤ j ∧ j < i + n then passEntry j (s.services j) else s.services j
  port := s.port ++ (List.range' i n).flatMap (passWrites s)

theorem handled_from_zero : handledFrom s i 0 = s := by
  have hservices : (handledFrom s i 0).services = s.services := by
    funext j
    exact if_neg (by omega)
  exact InternalQmiClient.ext rfl hservices (List.append_nil _)

theorem handled_from_handled {n : Nat} :
    handledFrom (handled s i) (i + 1) n = handledFrom s i (n + 1) := by
  have hwrites : (List.range' (i + 1) n).flatMap (passWrites (handled s i)) =
      (List.range' (i + 1) n).flatMap (passWrites s) := by
    refine List.flatMap_congr fun j hj => pass_writes_handled ?_
    have := List.mem_range'_1.1 hj
    omega
  have hservices : (handledFrom (handled s i) (i + 1) n).services =
      (handledFrom s i (n + 1)).services := by
    funext j
    by_cases hj : j = i
    · have hfirst : ¬ (i + 1 ≤ j ∧ j < i + 1 + n) := by omega
      have hsecond : i ≤ j ∧ j < i + (n + 1) := by omega
      simp only [handledFrom, if_neg hfirst, if_pos hsecond]
      subst hj
      exact Function.update_self _ _ _
    · have hrange : (i + 1 ≤ j ∧ j < i + 1 + n) ↔ i ≤ j ∧ j < i + (n + 1) := by omega
      simp only [handledFrom, handled_services_of_ne hj, hrange]
  have hport : (handledFrom (handled s i) (i + 1) n).port = (handledFrom s i (n + 1)).port := by
    simp only [handledFrom, hwrites, List.range'_succ, List.flatMap_cons]
    simp [handled]
  exact InternalQmiClient.ext rfl hservices hport

/-- The loop ends without a fault exactly when every service can be handled. -/
theorem send_loop_iff {n : Nat} (hn : i + n ≤ qmiServicesLast) :
    sendLoop n i s = .ok next ↔
      (∀ j, i ≤ j → j < i + n → Sendable s j) ∧ next = handledFrom s i n := by
  induction n generalizing i s with
  | zero =>
      rw [handled_from_zero, sendLoop, Except.ok.injEq]
      constructor
      · intro h
        exact ⟨fun j hij hj => by omega, h.symm⟩
      · rintro ⟨_, h⟩
        exact h.symm
  | succ n ih =>
      have hi : i < qmiServicesLast := by omega
      have hfirst : sendLoop (n + 1) i s = sendService s i >>= sendLoop n (i + 1) := rfl
      rw [hfirst, ← handled_from_handled]
      constructor
      · intro h
        cases hservice : sendService s i with
        | error fault =>
            rw [hservice] at h
            cases h
        | ok middle =>
            rw [hservice] at h
            obtain ⟨hsendable, rfl⟩ := (send_service_iff hi).1 hservice
            obtain ⟨hothers, hnext⟩ := (ih (by omega)).1 h
            refine ⟨fun j hij hj => ?_, hnext⟩
            by_cases hji : j = i
            · exact hji ▸ hsendable
            · exact (sendable_handled hji).1 (hothers j (by omega) (by omega))
      · rintro ⟨hsendable, hnext⟩
        rw [(send_service_iff hi).2 ⟨hsendable i (Nat.le_refl i) (by omega), rfl⟩]
        refine (ih (by omega)).2 ⟨fun j hij hj => ?_, hnext⟩
        exact (sendable_handled (by omega)).2 (hsendable j (by omega) (by omega))

/-! ## The pass -/

/-- Some service has something pending. -/
def anyPending (s : InternalQmiClient) : Bool :=
  (List.range qmiServicesLast).any fun i => (s.services i).hasPendingMessage

/-- The client after a pass. -/
def afterPass (s : InternalQmiClient) : InternalQmiClient :=
  { handledFrom s 0 qmiServicesLast with
    hasPendingMessage := anyPending (handledFrom s 0 qmiServicesLast) }

/-- The pass ends without a fault exactly when every service can be handled. -/
theorem send_pending_iff (hpending : s.hasPendingMessage = true) :
    sendPendingInternalQmiMessages s = .ok next ↔
      (∀ i < qmiServicesLast, Sendable s i) ∧ next = afterPass s := by
  have hloop : ∀ after, sendLoop qmiServicesLast 0 s = .ok after ↔
      (∀ i < qmiServicesLast, Sendable s i) ∧ after = handledFrom s 0 qmiServicesLast := by
    intro after
    rw [send_loop_iff (by omega)]
    simp
  have hflag : ∀ t : InternalQmiClient, t.hasPendingMessage = true →
      (if (List.range qmiServicesLast).all fun i => !(t.services i).hasPendingMessage then
        .ok { t with hasPendingMessage := false }
      else .ok t : Except ClientFault InternalQmiClient) =
      .ok { t with hasPendingMessage := anyPending t } := by
    intro t ht
    have hany : anyPending t =
        !(List.range qmiServicesLast).all fun i => !(t.services i).hasPendingMessage := by
      rw [anyPending, List.not_all_eq_any_not]
      simp
    rw [hany]
    split_ifs with hall
    · simp [hall]
    · simp [hall, ← ht]
  rw [sendPendingInternalQmiMessages, hpending]
  simp only [Bool.not_true, Bool.false_eq_true, if_false]
  cases hresult : sendLoop qmiServicesLast 0 s with
  | error fault =>
      constructor
      · intro h
        cases h
      · rintro ⟨hsendable, _⟩
        rw [(hloop _).2 ⟨hsendable, rfl⟩] at hresult
        cases hresult
  | ok after =>
      obtain ⟨hsendable, rfl⟩ := (hloop after).1 hresult
      show (if _ then _ else _) = _ ↔ _
      rw [hflag (handledFrom s 0 qmiServicesLast) hpending, Except.ok.injEq, eq_comm]
      exact ⟨fun h => ⟨hsendable, h⟩, fun h => h.2⟩

/-- The entries after a pass. -/
theorem after_pass_services (hi : i < qmiServicesLast) :
    (afterPass s).services i = passEntry i (s.services i) :=
  if_pos ⟨Nat.zero_le i, by omega⟩

/-- Entries that do not exist are not changed. -/
theorem after_pass_services_of_ge (hi : qmiServicesLast ≤ i) :
    (afterPass s).services i = s.services i :=
  if_neg (by omega)

/-- The port after a pass. -/
theorem after_pass_port :
    (afterPass s).port = s.port ++ (List.range qmiServicesLast).flatMap (passWrites s) := by
  rw [List.range_eq_range']
  rfl

/-- The global flag is set while a service has something pending. -/
theorem after_pass_has_pending_message (hi : i < qmiServicesLast)
    (hpending : ((afterPass s).services i).hasPendingMessage = true) :
    (afterPass s).hasPendingMessage = true :=
  List.any_eq_true.2 ⟨i, List.mem_range.2 hi, hpending⟩

/-- What the step from `s` to `next` wrote. -/
def newWrites (s next : InternalQmiClient) : List PortWrite := next.port.drop s.port.length

theorem new_writes_of_port_eq (hport : next.port = s.port) : newWrites s next = [] := by
  simp [newWrites, hport]

theorem new_writes_after_pass :
    newWrites s (afterPass s) = (List.range qmiServicesLast).flatMap (passWrites s) := by
  rw [newWrites, after_pass_port, List.drop_left]

/-- A list for each number, of which only one is not empty. -/
theorem flat_map_range_of_single {α : Type} {f : Nat → List α} {n : Nat}
    (hf : ∀ j, j ≠ i → f j = []) (hi : i < n) : (List.range n).flatMap f = f i := by
  induction n with
  | zero => omega
  | succ n ih =>
      rw [List.range_succ, List.flatMap_append, List.flatMap_singleton]
      by_cases hn : i = n
      · subst hn
        have hbefore : (List.range i).flatMap f = [] := by
          rw [List.flatMap_eq_nil_iff]
          intro j hj
          have := List.mem_range.1 hj
          exact hf j (by omega)
        rw [hbefore, List.nil_append]
      · rw [ih (by omega), hf n (Ne.symm hn), List.append_nil]

/-- Of what a pass writes, an observer of one service sees what it writes for that one. -/
theorem filter_map_new_writes {α : Type} {f : PortWrite → Option α} (hi : i < qmiServicesLast)
    (hf : ∀ j, j ≠ i → (passWrites s j).filterMap f = []) :
    (newWrites s (afterPass s)).filterMap f = (passWrites s i).filterMap f := by
  rw [new_writes_after_pass, List.filterMap_flatMap]
  exact flat_map_range_of_single hf hi

end OpenQti.Qmi
