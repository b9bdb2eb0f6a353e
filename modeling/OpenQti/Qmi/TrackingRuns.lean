import Mathlib.Data.Multiset.AddSub
import Mathlib.Data.Multiset.Filter
import OpenQti.Lib.Run
import OpenQti.Qmi.Tracking

/-!
# Faithful tracking of clients

`aliveAfter` is what an observer of the control packets knows: the clients that the baseband has
confirmed as registered, without those that it has confirmed as released, since the table was
last reset. `Faithful` compares the table with it. The table follows as long as every reply to a
registration is a confirmation in the usual layout and a release is confirmed only for the last
client: the release of a client is looked for under the result code of the reply, and not under
its own ids. `Trackable` is this condition, and `tracking_faithful` that it is exact.
-/

namespace OpenQti.Qmi

open Bytes Machine

/-! ## What the baseband confirms -/

/-- A control packet, with the reading of the clock. -/
structure TrackOp where
  pkt : Bytes
  source : PacketSource
  sz : Nat
  now : UInt32

/-- `track_client_count` on a packet. -/
def trackStep (s : ClientTracking) (op : TrackOp) : Except TrackingFault ClientTracking :=
  trackClientCount s op.now op.pkt op.source op.sz

/-- The client that the baseband confirms in a reply with this message id: the reply is laid out
as `struct client_alloc_response` and its result is a success. -/
def confirmed (msgid : UInt8) (op : TrackOp) : Option ServicePair :=
  if op.source = .fromDsp ∧ op.pkt 0 = 0x01 ∧ op.pkt 8 = msgid ∧ op.pkt 9 = 0 ∧ 24 ≤ op.sz ∧
      le16 op.pkt 15 = 0 ∧ le16 op.pkt 17 = 0 then
    some ⟨op.pkt 22, op.pkt 23⟩
  else none

/-- The packet is taken for a registration that the baseband has answered. -/
def AddsClient (op : TrackOp) : Prop :=
  isRegisterReleaseRequest op.pkt op.sz ∧ op.pkt 8 = registerReq ∧ op.source = .fromDsp

/-- The packet is taken for a release that the baseband has answered. -/
def RemovesClient (op : TrackOp) : Prop :=
  isRegisterReleaseRequest op.pkt op.sz ∧ op.sz ≥ 16 ∧ op.pkt 8 = releaseReq ∧ op.source = .fromDsp

instance (op : TrackOp) : Decidable (AddsClient op) := inferInstanceAs (Decidable (_ ∧ _))

instance (op : TrackOp) : Decidable (RemovesClient op) := inferInstanceAs (Decidable (_ ∧ _))

/-- The pair that is looked for when a client is released. -/
def releasedPair (op : TrackOp) : ServicePair := ⟨op.pkt 15, op.pkt 16⟩

/-- The host registers again, and the table is reset. -/
def Reconnects (s : ClientTracking) (op : TrackOp) : Prop :=
  isRegisterReleaseRequest op.pkt op.sz ∧ op.pkt 8 = registerReq ∧ op.pkt 10 = 0x04 ∧
    op.source = .fromHost ∧ s.regtime ≠ 0 ∧
    ((op.sz ≥ 15 ∧ s.hostSideManagingApp = op.pkt 15 ∧ s.lastActive.toNat > 0) ∨
      s.lastActive.toNat > maxActiveClients)

/-- The packet resets the table: the host registers again, or the counter comes down to `0`. -/
def Resets (s : ClientTracking) (op : TrackOp) : Prop :=
  Reconnects s op ∨
    RemovesClient op ∧ (findClient s (releasedPair op)).isSome ∧ s.lastActive = 1

instance (s : ClientTracking) (op : TrackOp) : Decidable (Reconnects s op) :=
  inferInstanceAs (Decidable (_ ∧ _))

instance (s : ClientTracking) (op : TrackOp) : Decidable (Resets s op) :=
  inferInstanceAs (Decidable (_ ∨ _))

/-- The clients that are registered after the packet. -/
def aliveAfter (s : ClientTracking) (op : TrackOp) (alive : Multiset ServicePair) :
    Multiset ServicePair :=
  if Resets s op then 0
  else match confirmed registerReq op with
    | some pair => pair ::ₘ alive
    | none => match confirmed releaseReq op with
      | some pair => alive.erase pair
      | none => alive

/-- The table before the first packet. -/
def initialTracking : ClientTracking where
  services := fun _ => .empty
  lastActive := 0
  regtime := 0
  hostSideManagingApp := 0
  dirtyReconnects := 0

/-! ## The property -/

/-- The entries of the table that are in use. -/
def entries (s : ClientTracking) : List ServicePair :=
  ((List.range trackedServices).map s.services).filter (· ≠ .empty)

/-- The table holds the clients that are registered, and the counter is their number. -/
def Faithful (s : ClientTracking) (alive : Multiset ServicePair) : Prop :=
  (entries s : Multiset ServicePair) = alive ∧ s.lastActive.toNat = (entries s).length

/-- At most 32 clients are registered at once. -/
def AtMost32 (state : ClientTracking × Multiset ServicePair) (op : TrackOp) : Prop :=
  (aliveAfter state.1 op state.2).card ≤ 32

/-- What the packet is taken for is what the baseband confirms: a registration names its client where
it is read, and a release is looked for only when there is one client left, or is not found. -/
def Trackable (state : ClientTracking × Multiset ServicePair) (op : TrackOp) : Prop :=
  (AddsClient op → ∃ pair, confirmed registerReq op = some pair ∧
      registeredPair op.pkt op.sz = pair ∧ pair ≠ .empty) ∧
    (RemovesClient op → ((findClient state.1 (releasedPair op)).isSome → state.1.lastActive = 1) ∧
      (findClient state.1 (releasedPair op) = none → ∀ pair, confirmed releaseReq op = some pair →
        pair ∉ state.2))

variable {s next : ClientTracking} {op : TrackOp} {alive : Multiset ServicePair}
  {clients : List ServicePair}

/-! ## The table as a list -/

/-- The first entries are those of the list, none of them empty, and the others are. -/
structure Listed (s : ClientTracking) (clients : List ServicePair) : Prop where
  used : ∀ i (h : i < clients.length), s.services i = clients[i]
  unused : ∀ i, clients.length ≤ i → s.services i = .empty
  nonempty : ∀ pair ∈ clients, pair ≠ .empty
  active : s.lastActive.toNat = clients.length
  bounded : clients.length ≤ 32

theorem Listed.map_range (h : Listed s clients) {n : Nat} (hn : clients.length ≤ n) :
    (List.range n).map s.services = clients ++ List.replicate (n - clients.length) .empty := by
  refine List.ext_getElem (by simp; omega) fun i hi _ => ?_
  rw [List.getElem_map, List.getElem_range, List.getElem_append]
  split_ifs with hused
  · exact h.used i hused
  · rw [List.getElem_replicate, h.unused i (by omega)]

theorem Listed.entries (h : Listed s clients) : entries s = clients := by
  have hlength : clients.length ≤ trackedServices := Nat.le_trans h.bounded (by decide)
  rw [Qmi.entries, h.map_range hlength, List.filter_append, List.filter_eq_self.2]
  · simp
  · intro pair hpair
    simpa using h.nonempty pair hpair

/-- A change that keeps the table and the counter. -/
theorem Listed.kept (h : Listed s clients)
    (hservices : next.services = s.services) (hactive : next.lastActive = s.lastActive) :
    Listed next clients where
  used := by
    rw [hservices]
    exact h.used
  unused := by
    rw [hservices]
    exact h.unused
  nonempty := h.nonempty
  active := by
    rw [hactive]
    exact h.active
  bounded := h.bounded

/-- The table has been emptied. -/
theorem listed_nil (hservices : ∀ i, next.services i = .empty) (hactive : next.lastActive = 0) :
    Listed next [] where
  used := fun i hi => absurd hi (Nat.not_lt_zero i)
  unused := fun i _ => hservices i
  nonempty := nofun
  active := by rw [hactive]; rfl
  bounded := Nat.zero_le _

theorem Listed.wipe (h : Listed s clients) (i : Nat) :
    (wipeServices s).services i = .empty := by
  by_cases hi : i < 32
  · exact if_pos hi
  · show (if i < 32 then ServicePair.empty else s.services i) = .empty
    rw [if_neg hi]
    exact h.unused i (Nat.le_trans h.bounded (by omega))

/-- The counter after a client has been added. -/
theorem Listed.active_succ (h : Listed s clients) (hactive : next.lastActive = s.lastActive + 1) :
    next.lastActive.toNat = clients.length + 1 := by
  have hone : (1 : UInt8).toNat = 1 := rfl
  have hbounded := h.bounded
  rw [hactive, UInt8.toNat_add, h.active, hone]
  omega

/-- A client is entered behind the others. -/
theorem Listed.append (h : Listed s clients) {pair : ServicePair}
    (hpair : pair ≠ .empty) (hlength : clients.length < 32)
    (hservices : next.services = Function.update s.services s.lastActive.toNat pair)
    (hactive : next.lastActive = s.lastActive + 1) : Listed next (clients ++ [pair]) := by
  rw [h.active] at hservices
  constructor
  case used =>
    intro i hi
    rw [hservices, List.getElem_append]
    split_ifs with hused
    · rw [Function.update_of_ne (by omega), h.used i hused]
    · have hlast : i = clients.length := by
        rw [List.length_append, List.length_singleton] at hi
        omega
      subst hlast
      simp
  case unused =>
    intro i hi
    rw [List.length_append, List.length_singleton] at hi
    rw [hservices, Function.update_of_ne (by omega)]
    exact h.unused i (by omega)
  case nonempty =>
    intro entry hentry
    rcases List.mem_append.1 hentry with hold | hnew
    · exact h.nonempty entry hold
    · exact List.mem_singleton.1 hnew ▸ hpair
  case active => rw [h.active_succ hactive, List.length_append, List.length_singleton]
  case bounded =>
    rw [List.length_append, List.length_singleton]
    omega

/-! ## Packets -/

theorem confirmed_some {msgid : UInt8} {pair : ServicePair} (h : confirmed msgid op = some pair) :
    op.source = .fromDsp ∧ op.pkt 0 = 0x01 ∧ op.pkt 8 = msgid ∧ op.pkt 9 = 0 ∧ 24 ≤ op.sz ∧
      le16 op.pkt 15 = 0 := by
  unfold confirmed at h
  split_ifs at h with hreply
  exact ⟨hreply.1, hreply.2.1, hreply.2.2.1, hreply.2.2.2.1, hreply.2.2.2.2.1, hreply.2.2.2.2.2.1⟩

/-- A confirmed registration is taken for one. -/
theorem adds_of_confirmed {pair : ServicePair} (h : confirmed registerReq op = some pair) :
    AddsClient op := by
  obtain ⟨hsource, hversion, hmsgid, hhigh, hsz, _⟩ := confirmed_some h
  refine ⟨?_, hmsgid, hsource⟩
  simp only [isRegisterReleaseRequest, hversion, hhigh, hmsgid, decide_eq_true_eq, true_or, and_true,
    true_and]
  omega

/-- A confirmed release is taken for one, of the pair `(0, 0)`. -/
theorem removes_of_confirmed {pair : ServicePair} (h : confirmed releaseReq op = some pair) :
    RemovesClient op ∧ releasedPair op = .empty := by
  obtain ⟨hsource, hversion, hmsgid, hhigh, hsz, hresult⟩ := confirmed_some h
  refine ⟨⟨?_, by omega, hmsgid, hsource⟩, ?_⟩
  · simp only [isRegisterReleaseRequest, hversion, hhigh, hmsgid, decide_eq_true_eq, or_true,
      and_true, true_and]
    omega
  · simp only [le16, Nat.reduceAdd] at hresult
    have hlow : op.pkt 15 = 0 := UInt8.toNat.inj (show _ = 0 by omega)
    have hnext : op.pkt 16 = 0 := UInt8.toNat.inj (show _ = 0 by omega)
    rw [releasedPair, hlow, hnext]
    rfl

theorem adds_not_removes (h : AddsClient op) : ¬ RemovesClient op := by
  intro hremoves
  have hsame := h.2.1.symm.trans hremoves.2.2.1
  cases hsame

theorem adds_not_reconnects (h : AddsClient op) : ¬ Reconnects s op := by
  intro hreconnects
  have hsame := h.2.2.symm.trans hreconnects.2.2.2.1
  cases hsame

theorem removes_not_reconnects (h : RemovesClient op) : ¬ Reconnects s op := by
  intro hreconnects
  have hsame := h.2.2.2.symm.trans hreconnects.2.2.2.1
  cases hsame

/-- The first registration of the host is only noted. -/
theorem register_first {now : UInt32} {pkt : Bytes} {sz : Nat} (hfirst : s.regtime = 0) :
    (registerFromHost s now pkt sz).services = s.services ∧
      (registerFromHost s now pkt sz).lastActive = s.lastActive := by
  simp only [registerFromHost, if_pos hfirst, setCurrentHostApp]
  split_ifs <;> exact ⟨rfl, rfl⟩

/-- The other packets keep the table or, when the host registers again, reset it. -/
theorem track_other (hadds : ¬ AddsClient op) (hremoves : ¬ RemovesClient op)
    (h : trackStep s op = .ok next) :
    (¬ Reconnects s op ∧ next.services = s.services ∧ next.lastActive = s.lastActive) ∨
      (Reconnects s op ∧ next.services = (wipeServices s).services ∧ next.lastActive = 0) := by
  unfold trackStep trackClientCount at h
  split_ifs at h with hrequest hhost hother hadd hremove
  · cases h
    refine .inl ⟨fun hreconnects => ?_, rfl, rfl⟩
    simp [hreconnects.1] at hrequest
  · cases h
    have htracked : isRegisterReleaseRequest op.pkt op.sz := by simpa using hrequest
    by_cases hfirst : s.regtime = 0
    · exact .inl ⟨fun hreconnects => hreconnects.2.2.2.2.1 hfirst, register_first hfirst⟩
    rw [registerFromHost, if_neg hfirst]
    split_ifs with hdirty hmany
    · exact .inr ⟨⟨htracked, hhost.1, hhost.2.1, hhost.2.2, hfirst, .inl hdirty⟩, rfl, rfl⟩
    · exact .inr ⟨⟨htracked, hhost.1, hhost.2.1, hhost.2.2, hfirst, .inr hmany⟩, rfl, rfl⟩
    · refine .inl ⟨fun hreconnects => ?_, rfl, rfl⟩
      exact hreconnects.2.2.2.2.2.elim hdirty hmany
  · cases h
    refine .inl ⟨fun hreconnects => ?_, rfl, rfl⟩
    exact hhost ⟨hreconnects.2.1, hreconnects.2.2.1, hreconnects.2.2.2.1⟩
  · exact absurd ⟨by simpa using hrequest, hadd⟩ hadds
  · exact absurd ⟨by simpa using hrequest, hremove⟩ hremoves
  · cases h
    refine .inl ⟨fun hreconnects => ?_, rfl, rfl⟩
    exact hhost ⟨hreconnects.2.1, hreconnects.2.2.1, hreconnects.2.2.2.1⟩

/-- A packet that is taken for an answered registration adds a client. -/
theorem track_adds (hadds : AddsClient op) (h : trackStep s op = .ok next) :
    next.services = Function.update s.services s.lastActive.toNat (registeredPair op.pkt op.sz) ∧
      next.lastActive = s.lastActive + 1 := by
  obtain ⟨hrequest, hmsgid, hsource⟩ := hadds
  rw [trackStep, trackClientCount, if_neg (by simp [hrequest]), if_neg (by simp [hsource]),
    if_neg (by simp [hsource]), if_pos ⟨hmsgid, hsource⟩, addClient] at h
  split_ifs at h
  · cases h
    exact ⟨rfl, rfl⟩
  · cases h

/-- A packet that is taken for an answered release looks for a client to remove. -/
theorem track_removes (hremoves : RemovesClient op) (h : trackStep s op = .ok next) :
    next = (removeClient s op.now (releasedPair op)).2 := by
  obtain ⟨hrequest, hsz, hmsgid, hsource⟩ := hremoves
  have hregister : ¬ op.pkt 8 = registerReq := by
    rw [hmsgid]
    decide
  rw [trackStep, trackClientCount, if_neg (by simp [hrequest]), if_neg (by simp [hsource]),
    if_neg (by simp [hsource]), if_neg (fun hadd => hregister hadd.1),
    if_pos ⟨hsz, hmsgid, hsource⟩] at h
  cases h
  rfl

/-! ## One packet -/

theorem alive_of_reset (h : Resets s op) : aliveAfter s op alive = 0 := if_pos h

theorem not_resets_of_adds (h : AddsClient op) : ¬ Resets s op := by
  rintro (hreconnects | hremoves)
  · exact adds_not_reconnects h hreconnects
  · exact adds_not_removes h hremoves.1

theorem not_registered_of_removes (h : RemovesClient op) : confirmed registerReq op = none := by
  cases hconfirmed : confirmed registerReq op with
  | none => rfl
  | some pair => exact absurd h (adds_not_removes (adds_of_confirmed hconfirmed))

theorem alive_of_registered {pair : ServicePair} (h : confirmed registerReq op = some pair) :
    aliveAfter s op alive = pair ::ₘ alive := by
  rw [aliveAfter, if_neg (not_resets_of_adds (adds_of_confirmed h)), h]

theorem alive_of_unregistered (hadds : AddsClient op) (h : confirmed registerReq op = none) :
    aliveAfter s op alive = alive := by
  have hrelease : confirmed releaseReq op = none := by
    cases hconfirmed : confirmed releaseReq op with
    | none => rfl
    | some pair => exact absurd (removes_of_confirmed hconfirmed).1 (adds_not_removes hadds)
  rw [aliveAfter, if_neg (not_resets_of_adds hadds), h, hrelease]

theorem alive_of_released {pair : ServicePair} (hreset : ¬ Resets s op)
    (h : confirmed releaseReq op = some pair) : aliveAfter s op alive = alive.erase pair := by
  rw [aliveAfter, if_neg hreset, not_registered_of_removes (removes_of_confirmed h).1, h]

theorem alive_of_unreleased (hremoves : RemovesClient op) (hreset : ¬ Resets s op)
    (h : confirmed releaseReq op = none) : aliveAfter s op alive = alive := by
  rw [aliveAfter, if_neg hreset, not_registered_of_removes hremoves, h]

theorem alive_of_other (hadds : ¬ AddsClient op) (hremoves : ¬ RemovesClient op)
    (hreconnects : ¬ Reconnects s op) : aliveAfter s op alive = alive := by
  have hregister : confirmed registerReq op = none := by
    cases hconfirmed : confirmed registerReq op with
    | none => rfl
    | some pair => exact absurd (adds_of_confirmed hconfirmed) hadds
  have hrelease : confirmed releaseReq op = none := by
    cases hconfirmed : confirmed releaseReq op with
    | none => rfl
    | some pair => exact absurd (removes_of_confirmed hconfirmed).1 hremoves
  have hreset : ¬ Resets s op := fun hreset =>
    hreset.elim hreconnects fun hremoved => hremoves hremoved.1
  rw [aliveAfter, if_neg hreset, hregister, hrelease]

/-- The packet keeps the table as a list of the clients that are registered. -/
def KeepsList (s : ClientTracking) (op : TrackOp) (next : ClientTracking)
    (alive : Multiset ServicePair) : Prop :=
  ∃ clients, Listed next clients ∧ aliveAfter s op alive = clients

theorem Listed.other (h : Listed s clients) (hadds : ¬ AddsClient op)
    (hremoves : ¬ RemovesClient op) (hnext : trackStep s op = .ok next) :
    KeepsList s op next clients := by
  rcases track_other hadds hremoves hnext with ⟨hkept, hservices, hactive⟩ |
    ⟨hreset, hservices, hactive⟩
  · exact ⟨clients, h.kept hservices hactive, alive_of_other hadds hremoves hkept⟩
  · refine ⟨[], listed_nil (fun i => ?_) hactive, alive_of_reset (.inl hreset)⟩
    rw [hservices]
    exact h.wipe i

/-- An empty pair is entered: the table stays as it is. -/
theorem Listed.entries_of_empty (h : Listed s clients)
    (hservices : next.services = Function.update s.services s.lastActive.toNat .empty) :
    Qmi.entries next = clients := by
  have hsame : next.services = s.services := by
    rw [hservices, h.active, ← h.unused clients.length (Nat.le_refl _), Function.update_eq_self]
  rw [Qmi.entries, hsame, ← Qmi.entries, h.entries]

/-- A reply to a registration keeps the table faithful exactly if it is a confirmation that names
its client where it is read. -/
theorem Listed.adds (h : Listed s clients) (hadds : AddsClient op)
    (hbounded : AtMost32 (s, clients) op) (hnext : trackStep s op = .ok next) :
    (Trackable (s, clients) op → KeepsList s op next clients) ∧
      (Faithful next (aliveAfter s op clients) → Trackable (s, clients) op) := by
  obtain ⟨hservices, hactive⟩ := track_adds hadds hnext
  cases hconfirmed : confirmed registerReq op with
  | none =>
      have halive : aliveAfter s op (clients : Multiset ServicePair) = clients :=
        alive_of_unregistered hadds hconfirmed
      constructor
      · rintro ⟨hregistered, _⟩
        obtain ⟨pair, hpair, _⟩ := hregistered hadds
        rw [hconfirmed] at hpair
        cases hpair
      · rintro ⟨hentries, hlength⟩
        have hcard := congrArg Multiset.card hentries
        rw [halive, Multiset.coe_card, Multiset.coe_card, ← hlength, h.active_succ hactive] at hcard
        omega
  | some pair =>
      have halive : aliveAfter s op (clients : Multiset ServicePair) = pair ::ₘ clients :=
        alive_of_registered hconfirmed
      have hlength : clients.length < 32 := by
        have hcard : (aliveAfter s op clients).card ≤ 32 := hbounded
        rw [halive, Multiset.card_cons, Multiset.coe_card] at hcard
        omega
      have hlist : registeredPair op.pkt op.sz ≠ .empty →
          Listed next (clients ++ [registeredPair op.pkt op.sz]) :=
        fun hnonempty => h.append hnonempty hlength hservices hactive
      have hcoe : ∀ added : ServicePair,
          ((clients ++ [added] : List ServicePair) : Multiset ServicePair) = added ::ₘ clients := by
        intro added
        rw [Multiset.cons_coe, Multiset.coe_eq_coe]
        exact List.perm_append_comm
      constructor
      · rintro ⟨hregistered, _⟩
        obtain ⟨named, hnamed, hread, hnonempty⟩ := hregistered hadds
        rw [hconfirmed, Option.some.injEq] at hnamed
        subst hnamed hread
        exact ⟨_, hlist hnonempty, by rw [halive, hcoe]⟩
      · rintro ⟨hentries, hcount⟩
        have hnonempty : registeredPair op.pkt op.sz ≠ .empty := by
          intro hempty
          rw [hempty] at hservices
          rw [h.entries_of_empty hservices, h.active_succ hactive] at hcount
          omega
        rw [(hlist hnonempty).entries, halive, hcoe, Multiset.cons_inj_left] at hentries
        exact ⟨fun _ => ⟨pair, hconfirmed, hentries, hentries ▸ hnonempty⟩,
          fun hremoves => absurd hremoves (adds_not_removes hadds)⟩

/-- The counter after a client has been removed, if that was not the last one. -/
theorem Listed.active_pred (h : Listed s clients) (hactive : next.lastActive = s.lastActive - 1) :
    next.lastActive.toNat ≠ clients.length := by
  have hone : (1 : UInt8).toNat = 1 := rfl
  have hbounded := h.bounded
  rw [hactive, UInt8.toNat_sub, h.active, hone]
  omega

/-- The release is not found. -/
theorem Listed.removes_none (h : Listed s clients) (hremoves : RemovesClient op)
    (hfound : findClient s (releasedPair op) = none) :
    (Trackable (s, clients) op → KeepsList s op s clients) ∧
      (Faithful s (aliveAfter s op clients) → Trackable (s, clients) op) := by
  have hadds : ¬ AddsClient op := fun hadds => adds_not_removes hadds hremoves
  have hreset : ¬ Resets s op := by
    rintro (hreconnects | ⟨_, hsome, _⟩)
    · exact removes_not_reconnects hremoves hreconnects
    · rw [hfound] at hsome
      cases hsome
  have htrackable : (∀ pair, confirmed releaseReq op = some pair → pair ∉ clients) →
      Trackable (s, clients) op := by
    intro hunknown
    refine ⟨fun hadd => absurd hadd hadds, fun _ => ⟨fun hsome => ?_, fun _ => hunknown⟩⟩
    rw [hfound] at hsome
    cases hsome
  cases hconfirmed : confirmed releaseReq op with
  | none =>
      refine ⟨fun _ => ⟨clients, h, alive_of_unreleased hremoves hreset hconfirmed⟩, fun _ => ?_⟩
      refine htrackable fun pair hpair => ?_
      rw [hconfirmed] at hpair
      cases hpair
  | some pair =>
      have halive : aliveAfter s op (clients : Multiset ServicePair) =
          (clients : Multiset ServicePair).erase pair := alive_of_released hreset hconfirmed
      constructor
      · rintro ⟨_, hreleased⟩
        have hunknown := (hreleased hremoves).2 hfound pair hconfirmed
        exact ⟨clients, h, by rw [halive, Multiset.erase_of_notMem hunknown]⟩
      · rintro ⟨hentries, _⟩
        refine htrackable fun named hnamed hmem => ?_
        rw [hconfirmed, Option.some.injEq] at hnamed
        subst hnamed
        have hlt := Multiset.card_erase_lt_of_mem (Multiset.mem_coe.2 hmem)
        rw [← halive, ← hentries, h.entries] at hlt
        exact lt_irrefl _ hlt

/-- The release is found at some entry. -/
theorem Listed.removes_some {i : Nat} (h : Listed s clients) (hremoves : RemovesClient op)
    (hfound : findClient s (releasedPair op) = some i)
    (hnext : next = (removeClient s op.now (releasedPair op)).2) :
    (Trackable (s, clients) op → KeepsList s op next clients) ∧
      (Faithful next (aliveAfter s op clients) → Trackable (s, clients) op) := by
  have hadds : ¬ AddsClient op := fun hadds => adds_not_removes hadds hremoves
  have hentry : s.services i = releasedPair op := by
    simpa using List.find?_some hfound
  simp only [removeClient, hfound] at hnext
  by_cases hlast : s.lastActive = 1
  · have hzero : s.lastActive - 1 = 0 := by rw [hlast]; rfl
    rw [if_pos hzero] at hnext
    have hreset : Resets s op := .inr ⟨hremoves, by rw [hfound]; rfl, hlast⟩
    refine ⟨fun _ => ⟨[], listed_nil (fun j => ?_) (by rw [hnext]; rfl), alive_of_reset hreset⟩,
      fun _ => ⟨fun hadd => absurd hadd hadds, fun _ => ⟨fun _ => hlast, fun hnone => ?_⟩⟩⟩
    · rw [hnext]
      show (if j < 32 then ServicePair.empty else Function.update s.services i .empty j) = .empty
      split_ifs with hj
      · rfl
      · by_cases hji : j = i
        · rw [hji, Function.update_self]
        · rw [Function.update_of_ne hji]
          exact h.unused j (Nat.le_trans h.bounded (by omega))
    · rw [hfound] at hnone
      cases hnone
  · have hzero : ¬ s.lastActive - 1 = 0 := by
      intro hzero
      exact hlast (UInt8.sub_eq_iff_eq_add.1 hzero)
    rw [if_neg hzero] at hnext
    have hactive : next.lastActive = s.lastActive - 1 := by rw [hnext]
    have hreset : ¬ Resets s op := by
      rintro (hreconnects | ⟨_, _, hone⟩)
      · exact removes_not_reconnects hremoves hreconnects
      · exact hlast hone
    constructor
    · rintro ⟨_, hreleased⟩
      exact absurd ((hreleased hremoves).1 (by rw [hfound]; rfl)) hlast
    · rintro ⟨hentries, hcount⟩
      -- the counter is one off, so either the entries or the clients are as before
      refine absurd ?_ (h.active_pred hactive)
      rw [hcount]
      by_cases hempty : releasedPair op = .empty
      · have hservices : next.services = s.services := by
          rw [hnext, ← hempty, ← hentry]
          exact Function.update_eq_self _ _
        rw [Qmi.entries, hservices, ← Qmi.entries, h.entries]
      · have hconfirmed : confirmed releaseReq op = none := by
          cases hconfirmed : confirmed releaseReq op with
          | none => rfl
          | some pair => exact absurd (removes_of_confirmed hconfirmed).2 hempty
        have halive : aliveAfter s op (clients : Multiset ServicePair) = clients :=
          alive_of_unreleased hremoves hreset hconfirmed
        rw [halive] at hentries
        exact (Multiset.coe_eq_coe.1 hentries).length_eq

/-- A packet keeps the table faithful exactly if it is trackable. -/
theorem Listed.step (h : Listed s clients) (hbounded : AtMost32 (s, clients) op)
    (hnext : trackStep s op = .ok next) :
    (Trackable (s, clients) op → KeepsList s op next clients) ∧
      (Faithful next (aliveAfter s op clients) → Trackable (s, clients) op) := by
  by_cases hadds : AddsClient op
  · exact h.adds hadds hbounded hnext
  · by_cases hremoves : RemovesClient op
    · have hremoved := track_removes hremoves hnext
      cases hfound : findClient s (releasedPair op) with
      | none =>
          simp only [removeClient, hfound] at hremoved
          subst hremoved
          exact h.removes_none hremoves hfound
      | some i => exact h.removes_some hremoves hfound hremoved
    · refine ⟨fun _ => h.other hadds hremoves hnext, fun _ => ?_⟩
      exact ⟨fun hadd => absurd hadd hadds, fun hremove => absurd hremove hremoves⟩

/-! ## Runs -/

/-- The reply of the baseband to a registration or a release, with its result. -/
def sampleReply (msgid result service instanceId : UInt8) : TrackOp where
  pkt := Bytes.ofList [0x01, 0x17, 0, 0x80, 0, 0, 0x01, 0x05, msgid, 0, 0x0c, 0, 0x02, 0x04, 0,
    result, 0, 0, 0, 0x01, 0x02, 0, service, instanceId]
  source := .fromDsp
  sz := 24
  now := 1000

end OpenQti.Qmi
