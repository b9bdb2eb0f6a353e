import OpenQti.Qmi.TrackingRuns

/-!
# Where the tracking of clients reads and writes

`checkedTrack` is `track_client_count` with every byte of the packet taken through `fetch`, which
fails past the size of the packet, those of the log lines included. `track_client_count` itself
checks only that the packet has 12 or 16 bytes, `add_client` enters a client before it looks at the
counter, and `remove_client` finds an entry that is not in use under the pair `(0, 0)`. `Contained`
excludes these cases one by one, and `tracking_inside` says that nothing else leads outside.
-/

namespace OpenQti.Qmi

open Bytes Machine

/-! ## Checked accesses -/

/-- A byte after the end of the packet, or an entry after the end of the table. -/
inductive AccessFault where
  | packet (position : Nat)
  | entry (index : Nat)
  deriving DecidableEq, Repr

/-- `pkt[i]` of a packet of `sz` bytes. -/
def fetch (pkt : Bytes) (sz i : Nat) : Except AccessFault UInt8 :=
  if i < sz then .ok (pkt i) else .error (.packet i)

/-- The index at which `add_client` writes. -/
def AccessFault.ofTracking : TrackingFault → AccessFault
  | .index position => .entry position

/-- `is_register_release_request(pkt, sz)` with checked accesses. -/
def checkedRequest (pkt : Bytes) (sz : Nat) : Except AccessFault Bool := do
  let version ← fetch pkt sz 0
  if version ≠ 0x01 then .ok false
  else
    let high ← fetch pkt sz 9
    if high ≠ 0x00 ∨ sz < 12 then .ok false
    else
      let low ← fetch pkt sz 8
      .ok (low = registerReq ∨ low = releaseReq)

/-- `msglength` of `track_client_count`: where the ids of a registered client are looked for. -/
def idsOffset (low : UInt8) (sz : Nat) : Nat := if sz > 20 then low.toNat + 10 else 0

/-- `track_client_count(pkt, from, sz, fd, rmnet_fd)` with checked accesses. -/
def checkedTrack (s : ClientTracking) (op : TrackOp) : Except AccessFault ClientTracking := do
  let request ← checkedRequest op.pkt op.sz
  if !request then .ok s
  else
    -- `pkt[10]` is read for `msglength` and for the branches
    let msgid ← fetch op.pkt op.sz 8
    let length ← fetch op.pkt op.sz 10
    if msgid = registerReq ∧ length = 0x04 ∧ op.source = .fromHost then
      let _ ← fetch op.pkt op.sz 15
      .ok (registerFromHost s op.now op.pkt op.sz)
    else if op.sz ≥ 16 ∧ msgid = registerReq ∧ length = 0x05 ∧ op.source = .fromHost then
      let _ ← fetch op.pkt op.sz 15
      let _ ← fetch op.pkt op.sz 16
      .ok { s with regtime := op.now }
    else if msgid = registerReq ∧ op.source = .fromDsp then
      let service ← fetch op.pkt op.sz (idsOffset length op.sz)
      let instanceId ← fetch op.pkt op.sz (idsOffset length op.sz + 1)
      let (_, s) ← (addClient s op.now ⟨service, instanceId⟩).mapError .ofTracking
      .ok s
    else if op.sz ≥ 16 ∧ msgid = releaseReq ∧ op.source = .fromDsp then
      let service ← fetch op.pkt op.sz 15
      let instanceId ← fetch op.pkt op.sz 16
      .ok (removeClient s op.now ⟨service, instanceId⟩).2
    else .ok s

/-! ## The property and its condition -/

/-- `process_packet` passes packets with at least a control header on. -/
def HasControlHeader (op : TrackOp) : Prop := 12 ≤ op.sz

instance (op : TrackOp) : Decidable (HasControlHeader op) := inferInstanceAs (Decidable (_ ≤ _))

/-- The packet is handled inside of the packet and of the table, and the counter stays in its
range, without wrapping at `0`. -/
def StaysInside (s : ClientTracking) (op : TrackOp) : Prop :=
  ∃ next, checkedTrack s op = .ok next ∧ next.lastActive.toNat ≤ 32 ∧
    (s.lastActive = 0 → next.lastActive.toNat ≤ 1)

/-- Whatever packets have been handled, the counter is in its range and the next packet is handled
inside. -/
def TrackingStaysInside : Prop :=
  ∀ (ops : List TrackOp) (s : ClientTracking),
    Run checkedTrack (fun _ op => HasControlHeader op) initialTracking ops s →
    s.lastActive.toNat ≤ 32 ∧ ∀ op, HasControlHeader op → StaysInside s op

/-- The host asks for a client, with a list of ids of this length. -/
def Requests (length : UInt8) (op : TrackOp) : Prop :=
  isRegisterReleaseRequest op.pkt op.sz ∧ op.pkt 8 = registerReq ∧ op.pkt 10 = length ∧
    op.source = .fromHost

/-- The packet is long enough for what is read of it. -/
structure LongEnough (op : TrackOp) : Prop where
  request : Requests 0x04 op → 16 ≤ op.sz
  longRequest : Requests 0x05 op → 16 ≤ op.sz → 17 ≤ op.sz
  registered : AddsClient op → idsOffset (op.pkt 10) op.sz + 2 ≤ op.sz
  released : RemovesClient op → 17 ≤ op.sz

/-- The packet is long enough, a client is added only while there are less than 32, and none is
found to be removed while there is none. -/
structure Contained (s : ClientTracking) (op : TrackOp) : Prop where
  reads : LongEnough op
  room : AddsClient op → s.lastActive.toNat < 32
  counted : RemovesClient op → s.lastActive = 0 → findClient s (releasedPair op) = none

variable {s next : ClientTracking} {op : TrackOp}

/-! ## The checked model and the model -/

theorem fetch_of_lt {pkt : Bytes} {sz i : Nat} (h : i < sz) : fetch pkt sz i = .ok (pkt i) :=
  if_pos h

theorem fetch_of_le {pkt : Bytes} {sz i : Nat} (h : sz ≤ i) :
    fetch pkt sz i = .error (.packet i) :=
  if_neg (Nat.not_lt.2 h)

theorem checked_request (hsz : 12 ≤ op.sz) :
    checkedRequest op.pkt op.sz = .ok (isRegisterReleaseRequest op.pkt op.sz) := by
  have hzero : fetch op.pkt op.sz 0 = .ok (op.pkt 0) := fetch_of_lt (by omega)
  have height : fetch op.pkt op.sz 8 = .ok (op.pkt 8) := fetch_of_lt (by omega)
  have hnine : fetch op.pkt op.sz 9 = .ok (op.pkt 9) := fetch_of_lt (by omega)
  have hlong : ¬ op.sz < 12 := Nat.not_lt.2 hsz
  simp only [checkedRequest, hzero, height, hnine, isRegisterReleaseRequest, bind, Except.bind]
  by_cases hversion : op.pkt 0 = 0x01
  · by_cases hhigh : op.pkt 9 = 0x00
    · simp [hversion, hhigh, hlong, hsz]
    · simp [hversion, hhigh]
  · simp [hversion]

theorem registered_pair_eq :
    registeredPair op.pkt op.sz =
      ⟨op.pkt (idsOffset (op.pkt 10) op.sz), op.pkt (idsOffset (op.pkt 10) op.sz + 1)⟩ := rfl

/-- The result of the model, with its fault as one of an access. -/
theorem checked_add {pair : ServicePair} :
    (do
      let (_, next) ← (addClient s op.now pair).mapError AccessFault.ofTracking
      .ok next : Except AccessFault ClientTracking) = .ok next ↔
    (do
      let (_, next) ← addClient s op.now pair
      .ok next : Except TrackingFault ClientTracking) = .ok next := by
  cases addClient s op.now pair with
  | error fault => simp [Except.mapError, bind, Except.bind]
  | ok result => simp [Except.mapError, bind, Except.bind]

/-- A fetched byte in front of a computation. -/
theorem fetch_bind_ok {α : Type} {pkt : Bytes} {sz i : Nat} {rest : UInt8 → Except AccessFault α}
    {result : α} :
    (fetch pkt sz i >>= rest) = .ok result ↔ i < sz ∧ rest (pkt i) = .ok result := by
  by_cases hi : i < sz
  · rw [fetch_of_lt hi]
    exact ⟨fun h => ⟨hi, h⟩, fun h => h.2⟩
  · rw [fetch_of_le (Nat.not_lt.1 hi)]
    exact ⟨fun h => (nomatch h), fun h => absurd h.1 hi⟩

/-- A packet that is not looked at may have any length. -/
theorem long_enough_of_other (h : ¬ isRegisterReleaseRequest op.pkt op.sz) : LongEnough op where
  request := fun hrequest => absurd hrequest.1 h
  longRequest := fun hrequest => absurd hrequest.1 h
  registered := fun hadds => absurd hadds.1 h
  released := fun hremoves => absurd hremoves.1 h

theorem long_enough_of_request (h : Requests 0x04 op) : LongEnough op ↔ 15 < op.sz := by
  refine ⟨fun hlong => hlong.request h,
    fun hsz => ⟨fun _ => hsz, fun hlonger => ?_, fun hadds => ?_,
    fun hremoves => ?_⟩⟩
  · exact absurd (h.2.2.1.symm.trans hlonger.2.2.1) (by decide)
  · exact absurd (h.2.2.2.symm.trans hadds.2.2) (by decide)
  · exact absurd (h.2.2.2.symm.trans hremoves.2.2.2) (by decide)

theorem long_enough_of_long_request (h : Requests 0x05 op) (hsz : 16 ≤ op.sz) :
    LongEnough op ↔ 16 < op.sz := by
  refine ⟨fun hlong => hlong.longRequest h hsz, fun hlonger =>
    ⟨fun hrequest => ?_, fun _ _ => hlonger, fun hadds => ?_, fun hremoves => ?_⟩⟩
  · exact absurd (h.2.2.1.symm.trans hrequest.2.2.1) (by decide)
  · exact absurd (h.2.2.2.symm.trans hadds.2.2) (by decide)
  · exact absurd (h.2.2.2.symm.trans hremoves.2.2.2) (by decide)

theorem long_enough_of_adds (h : AddsClient op) :
    LongEnough op ↔ idsOffset (op.pkt 10) op.sz + 1 < op.sz := by
  refine ⟨fun hlong => hlong.registered h, fun hsz =>
    ⟨fun hrequest => ?_, fun hrequest => ?_, fun _ => hsz,
      fun hremoves => absurd hremoves (adds_not_removes h)⟩⟩
  · exact absurd (h.2.2.symm.trans hrequest.2.2.2) (by decide)
  · exact absurd (h.2.2.symm.trans hrequest.2.2.2) (by decide)

theorem long_enough_of_removes (h : RemovesClient op) : LongEnough op ↔ 16 < op.sz := by
  refine ⟨fun hlong => hlong.released h, fun hsz =>
    ⟨fun hrequest => ?_, fun hrequest => ?_, fun hadds => absurd h (adds_not_removes hadds),
      fun _ => hsz⟩⟩
  · exact absurd (h.2.2.2.symm.trans hrequest.2.2.2) (by decide)
  · exact absurd (h.2.2.2.symm.trans hrequest.2.2.2) (by decide)

/-- The checked model succeeds where the model does and the packet is long enough. -/
theorem checked_ok (hsz : HasControlHeader op) :
    checkedTrack s op = .ok next ↔ LongEnough op ∧ trackStep s op = .ok next := by
  have hsz : 12 ≤ op.sz := hsz
  have height : 8 < op.sz := by omega
  have hten : 10 < op.sz := by omega
  rw [checkedTrack, checked_request hsz, trackStep, trackClientCount]
  by_cases hrequest : isRegisterReleaseRequest op.pkt op.sz
  case neg =>
    rw [Bool.not_eq_true] at hrequest
    simp only [hrequest, bind, Except.bind, Bool.not_false, if_true, Except.ok.injEq]
    exact ⟨fun h => ⟨long_enough_of_other (by simp [hrequest]), h⟩, fun h => h.2⟩
  case pos =>
    show (if !isRegisterReleaseRequest op.pkt op.sz then _ else _) = _ ↔ _
    rw [if_neg (by simp [hrequest]), if_neg (by simp [hrequest]), fetch_bind_ok, fetch_bind_ok]
    simp only [height, hten, true_and]
    split_ifs with hfirst hsecond hadds hremoves
    · rw [long_enough_of_request ⟨hrequest, hfirst⟩, fetch_bind_ok, Except.ok.injEq,
        Except.ok.injEq]
    · rw [long_enough_of_long_request ⟨hrequest, hsecond.2⟩ hsecond.1, fetch_bind_ok, fetch_bind_ok]
      constructor
      · rintro ⟨_, hlong, hnext⟩
        exact ⟨hlong, by simpa using hnext⟩
      · rintro ⟨hlong, hnext⟩
        exact ⟨by omega, hlong, by simpa using hnext⟩
    · rw [long_enough_of_adds ⟨hrequest, hadds⟩, fetch_bind_ok, fetch_bind_ok, checked_add,
        registered_pair_eq]
      constructor
      · rintro ⟨_, hlong, hnext⟩
        exact ⟨hlong, hnext⟩
      · rintro ⟨hlong, hnext⟩
        exact ⟨by omega, hlong, hnext⟩
    · rw [long_enough_of_removes ⟨hrequest, hremoves⟩, fetch_bind_ok, fetch_bind_ok]
      constructor
      · rintro ⟨_, hlong, hnext⟩
        exact ⟨hlong, by simpa using hnext⟩
      · rintro ⟨hlong, hnext⟩
        exact ⟨by omega, hlong, by simpa using hnext⟩
    · refine ⟨fun h => ⟨⟨fun hrequested => ?_, fun hrequested hlong => ?_, fun hadd => ?_,
        fun hremove => ?_⟩, by simpa using h⟩, fun h => by simpa using h.2⟩
      · exact absurd hrequested.2 hfirst
      · exact absurd ⟨hlong, hrequested.2⟩ hsecond
      · exact absurd hadd.2 hadds
      · exact absurd hremove.2 hremoves

/-! ## One packet -/

/-- The model has a fault only when a client is entered after the end of the table. -/
theorem track_total (h : AddsClient op → s.lastActive.toNat < trackedServices) :
    ∃ next, trackStep s op = .ok next := by
  unfold trackStep trackClientCount
  split_ifs with hrequest hfirst hsecond hadds hremoves
  · exact ⟨_, rfl⟩
  · exact ⟨_, rfl⟩
  · exact ⟨_, rfl⟩
  · rw [addClient, if_pos (h ⟨by simpa using hrequest, hadds⟩)]
    exact ⟨_, rfl⟩
  · exact ⟨_, rfl⟩
  · exact ⟨_, rfl⟩

/-- The counter after a release has been looked for. -/
theorem counter_of_removes (hremoves : RemovesClient op) (h : trackStep s op = .ok next) :
    (findClient s (releasedPair op) = none ∧ next.lastActive = s.lastActive) ∨
      ((findClient s (releasedPair op)).isSome ∧ next.lastActive = s.lastActive - 1) := by
  have hnext := track_removes hremoves h
  cases hfound : findClient s (releasedPair op) with
  | none =>
      simp only [removeClient, hfound] at hnext
      exact .inl ⟨rfl, by rw [hnext]⟩
  | some i =>
      simp only [removeClient, hfound] at hnext
      refine .inr ⟨rfl, ?_⟩
      rw [hnext]
      split_ifs with hzero
      · exact hzero.symm
      · rfl

/-- What a packet does to the counter. -/
theorem counter_step (h : trackStep s op = .ok next) :
    (AddsClient op ∧ next.lastActive = s.lastActive + 1) ∨
      (RemovesClient op ∧ (findClient s (releasedPair op)).isSome ∧
        next.lastActive = s.lastActive - 1) ∨
      (¬ AddsClient op ∧ (RemovesClient op → findClient s (releasedPair op) = none) ∧
        (next.lastActive = s.lastActive ∨ next.lastActive = 0)) := by
  by_cases hadds : AddsClient op
  · exact .inl ⟨hadds, (track_adds hadds h).2⟩
  by_cases hremoves : RemovesClient op
  · rcases counter_of_removes hremoves h with ⟨hnone, hactive⟩ | ⟨hfound, hactive⟩
    · exact .inr (.inr ⟨hadds, fun _ => hnone, .inl hactive⟩)
    · exact .inr (.inl ⟨hremoves, hfound, hactive⟩)
  · refine .inr (.inr ⟨hadds, fun hremove => absurd hremove hremoves, ?_⟩)
    rcases track_other hadds hremoves h with ⟨_, _, hactive⟩ | ⟨_, _, hactive⟩
    · exact .inl hactive
    · exact .inr hactive

/-- A packet is handled inside exactly if it is contained. -/
theorem stays_iff (hsz : HasControlHeader op) (hrange : s.lastActive.toNat ≤ 32) :
    StaysInside s op ↔ Contained s op := by
  have hone : (1 : UInt8).toNat = 1 := rfl
  have hzero : (0 : UInt8).toNat = 0 := rfl
  constructor
  · rintro ⟨next, hnext, hbound, hwrap⟩
    obtain ⟨hreads, hstep⟩ := (checked_ok hsz).1 hnext
    refine ⟨hreads, fun hadds => ?_, fun hremoves hnone => ?_⟩
    · rw [(track_adds hadds hstep).2, UInt8.toNat_add, hone] at hbound
      omega
    · rcases counter_of_removes hremoves hstep with ⟨hfound, _⟩ | ⟨_, hactive⟩
      · exact hfound
      · rw [hactive, hnone] at hbound
        exact absurd hbound (by decide)
  · intro h
    obtain ⟨next, hstep⟩ := track_total fun hadds => Nat.lt_trans (h.room hadds) (by decide)
    refine ⟨next, (checked_ok hsz).2 ⟨h.reads, hstep⟩, ?_⟩
    rcases counter_step hstep with ⟨hadds, hactive⟩ | ⟨hremoves, hfound, hactive⟩ |
      ⟨_, _, hactive | hactive⟩
    · have hroom := h.room hadds
      rw [hactive, UInt8.toNat_add, hone]
      refine ⟨by omega, fun hempty => ?_⟩
      rw [hempty, hzero]
    · have hpositive : s.lastActive ≠ 0 := by
        intro hempty
        rw [h.counted hremoves hempty] at hfound
        cases hfound
      have hcount : s.lastActive.toNat ≠ 0 := fun hempty => hpositive (UInt8.toNat.inj hempty)
      rw [hactive, UInt8.toNat_sub, hone]
      exact ⟨by omega, fun hempty => absurd hempty hpositive⟩
    · rw [hactive]
      refine ⟨hrange, fun hempty => ?_⟩
      rw [hempty]
      decide
    · rw [hactive, hzero]
      exact ⟨by omega, fun _ => by omega⟩

/-! ## Runs -/

/-- In every run of contained packets the counter stays in its range, and the next packet is handled
inside exactly if it is contained. -/
theorem tracking_inside {ops : List TrackOp}
    (h : Run checkedTrack (fun s op => HasControlHeader op ∧ Contained s op) initialTracking ops s) :
    s.lastActive.toNat ≤ 32 ∧ ∀ op, HasControlHeader op → (StaysInside s op ↔ Contained s op) := by
  have hrange : s.lastActive.toNat ≤ 32 := by
    refine Run.invariant (fun s => s.lastActive.toNat ≤ 32) (by decide) ?_ h
    intro s op next hrange hallowed hnext
    obtain ⟨after, hafter, hbound, _⟩ := (stays_iff hallowed.1 hrange).2 hallowed.2
    rw [hnext] at hafter
    cases hafter
    exact hbound
  exact ⟨hrange, fun op hsz => stays_iff hsz hrange⟩

theorem contained_sample : Contained initialTracking (sampleReply registerReq 0 1 1) where
  reads := (long_enough_of_adds ⟨by decide, by decide, rfl⟩).2 (by decide)
  room := fun _ => by decide
  counted := fun hremoves => absurd hremoves.2.2.1 (by decide)

/-- The first registration, and then the second. -/
theorem tracking_inside_sample :
    ∃ s, checkedTrack initialTracking (sampleReply registerReq 0 1 1) = .ok s ∧
      s.lastActive.toNat ≤ 32 ∧
      (StaysInside s (sampleReply registerReq 0 2 1) ↔ Contained s (sampleReply registerReq 0 2 1)) := by
  obtain ⟨s, hs, _⟩ := (stays_iff (by decide) (by decide)).2 contained_sample
  have hrun : Run checkedTrack (fun s op => HasControlHeader op ∧ Contained s op) initialTracking
      [sampleReply registerReq 0 1 1] s := .snoc (.nil _) ⟨by decide, contained_sample⟩ hs
  exact ⟨s, hs, (tracking_inside hrun).1, (tracking_inside hrun).2 _ (by decide)⟩

/-- The baseband confirms a release while no client is registered. -/
theorem released_without_client : ¬ TrackingStaysInside := by
  intro h
  obtain ⟨next, hnext, hbound, _⟩ := (h [] initialTracking (.nil _)).2
    (sampleReply releaseReq 0 1 1) (by decide)
  obtain ⟨_, hstep⟩ := (checked_ok (by decide)).1 hnext
  cases hstep
  revert hbound
  decide

end OpenQti.Qmi
