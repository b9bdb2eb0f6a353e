import OpenQti.Sms.Recovery

/-!
# Transaction ids of the requests

The ids under which one run of `retrieve_and_delete` writes its requests. A message that cannot
be read takes two ids of the counter, and one that can be read takes its own and the next for
the deletion, but the counter is only advanced by one. The read request of the next message
then has the id of the deletion: `transaction_ids_distinct_iff`.
-/

namespace OpenQti.Sms.Recovery

open Bytes Except

/-! ## The requests of a run -/

/-- The transaction id of a request that `write` has taken. -/
def Exchange.requestId (exchange : Exchange) : Event → Option Nat
  | .readRequest _ id _ => if 0 < exchange.readWrite then some id else none
  | .deleteRequest _ id _ => if 0 < exchange.deleteWrite then some id else none
  | _ => none

/-- The transaction ids of the requests of a round that have been written. -/
def Round.requestIds (round : Round) : List Nat := round.events.filterMap round.exchange.requestId

/-- The ids of the loop from entry `i` on, in the order of the requests. A fault comes after the
read request of its round. -/
def requestIds (bytes : Bytes) (exchanges : Nat → Exchange) :
    Nat → Nat → Nat → SmsRuntime → List Nat
  | 0, _, _, _ => []
  | remaining + 1, i, transactionId, s =>
      match retrieveRound (qmuxInstanceId bytes) transactionId (listedMessageId bytes i)
        (exchanges i) s with
      | .error _ => if 0 < (exchanges i).readWrite then [transactionId] else []
      | .ok round =>
          round.requestIds ++
            requestIds bytes exchanges remaining (i + 1) round.nextTransactionId round.after

/-- The ids of one run of `retrieve_and_delete`. -/
def transactionIds (exchanges : Nat → Exchange) (s : StuckRuntime) : List Nat :=
  match s.stuckMessageData with
  | none => []
  | some bytes => requestIds bytes exchanges (numberOfMessagesListed bytes) 0 1 s.runtime

/-- The message of the round has been read back, so that its deletion is requested. -/
def Round.ReadBack (round : Round) : Prop := ∃ m h out, Answered round.exchange m h out

/-- In these rounds, which begin at entry `i` of a list with `remaining` more, no deletion that is
written for a message is followed by a read request that is written for the next. -/
def NoRequestAfterDeletion (exchanges : Nat → Exchange) (remaining i : Nat) (rounds : List Round) :
    Prop :=
  ∀ j round, rounds[j]? = some round → round.ReadBack → 0 < round.exchange.deleteWrite →
    j + 1 < remaining → ¬ 0 < (exchanges (i + j + 1)).readWrite

/-- The list of stuck messages has at most this many. -/
def ListsAtMost (n : Nat) (s : StuckRuntime) : Prop :=
  ∀ bytes, s.stuckMessageData = some bytes → numberOfMessagesListed bytes ≤ n

/-- No deletion that is written for a message of the list is followed by a read request that is
written for the next. -/
def DeletionsComeLast (exchanges : Nat → Exchange) (s : StuckRuntime) : Prop :=
  ∀ bytes, s.stuckMessageData = some bytes →
    NoRequestAfterDeletion exchanges (numberOfMessagesListed bytes) 0
      (retrieveAndDelete exchanges s).1

/-! ## One round -/

variable {exchange : Exchange} {s : SmsRuntime} {round : Round}
  {instanceId transactionId messageId : Nat}

/-- The ids of a round, and the one with which the next begins. -/
theorem round_request_ids
    (h : retrieveRound instanceId transactionId messageId exchange s = .ok round) :
    (¬ round.ReadBack ∧ round.nextTransactionId = (transactionId + 2) % 65536 ∧
        round.requestIds = if 0 < exchange.readWrite then [transactionId] else []) ∨
      (round.ReadBack ∧ round.nextTransactionId = (transactionId + 1) % 65536 ∧
        round.requestIds = (if 0 < exchange.readWrite then [transactionId] else []) ++
          if 0 < exchange.deleteWrite then [(transactionId + 1) % 65536] else []) := by
  obtain ⟨⟨result, next, events⟩, hread, rfl⟩ := of_map_ok h
  obtain ⟨hresult, rfl, hnone⟩ | ⟨rfl, m, hlen, out, placed, hanswered, rfl, hforward⟩ :=
    request_read_cases hread
  · dsimp only
    rw [if_neg hresult]
    refine .inl ⟨fun ⟨m, hlen, out, hanswered⟩ => hnone m hlen out hanswered, rfl, ?_⟩
    simp only [Round.requestIds, List.filterMap_cons, List.filterMap_nil, Exchange.requestId]
    split_ifs <;> rfl
  · dsimp only
    rw [if_pos rfl, request_message_delete_events]
    refine .inr ⟨⟨m, hlen, out, hanswered⟩, rfl, ?_⟩
    have hplaced : placed.filterMap exchange.requestId = [] := by
      rw [List.filterMap_eq_nil_iff]
      intro event hevent
      have hnone := request_not_forwarded hforward
      cases event with
      | readRequest instanceId id messageId => exact absurd hevent (hnone _ _ _).1
      | deleteRequest instanceId id messageId => exact absurd hevent (hnone _ _ _).2
      | _ => rfl
    simp only [Round.requestIds, List.cons_append, List.filterMap_cons, List.filterMap_append,
      List.filterMap_nil, hplaced, Exchange.requestId]
    split_ifs <;> rfl

theorem mem_if_singleton {c : Prop} [Decidable c] {a b : Nat} :
    a ∈ (if c then [b] else []) ↔ c ∧ a = b := by
  split_ifs with hc
  · simp [hc]
  · simp [hc]

/-- The counter is advanced, and the read request has its value from before. -/
theorem round_ids_range (hbound : transactionId + 2 < 65536)
    (h : retrieveRound instanceId transactionId messageId exchange s = .ok round) :
    (∀ id ∈ round.requestIds, transactionId ≤ id) ∧
      (transactionId ∈ round.requestIds ↔ 0 < exchange.readWrite) ∧
      transactionId < round.nextTransactionId ∧ round.nextTransactionId ≤ transactionId + 2 := by
  have hnext : (transactionId + 1) % 65536 = transactionId + 1 := Nat.mod_eq_of_lt (by omega)
  have hskip : (transactionId + 2) % 65536 = transactionId + 2 := Nat.mod_eq_of_lt hbound
  obtain ⟨-, hcounter, hids⟩ | ⟨-, hcounter, hids⟩ := round_request_ids h
  · rw [hids, hcounter, hskip]
    simp only [mem_if_singleton]
    refine ⟨?_, by simp, by omega, by omega⟩
    rintro id ⟨-, rfl⟩
    exact Nat.le_refl _
  · rw [hids, hcounter, hnext]
    simp only [List.mem_append, mem_if_singleton]
    refine ⟨?_, by simp, by omega, by omega⟩
    rintro id (⟨-, rfl⟩ | ⟨-, rfl⟩)
    · exact Nat.le_refl _
    · exact Nat.le_succ _

/-! ## The loop -/

variable {bytes : Bytes} {exchanges : Nat → Exchange}

/-- The loop goes on from a round that has not faulted. -/
theorem retrieve_loop_cons {i : Nat} (remaining : Nat)
    (h : retrieveRound (qmuxInstanceId bytes) transactionId (listedMessageId bytes i)
      (exchanges i) s = .ok round) :
    (retrieveLoop bytes exchanges (remaining + 1) i transactionId s).1 =
        round :: (retrieveLoop bytes exchanges remaining (i + 1) round.nextTransactionId
          round.after).1 ∧
      requestIds bytes exchanges (remaining + 1) i transactionId s =
        round.requestIds ++ requestIds bytes exchanges remaining (i + 1) round.nextTransactionId
          round.after := by
  rw [retrieveLoop, requestIds, h]
  exact ⟨rfl, rfl⟩

/-- The counter does not go back: every id is at least the first one, and that one is only used by
the first read request. -/
theorem request_ids_range {remaining i : Nat} (hbound : transactionId + 2 * remaining < 65536) :
    (∀ id ∈ requestIds bytes exchanges remaining i transactionId s, transactionId ≤ id) ∧
      (transactionId ∈ requestIds bytes exchanges remaining i transactionId s ↔
        0 < remaining ∧ 0 < (exchanges i).readWrite) := by
  induction remaining generalizing i transactionId s with
  | zero => simp [requestIds]
  | succ remaining ih =>
      cases hround : retrieveRound (qmuxInstanceId bytes) transactionId (listedMessageId bytes i)
          (exchanges i) s with
      | error fault =>
          rw [requestIds, hround]
          split_ifs with hwritten
          · simp [hwritten]
          · simp [hwritten]
      | ok round =>
          obtain ⟨hown, hfirst, hlow, hhigh⟩ := round_ids_range (by omega) hround
          have hbound : round.nextTransactionId + 2 * remaining < 65536 := by omega
          have hrest : ∀ id ∈ requestIds bytes exchanges remaining (i + 1) round.nextTransactionId
              round.after, round.nextTransactionId ≤ id := (ih hbound).1
          rw [(retrieve_loop_cons remaining hround).2]
          constructor
          · intro id hid
            obtain hid | hid := List.mem_append.1 hid
            · exact hown id hid
            · exact Nat.le_trans (Nat.le_of_lt hlow) (hrest id hid)
          · rw [List.mem_append, hfirst]
            refine ⟨fun hmem => ⟨Nat.succ_pos _, ?_⟩, fun hmem => .inl hmem.2⟩
            obtain hwritten | hlater := hmem
            · exact hwritten
            · exact absurd (hrest _ hlater) (by omega)

/-- What is asked of the first round and of those after it. -/
theorem no_request_after_deletion_cons {remaining i : Nat} {rounds : List Round} :
    NoRequestAfterDeletion exchanges (remaining + 1) i (round :: rounds) ↔
      (round.ReadBack → 0 < round.exchange.deleteWrite → 0 < remaining →
        ¬ 0 < (exchanges (i + 1)).readWrite) ∧
      NoRequestAfterDeletion exchanges remaining (i + 1) rounds := by
  constructor
  · intro h
    refine ⟨fun hread hdelete hremaining => h 0 round rfl hread hdelete (by omega),
      fun j other hother hread hdelete hlt => ?_⟩
    have hlater := h (j + 1) other hother hread hdelete (by omega)
    rwa [← Nat.add_assoc, Nat.add_right_comm i j 1] at hlater
  · rintro ⟨hfirst, hrest⟩ j other hother hread hdelete hlt
    cases j with
    | zero =>
        cases hother
        exact hfirst hread hdelete (by omega)
    | succ j =>
        have hlater := hrest j other hother hread hdelete (by omega)
        rwa [Nat.add_right_comm i 1 j] at hlater

/-- Some requests, of ids `first` and `first + 1` if they are written, before others with larger
ids than `first`. -/
theorem nodup_append_requests {first : Nat} (read delete : Prop) [Decidable read]
    [Decidable delete] {rest : List Nat} (hrest : ∀ id ∈ rest, first < id) :
    ((if read then [first] else []) ++ (if delete then [first + 1] else []) ++ rest).Nodup ↔
      (delete → first + 1 ∉ rest) ∧ rest.Nodup := by
  have hfirst : first ∉ rest := fun hmem => Nat.lt_irrefl first (hrest first hmem)
  split_ifs with hread hdelete hdelete
  · simp [hfirst, hdelete]
  · simp [hfirst, hdelete]
  · simp [hdelete]
  · simp [hdelete]

/-- The ids are distinct exactly if no deletion is followed by a read request. -/
theorem request_ids_nodup_iff {remaining i : Nat}
    (hbound : transactionId + 2 * remaining < 65536) :
    (requestIds bytes exchanges remaining i transactionId s).Nodup ↔
      NoRequestAfterDeletion exchanges remaining i
        (retrieveLoop bytes exchanges remaining i transactionId s).1 := by
  induction remaining generalizing i transactionId s with
  | zero =>
      refine iff_of_true List.nodup_nil ?_
      intro _ _ h
      cases h
  | succ remaining ih =>
      cases hround : retrieveRound (qmuxInstanceId bytes) transactionId (listedMessageId bytes i)
          (exchanges i) s with
      | error fault =>
          rw [requestIds, retrieveLoop, hround]
          refine iff_of_true ?_ ?_
          · split_ifs
            · exact List.nodup_singleton _
            · exact List.nodup_nil
          · intro _ _ h
            cases h
      | ok round =>
          obtain ⟨hrounds, hids⟩ := retrieve_loop_cons remaining hround
          obtain ⟨⟨-, -, hexchange⟩, -⟩ := retrieve_round_cases hround
          obtain ⟨-, -, hlow, hhigh⟩ := round_ids_range (by omega) hround
          have hbound : round.nextTransactionId + 2 * remaining < 65536 := by omega
          have hrange : (∀ id ∈ requestIds bytes exchanges remaining (i + 1)
              round.nextTransactionId round.after, round.nextTransactionId ≤ id) ∧ _ :=
            request_ids_range hbound
          obtain ⟨hrest, hnext⟩ := hrange
          have hlater := fun id hid => Nat.lt_of_lt_of_le hlow (hrest id hid)
          rw [hrounds, hids, no_request_after_deletion_cons, hexchange,
            ← ih hbound]
          obtain ⟨hread, hcounter, hown⟩ | ⟨hread, hcounter, hown⟩ := round_request_ids hround
          · have hnone := nodup_append_requests (0 < (exchanges i).readWrite) False hlater
            rw [hown]
            simpa [hread] using hnone
          · have hone : (transactionId + 1) % 65536 = transactionId + 1 :=
              Nat.mod_eq_of_lt (by omega)
            rw [hone] at hcounter hown
            rw [hown, nodup_append_requests _ _ hlater, ← hcounter, hnext]
            simp [hread]

/-- Up to a list of 2^14 messages, the transaction ids of a run are distinct exactly if no message
that has been read back, and for which a deletion is written, is followed in the list by one for
which a read request is written. -/
theorem transaction_ids_distinct_iff (exchanges : Nat → Exchange) (s : StuckRuntime)
    (h : ListsAtMost (2 ^ 14) s) :
    (transactionIds exchanges s).Nodup ↔ DeletionsComeLast exchanges s := by
  unfold transactionIds DeletionsComeLast retrieveAndDelete
  cases hdata : s.stuckMessageData with
  | none => exact iff_of_true List.nodup_nil nofun
  | some bytes =>
      have hcount := h bytes hdata
      simp only [Option.some.injEq, forall_eq']
      exact request_ids_nodup_iff (by omega)

/-- A list of two messages, with the ids 3 and 5. -/
def twoListed : Bytes :=
  ofList ([0x01, 0x00, 0x00, 0x80, 0x05, 0x01] ++ List.replicate 17 0 ++
    [0x02, 0x00, 0x00, 0x00, 0x03, 0x00, 0x00, 0x00, 0x01, 0x05, 0x00, 0x00, 0x00, 0x01])

/-- The first message is not answered, the second one is a text of two characters. -/
def secondAnswered (i : Nat) : Exchange :=
  if i = 0 then ⟨24, .nothing, 28, .nothing⟩
  else answeredWith (deliverFrom 0x00 2 [0xC8, 0x34])

/-- The ids of the requests are 1, 3 and 4. -/
theorem second_answered_distinct :
    ListsAtMost (2 ^ 14) ⟨start, some twoListed, true⟩ ∧
      DeletionsComeLast secondAnswered ⟨start, some twoListed, true⟩ := by
  have hlists : ListsAtMost (2 ^ 14) ⟨start, some twoListed, true⟩ := by
    rintro bytes hbytes
    cases hbytes
    decide
  refine ⟨hlists, (transaction_ids_distinct_iff _ _ hlists).1 ?_⟩
  have hids : transactionIds secondAnswered ⟨start, some twoListed, true⟩ = [1, 3, 4] := by
    decide +kernel
  rw [hids]
  decide

/-- Two messages are read back, and the second one is requested under the id of the deletion of the
first. -/
theorem deletion_id_reused :
    ¬ ∀ exchanges s, ListsAtMost (2 ^ 14) s → (transactionIds exchanges s).Nodup := by
  intro h
  have hdistinct := h (fun _ => answeredWith (deliverFrom 0x00 2 [0xC8, 0x34]))
    ⟨start, some twoListed, true⟩ (by rintro bytes hbytes; cases hbytes; decide)
  have hids : transactionIds (fun _ => answeredWith (deliverFrom 0x00 2 [0xC8, 0x34]))
      ⟨start, some twoListed, true⟩ = [1, 2, 2, 3] := by decide +kernel
  rw [hids] at hdistinct
  exact absurd hdistinct (by decide)

end OpenQti.Sms.Recovery
