import Mathlib.Data.List.Basic
import OpenQti.Sms.Steps

/-!
# Bounded retries without a host

Runs in which messages are added and the worker is called, and no packet of the host
arrives. `History` keeps, beside the runtime, what an observer of the wire sees: the
announcements, each with the number of times the queue had been wiped before, so that a
message is known by this number and its index. The worker goes through the queue with one
message at a time: those before it are done, each after four announcements, and those after
it are new. `Progress` is this invariant, and `retries_bounded` collects what follows.
-/

namespace OpenQti.Sms

open SmsRuntime Machine

/-! ## Announcements -/

/-- A notification as an observer records it: the number of wipes before it, the index of the
message, and the reading of the clock that follows it. -/
structure Announcement where
  epoch : Nat
  index : Nat
  time : Int

/-- What has been observed so far, the latest announcement first. -/
structure History where
  epoch : Nat
  announcements : List Announcement

/-- Nothing has been observed. -/
def History.empty : History := ⟨0, []⟩

/-- The announcements of one message. -/
def History.of (h : History) (epoch index : Nat) : List Announcement :=
  h.announcements.filter fun a => a.epoch = epoch ∧ a.index = index

/-- The index announced by a packet. -/
def announcedIndex : HostPacket × Int → Option Nat
  | (.eventReport i, _) => some i
  | _ => none

/-- The packets that the step from `s` to `next` wrote. -/
def newPackets (s next : SmsRuntime) : List (HostPacket × Int) :=
  next.wire.take (next.wire.length - s.wire.length)

/-- Observe a step: the notifications among its packets, and whether it shortened the queue. -/
def History.record (env : Env) (s next : SmsRuntime) (h : History) : History where
  epoch := if next.queuePos < s.queuePos then h.epoch + 1 else h.epoch
  announcements :=
    ((newPackets s next).filterMap announcedIndex).map
      (fun i => ⟨h.epoch, i, env.clock (next.clockReads - 1)⟩) ++ h.announcements

/-- A step of the runtime together with its observer. -/
def observedStep (env : Env) (state : SmsRuntime × History) (op : Op) :
    Except Fault (SmsRuntime × History) :=
  match step env state.1 op with
  | .ok next => .ok (next, state.2.record env state.1 next)
  | .error fault => .error fault

/-- No host: messages of 1 to 160 bytes are added, and the worker is called. -/
def Unattended : Op → Prop
  | .addSms message => 1 ≤ message.length ∧ message.length ≤ maxMessageSize
  | .addRawSms message _ _ => 1 ≤ message.length ∧ message.length ≤ maxMessageSize
  | .processMessageQueue => True
  | _ => False

/-- One announcement is not after another: fewer wipes before it, or the same number of them and
no larger an index. -/
def Announcement.NotAfter (a b : Announcement) : Prop :=
  a.epoch < b.epoch ∨ a.epoch = b.epoch ∧ a.index ≤ b.index

variable {env : Env} {s u next : SmsRuntime} {h : History} {op : Op} {k : Nat}

theorem observed_step_ok {state after : SmsRuntime × History}
    (hstep : observedStep env state op = .ok after) :
    step env state.1 op = .ok after.1 ∧ after.2 = state.2.record env state.1 after.1 := by
  unfold observedStep at hstep
  cases hnext : step env state.1 op with
  | error fault =>
      rw [hnext] at hstep
      cases hstep
  | ok next =>
      rw [hnext] at hstep
      cases hstep
      exact ⟨rfl, rfl⟩

theorem announcements_quiet (hwire : next.wire = s.wire) :
    (h.record env s next).announcements = h.announcements := by
  simp [History.record, newPackets, hwire]

theorem announcements_announce {result : Int} (hwire : next.wire = (.eventReport k, result) :: s.wire) :
    (h.record env s next).announcements =
      ⟨h.epoch, k, env.clock (next.clockReads - 1)⟩ :: h.announcements := by
  simp [History.record, newPackets, hwire, announcedIndex]

theorem epoch_kept (hpos : s.queuePos ≤ next.queuePos) : (h.record env s next).epoch = h.epoch :=
  if_neg (not_lt.2 hpos)

theorem epoch_wiped (hpos : next.queuePos < s.queuePos) :
    (h.record env s next).epoch = h.epoch + 1 :=
  if_pos hpos

theorem of_quiet (hwire : next.wire = s.wire) (epoch index : Nat) :
    (h.record env s next).of epoch index = h.of epoch index := by
  simp only [History.of, announcements_quiet hwire]

theorem of_announce {result : Int} (hwire : next.wire = (.eventReport k, result) :: s.wire)
    (epoch index : Nat) :
    (h.record env s next).of epoch index =
      if h.epoch = epoch ∧ k = index then
        ⟨h.epoch, k, env.clock (next.clockReads - 1)⟩ :: h.of epoch index
      else h.of epoch index := by
  simp only [History.of, announcements_announce hwire, List.filter_cons, decide_eq_true_eq]

/-! ## The invariant -/

/-- The states and retries of all messages but `k` are kept. -/
def OthersKept (s next : SmsRuntime) (k : Nat) : Prop :=
  ∀ j, j ≠ k → (next.msg j).state = (s.msg j).state ∧ (next.msg j).retries = (s.msg j).retries

/-- The worker is at message `k`: the messages before it are done after four announcements, those
after it are new, and the number of its own announcements is given by its retries and its state. -/
structure Progress (env : Env) (s : SmsRuntime) (h : History) (k : Nat) : Prop where
  well : WellFormed s
  unlocked : s.lockQueue = false
  position : (k : Int) ≤ s.queuePos + 1
  done : ∀ j < k, (s.msg j).state = 9 ∧ (h.of h.epoch j).length = 4
  current : (s.msg k).state ≤ 1 ∧ (s.msg k).retries ≤ 3 ∧
    (h.of h.epoch k).length = (s.msg k).retries + (s.msg k).state
  free : ¬ Queued s k → (s.msg k).state = 0 ∧ (s.msg k).retries = 0
  later : ∀ j, k < j →
    (s.msg j).state = 0 ∧ (s.msg j).retries = 0 ∧ (h.of h.epoch j).length = 0
  past : ∀ epoch index, (h.of epoch index).length ≤ 4
  future : ∀ epoch index, h.epoch < epoch → (h.of epoch index).length = 0
  ordered : h.announcements.Pairwise fun a b => b.NotAfter a
  before : ∀ a ∈ h.announcements, a.NotAfter ⟨h.epoch, k, 0⟩
  waiting : (s.msg k).state = 1 → ∃ a earlier, h.of h.epoch k = a :: earlier ∧
    a.time = (s.msg k).timestamp ∧ ∃ n < s.clockReads, (s.msg k).timestamp = env.clock n

theorem progress_start (env : Env) : Progress env start .empty 0 where
  well := well_formed_start
  unlocked := rfl
  position := by decide
  done j hj := absurd hj (Nat.not_lt_zero j)
  current := ⟨Nat.zero_le _, Nat.zero_le _, rfl⟩
  free _ := ⟨rfl, rfl⟩
  later _ _ := ⟨rfl, rfl, rfl⟩
  past _ _ := Nat.zero_le _
  future _ _ _ := rfl
  ordered := .nil
  before _ ha := absurd ha (List.not_mem_nil)
  waiting hstate := absurd hstate (by decide)

/-- A step that writes nothing, changes no state and no retries, and keeps the timestamp of a
message that waits. -/
theorem Progress.quiet (hp : Progress env s h k) (hwell : WellFormed next)
    (hlock : next.lockQueue = s.lockQueue) (hpos : s.queuePos ≤ next.queuePos)
    (hwire : next.wire = s.wire)
    (hsame : ∀ j, (next.msg j).state = (s.msg j).state ∧ (next.msg j).retries = (s.msg j).retries)
    (htime : (s.msg k).state = 1 → (next.msg k).timestamp = (s.msg k).timestamp)
    (hreads : s.clockReads ≤ next.clockReads) : Progress env next (h.record env s next) k where
  well := hwell
  unlocked := hlock.trans hp.unlocked
  position := hp.position.trans (by omega)
  done j hj := by
    rw [epoch_kept hpos, of_quiet hwire, (hsame j).1]
    exact hp.done j hj
  current := by
    rw [epoch_kept hpos, of_quiet hwire, (hsame k).1, (hsame k).2]
    exact hp.current
  free hfree := by
    rw [(hsame k).1, (hsame k).2]
    exact hp.free fun hqueued => hfree (le_trans hqueued hpos)
  later j hj := by
    rw [epoch_kept hpos, of_quiet hwire, (hsame j).1, (hsame j).2]
    exact hp.later j hj
  past epoch index := by
    rw [of_quiet hwire]
    exact hp.past epoch index
  future epoch index hepoch := by
    rw [of_quiet hwire]
    exact hp.future epoch index (epoch_kept hpos ▸ hepoch)
  ordered := by
    rw [announcements_quiet hwire]
    exact hp.ordered
  before a ha := by
    rw [epoch_kept hpos]
    exact hp.before a (announcements_quiet hwire ▸ ha)
  waiting hstate := by
    rw [(hsame k).1] at hstate
    obtain ⟨a, earlier, hof, hat, n, hn, hclock⟩ := hp.waiting hstate
    rw [epoch_kept hpos, of_quiet hwire, htime hstate]
    exact ⟨a, earlier, hof, hat, n, hn.trans_le hreads, hclock⟩

/-- The message at which the worker is, new or due for another try, is announced. -/
theorem Progress.announce (hp : Progress env s h k) (hwell : WellFormed next)
    (hlock : next.lockQueue = s.lockQueue) (hpos : next.queuePos = s.queuePos)
    (hqueued : Queued s k) (hnew : (s.msg k).state = 0) {result : Int}
    (hwire : next.wire = (.eventReport k, result) :: s.wire) (hothers : OthersKept s next k)
    (hstate : (next.msg k).state = 1) (hretries : (next.msg k).retries = (s.msg k).retries)
    (hreads : 0 < next.clockReads)
    (htime : (next.msg k).timestamp = env.clock (next.clockReads - 1)) :
    Progress env next (h.record env s next) k := by
  obtain ⟨-, hfew, hcount⟩ := hp.current
  have hepoch : (h.record env s next).epoch = h.epoch := epoch_kept hpos.ge
  -- only the list of message `k` in this epoch grows
  have hof : (h.record env s next).of h.epoch k =
      ⟨h.epoch, k, env.clock (next.clockReads - 1)⟩ :: h.of h.epoch k := by
    rw [of_announce hwire, if_pos ⟨rfl, rfl⟩]
  have helse : ∀ epoch index, ¬ (h.epoch = epoch ∧ k = index) →
      (h.record env s next).of epoch index = h.of epoch index := by
    intro epoch index hother
    rw [of_announce hwire, if_neg hother]
  refine
    { well := hwell
      unlocked := hlock.trans hp.unlocked
      position := hpos ▸ hp.position
      done := fun j hj => ?_
      current := ?_
      free := fun hfree => absurd (hpos.symm ▸ hqueued : (k : Int) ≤ next.queuePos) hfree
      later := fun j hj => ?_
      past := fun epoch index => ?_
      future := fun epoch index hlater => ?_
      ordered := ?_
      before := fun a ha => ?_
      waiting := fun _ => ?_ }
  · rw [hepoch, helse _ _ (by omega), (hothers j (by omega)).1]
    exact hp.done j hj
  · rw [hepoch, hof, hstate, hretries, List.length_cons]
    omega
  · rw [hepoch, helse _ _ (by omega), (hothers j (by omega)).1, (hothers j (by omega)).2]
    exact hp.later j hj
  · by_cases hthis : h.epoch = epoch ∧ k = index
    · obtain ⟨rfl, rfl⟩ := hthis
      rw [hof, List.length_cons]
      omega
    · rw [helse _ _ hthis]
      exact hp.past epoch index
  · rw [hepoch] at hlater
    rw [helse _ _ (by omega)]
    exact hp.future epoch index hlater
  · rw [announcements_announce hwire]
    exact .cons hp.before hp.ordered
  · rw [announcements_announce hwire] at ha
    rw [hepoch]
    obtain rfl | ha := List.mem_cons.1 ha
    · exact .inr ⟨rfl, le_rfl⟩
    · exact hp.before a ha
  · rw [hepoch, hof, htime]
    exact ⟨_, _, rfl, rfl, next.clockReads - 1, by omega, rfl⟩

/-- The message has waited in vain and is due for another try. -/
theorem Progress.retry (hp : Progress env s h k) (hwell : WellFormed next)
    (hlock : next.lockQueue = s.lockQueue) (hpos : next.queuePos = s.queuePos)
    (hqueued : Queued s k) (hwaits : (s.msg k).state = 1) (hfew : (s.msg k).retries < 3)
    (hwire : next.wire = s.wire) (hothers : OthersKept s next k)
    (hstate : (next.msg k).state = 0) (hretries : (next.msg k).retries = (s.msg k).retries + 1) :
    Progress env next (h.record env s next) k := by
  obtain ⟨-, -, hcount⟩ := hp.current
  have hepoch : (h.record env s next).epoch = h.epoch := epoch_kept hpos.ge
  have hquiet : ∀ epoch index, (h.record env s next).of epoch index = h.of epoch index :=
    of_quiet hwire
  have hannounced : (h.record env s next).announcements = h.announcements :=
    announcements_quiet hwire
  refine
    { well := hwell
      unlocked := hlock.trans hp.unlocked
      position := hpos ▸ hp.position
      done := fun j hj => ?_
      current := ?_
      free := fun hfree => absurd (hpos.symm ▸ hqueued : (k : Int) ≤ next.queuePos) hfree
      later := fun j hj => ?_
      past := fun epoch index => (hquiet epoch index).symm ▸ hp.past epoch index
      future := fun epoch index hlater =>
        (hquiet epoch index).symm ▸ hp.future epoch index (hepoch ▸ hlater)
      ordered := hannounced.symm ▸ hp.ordered
      before := fun a ha => hepoch.symm ▸ hp.before a (hannounced ▸ ha)
      waiting := fun hone => by omega }
  · rw [hepoch, of_quiet hwire, (hothers j (by omega)).1]
    exact hp.done j hj
  · rw [hepoch, of_quiet hwire, hstate, hretries]
    omega
  · rw [hepoch, of_quiet hwire, (hothers j (by omega)).1, (hothers j (by omega)).2]
    exact hp.later j hj

/-- The message has waited in vain for the fourth time, and the worker goes on to the next one. -/
theorem Progress.giveUp (hp : Progress env s h k) (hwell : WellFormed next)
    (hlock : next.lockQueue = s.lockQueue) (hpos : next.queuePos = s.queuePos)
    (hqueued : Queued s k) (hwaits : (s.msg k).state = 1) (hmany : 3 ≤ (s.msg k).retries)
    (hwire : next.wire = s.wire) (hothers : OthersKept s next k)
    (hstate : (next.msg k).state = 9) : Progress env next (h.record env s next) (k + 1) := by
  obtain ⟨-, hfew, hcount⟩ := hp.current
  have hepoch : (h.record env s next).epoch = h.epoch := epoch_kept hpos.ge
  obtain ⟨hnextState, hnextRetries, hnextCount⟩ := hp.later (k + 1) (Nat.lt_succ_self k)
  have hnext := hothers (k + 1) (by omega)
  have hquiet : ∀ epoch index, (h.record env s next).of epoch index = h.of epoch index :=
    of_quiet hwire
  have hannounced : (h.record env s next).announcements = h.announcements :=
    announcements_quiet hwire
  refine
    { well := hwell
      unlocked := hlock.trans hp.unlocked
      position := by rw [hpos]; unfold Queued at hqueued; omega
      done := fun j hj => ?_
      current := ?_
      free := fun _ => ⟨hnext.1.trans hnextState, hnext.2.trans hnextRetries⟩
      later := fun j hj => ?_
      past := fun epoch index => (hquiet epoch index).symm ▸ hp.past epoch index
      future := fun epoch index hlater =>
        (hquiet epoch index).symm ▸ hp.future epoch index (hepoch ▸ hlater)
      ordered := hannounced.symm ▸ hp.ordered
      before := fun a ha => ?_
      waiting := fun hone => by omega }
  · rw [hepoch, of_quiet hwire]
    by_cases hjk : j = k
    · subst hjk
      exact ⟨hstate, by omega⟩
    · rw [(hothers j hjk).1]
      exact hp.done j (by omega)
  · rw [hepoch, of_quiet hwire, hnext.1, hnext.2]
    omega
  · rw [hepoch, of_quiet hwire, (hothers j (by omega)).1, (hothers j (by omega)).2]
    exact hp.later j (by omega)
  · rw [hepoch]
    obtain hearlier | ⟨hsame, hle⟩ := hp.before a (hannounced ▸ ha)
    · exact .inl hearlier
    · exact .inr ⟨hsame, hle.trans (Nat.le_succ k)⟩

/-- All messages are done and the queue is wiped: a new epoch begins at message 0. -/
theorem Progress.wipe (hp : Progress env s h k) (hwell : WellFormed next)
    (hlock : next.lockQueue = s.lockQueue) (hqueue : 0 ≤ s.queuePos) (hpos : next.queuePos = -1)
    (hwire : next.wire = s.wire)
    (hnew : ∀ j, (next.msg j).state = 0 ∧ (next.msg j).retries = 0) :
    Progress env next (h.record env s next) 0 := by
  have hepoch : (h.record env s next).epoch = h.epoch + 1 := epoch_wiped (by omega)
  have hnone : ∀ index, (h.of (h.epoch + 1) index).length = 0 :=
    fun index => hp.future _ index (Nat.lt_succ_self _)
  have hquiet : ∀ epoch index, (h.record env s next).of epoch index = h.of epoch index :=
    of_quiet hwire
  have hannounced : (h.record env s next).announcements = h.announcements :=
    announcements_quiet hwire
  refine
    { well := hwell
      unlocked := hlock.trans hp.unlocked
      position := by rw [hpos]; decide
      done := fun j hj => absurd hj (Nat.not_lt_zero j)
      current := ?_
      free := fun _ => hnew 0
      later := fun j _ => ?_
      past := fun epoch index => (hquiet epoch index).symm ▸ hp.past epoch index
      future := fun epoch index hlater => ?_
      ordered := hannounced.symm ▸ hp.ordered
      before := fun a ha => ?_
      waiting := fun hone => by rw [(hnew 0).1] at hone; omega }
  · rw [hepoch, of_quiet hwire, hnone, (hnew 0).1, (hnew 0).2]
    omega
  · rw [hepoch, of_quiet hwire, hnone]
    exact ⟨(hnew j).1, (hnew j).2, rfl⟩
  · rw [hepoch] at hlater
    rw [of_quiet hwire]
    exact hp.future epoch index (by omega)
  · rw [hepoch]
    obtain hearlier | ⟨hsame, -⟩ := hp.before a (hannounced ▸ ha)
    · exact .inl (Nat.lt_succ_of_lt hearlier)
    · exact .inl (Nat.lt_succ_of_le hsame.le)

/-! ## One step -/

/-- What a call of the worker does when it is at message `k`. -/
inductive Turn (env : Env) (s next : SmsRuntime) (k : Nat) : Prop where
  | rest : s.queuePos < 0 ∨ Queued s k → next.queuePos = s.queuePos → next.wire = s.wire →
      OthersKept s next k → (next.msg k).state = (s.msg k).state →
      (next.msg k).retries = (s.msg k).retries →
      ((s.msg k).state = 1 → (next.msg k).timestamp = (s.msg k).timestamp) →
      s.clockReads ≤ next.clockReads → Turn env s next k
  | announce (result : Int) : Queued s k → next.queuePos = s.queuePos →
      next.wire = (.eventReport k, result) :: s.wire → OthersKept s next k →
      (s.msg k).state = 0 → (next.msg k).state = 1 →
      (next.msg k).retries = (s.msg k).retries → 0 < next.clockReads →
      (next.msg k).timestamp = env.clock (next.clockReads - 1) → Turn env s next k
  | retry : Queued s k → next.queuePos = s.queuePos → next.wire = s.wire →
      OthersKept s next k → (s.msg k).state = 1 → (s.msg k).retries < 3 →
      (next.msg k).state = 0 → (next.msg k).retries = (s.msg k).retries + 1 → Turn env s next k
  | giveUp : Queued s k → next.queuePos = s.queuePos → next.wire = s.wire →
      OthersKept s next k → (s.msg k).state = 1 → 3 ≤ (s.msg k).retries →
      s.now env - (s.msg k).timestamp > fiveSeconds → (next.msg k).state = 9 → Turn env s next k
  | wipe : 0 ≤ s.queuePos → (∀ j : Nat, Queued s j → (s.msg j).state = 9) →
      next.queuePos = -1 → next.notifPending = false → next.wire = s.wire →
      (∀ j, (next.msg j).state = 0 ∧ (next.msg j).retries = 0) → Turn env s next k

/-- A refreshed runtime keeps the timestamp of a message that waits, as the clock does not go
back. -/
theorem Progress.refreshed_time (hp : Progress env s h k) (hclock : env.MonotonicClock)
    (hu : Refreshed (s.now env) s.tick u) (hwaits : (s.msg k).state = 1) :
    (u.msg k).timestamp = (s.msg k).timestamp := by
  obtain ⟨a, earlier, -, -, n, hn, htime⟩ := hp.waiting hwaits
  refine hu.past k ?_
  rw [show (s.tick.msg k).timestamp = env.clock n from htime]
  exact hclock hn.le

theorem Refreshed.others_kept (hu : Refreshed (s.now env) s.tick u) (hmsg : ∀ j, j ≠ k →
    next.msg j = u.msg j) : OthersKept s next k := by
  intro j hj
  rw [hmsg j hj, hu.entry j]
  exact ⟨rfl, rfl⟩

/-- The worker's call, with message `k` served. -/
theorem Progress.serve_turn (hp : Progress env s h k) (hclock : env.MonotonicClock)
    (hu : Refreshed (s.now env) s.tick u) (hqueued : Queued s k) :
    Turn env s (serve env (s.now env - (s.msg k).timestamp) k u) k := by
  have hidle := hu.idle
  have hstate : (u.msg k).state = (s.msg k).state := hu.state k
  have hretries : (u.msg k).retries = (s.msg k).retries := by
    rw [hu.entry k]
    rfl
  have hreads : s.clockReads ≤ u.clockReads := (Nat.le_succ _).trans hu.reads
  obtain hnew | hwaits : (s.msg k).state = 0 ∨ (s.msg k).state = 1 := by
    have := hp.current.1
    omega
  · rw [serve_new hu hp.well hqueued hnew, announce_eq]
    refine .announce (env.write u.wire.length) hqueued hidle.queuePos (by simp [hidle.wire])
      (hu.others_kept fun j hj => Function.update_of_ne hj ..) hnew ?_ ?_ ?_ ?_
    · simp
    · simpa using hretries
    · simp
    · simp
  · have heq : serve env (s.now env - (s.msg k).timestamp) k u =
        awaitHost (s.now env - (s.msg k).timestamp) k u := by
      simp only [serve, hstate, hwaits]
    rw [heq]
    obtain ⟨-, hfew, heq⟩ | ⟨helapsed, hmany, heq⟩ | ⟨-, heq⟩ :=
      await_host_cases (s.now env - (s.msg k).timestamp) k u
    · rw [heq]
      refine .retry hqueued hidle.queuePos hidle.wire
        (hu.others_kept fun j hj => Function.update_of_ne hj ..) hwaits (hretries ▸ hfew) ?_ ?_
      · simp [modifyMsg, hstate, hwaits]
      · simp [modifyMsg, hretries]
    · rw [heq]
      refine .giveUp hqueued hidle.queuePos hidle.wire
        (hu.others_kept fun j hj => Function.update_of_ne hj ..) hwaits (hretries ▸ hmany)
        helapsed ?_
      simp [modifyMsg, nextMessageId]
    · rw [heq]
      exact .rest (.inr hqueued) hidle.queuePos hidle.wire (hu.others_kept fun _ _ => rfl) hstate
        hretries (hp.refreshed_time hclock hu) hreads

/-- A call of the worker from a state with the invariant. -/
theorem Progress.process_turn (hp : Progress env s h k) (hclock : env.MonotonicClock)
    (hprocess : processMessageQueue env s = .ok next) : Turn env s next k := by
  have hlive : (s.msg k).state ≤ 4 := by
    have := hp.current.1
    omega
  obtain ⟨hempty, rfl⟩ | ⟨-, i, u, hi, hbefore, hserved, hu, rfl⟩ | ⟨-, hpos, u, hall, hu, hwipe⟩ :=
    process_message_queue_cases hp.well.upper hprocess
  · rw [hp.unlocked] at hempty
    exact .rest (.inl (by simpa using hempty)) rfl rfl (fun _ _ => ⟨rfl, rfl⟩) rfl rfl (fun _ => rfl)
      (Nat.le_succ _)
  · -- the first message that is not done is `k`
    obtain rfl : i = k := by
      obtain hlt | rfl | hgt := Nat.lt_trichotomy i k
      · have := (hp.done i hlt).1
        omega
      · rfl
      · have := hbefore k hgt
        omega
    exact hp.serve_turn hclock hu hi
  · have hidle := hu.idle
    have hdone : ∀ j : Nat, Queued s j → (s.msg j).state = 9 := by
      intro j hj
      have := hall j hj
      have := hp.well.state j
      omega
    -- all queued messages are done and `k` is not, so the worker is behind the last of them
    have hk : (k : Int) = s.queuePos + 1 := by
      by_contra hne
      have := hdone k (by have := hp.position; unfold Queued; omega)
      omega
    rw [wipe_queue_eq hwipe]
    refine .wipe hpos hdone rfl rfl hidle.wire fun j => ?_
    simp only [hidle.queuePos]
    split_ifs with hj
    · exact ⟨rfl, rfl⟩
    · rw [hidle.entry j]
      obtain hkj | rfl : k < j ∨ k = j := by omega
      · exact ⟨(hp.later j hkj).1, (hp.later j hkj).2.1⟩
      · exact hp.free (by unfold Queued; omega)

theorem serve_lock (env : Env) (elapsed : Int) (i : Nat) (s : SmsRuntime) :
    (serve env elapsed i s).lockQueue = s.lockQueue := by
  have hhandle : ∀ (k : Nat) (t : SmsRuntime),
      (handleMessageState env k t).lockQueue = t.lockQueue := by
    intro k t
    obtain ⟨-, -, heq⟩ | ⟨-, -, heq⟩ | ⟨-, -, heq⟩ | heq := handle_message_state_cases env k t
    · rw [heq, announce_eq]
    · rw [heq, send_contents_eq]
    · rw [heq, acknowledge_deletion_eq]
    · rw [heq]
  unfold serve
  split
  · exact hhandle ..
  · exact hhandle ..
  · exact hhandle ..
  · obtain ⟨-, -, heq⟩ | ⟨-, -, heq⟩ | ⟨-, heq⟩ := await_host_cases elapsed i s <;> rw [heq] <;> rfl

theorem process_lock (hsize : s.queuePos < queueSize)
    (hprocess : processMessageQueue env s = .ok next) : next.lockQueue = s.lockQueue := by
  obtain ⟨-, rfl⟩ | ⟨-, i, u, -, -, -, hu, rfl⟩ | ⟨-, -, u, -, hu, hwipe⟩ :=
    process_message_queue_cases hsize hprocess
  · rfl
  · rw [serve_lock, hu.rest]
    rfl
  · rw [wipe_queue_eq hwipe, hu.rest]
    rfl

/-- Without a host, the worker gets on. -/
theorem Progress.process (hp : Progress env s h k) (hclock : env.MonotonicClock)
    (hprocess : processMessageQueue env s = .ok next) :
    ∃ k, Progress env next (h.record env s next) k := by
  have hstep : step env s .processMessageQueue = .ok next := hprocess
  have hwell := hp.well.step hstep
  have hlock := process_lock hp.well.upper hprocess
  cases hp.process_turn hclock hprocess with
  | rest _ hpos hwire hothers hstate hretries htime hreads =>
      refine ⟨k, hp.quiet hwell hlock hpos.ge hwire (fun j => ?_) htime hreads⟩
      -- the states and retries are kept: at `k` by the turn, elsewhere by `hothers`
      by_cases hj : j = k
      · subst hj
        exact ⟨hstate, hretries⟩
      · exact hothers j hj
  | announce result hqueued hpos hwire hothers hnew hstate hretries hreads htime =>
      exact ⟨k, hp.announce hwell hlock hpos hqueued hnew hwire hothers hstate hretries hreads htime⟩
  | retry hqueued hpos hwire hothers hwaits hfew hstate hretries =>
      exact ⟨k, hp.retry hwell hlock hpos hqueued hwaits hfew hwire hothers hstate hretries⟩
  | giveUp hqueued hpos hwire hothers hwaits hmany _ hstate =>
      exact ⟨k + 1, hp.giveUp hwell hlock hpos hqueued hwaits hmany hwire hothers hstate⟩
  | wipe hqueue _ hpos _ hwire hnew => exact ⟨0, hp.wipe hwell hlock hqueue hpos hwire hnew⟩

/-- What an add does to the states: nothing. -/
theorem add_keeps {message : List UInt8} {fields : Message → Message}
    (hop : op.adds = some (message, fields)) (hstep : step env s op = .ok next) :
    s.queuePos ≤ next.queuePos ∧ next.lockQueue = s.lockQueue ∧ next.wire = s.wire ∧
      next.clockReads = s.clockReads ∧
      (∀ j, (next.msg j).state = (s.msg j).state ∧ (next.msg j).retries = (s.msg j).retries) ∧
      ∀ j, Queued s j → next.msg j = s.msg j := by
  rw [step_adds hop] at hstep
  obtain ⟨rfl, -⟩ | ⟨i, hpos, -, -, -, rfl⟩ := add_to_queue_cases hstep
  · exact ⟨le_rfl, rfl, rfl, rfl, fun _ => ⟨rfl, rfl⟩, fun _ _ => rfl⟩
  · refine ⟨by simp only; omega, rfl, rfl, rfl, fun j => ?_, fun j hj => ?_⟩
    · by_cases hj : j = i
      · subst hj
        obtain ⟨-, -, hstate, hretries⟩ := adds_fields hop
          { s.msg j with pkt := copyText message (s.msg j).pkt, messageId := j }
        simp only [Function.update_self]
        exact ⟨hstate, hretries⟩
      · simp [Function.update_of_ne hj]
    · have hji : j ≠ i := by
        unfold Queued at hj
        omega
      simp only [Function.update_of_ne hji]

theorem Unattended.cases (hop : Unattended op) :
    op = .processMessageQueue ∨ ∃ message fields, op.adds = some (message, fields) ∧
      1 ≤ message.length ∧ message.length ≤ maxMessageSize := by
  cases op with
  | addSms message => exact .inr ⟨message, _, rfl, hop⟩
  | addRawSms message tpDcs isCb => exact .inr ⟨message, _, rfl, hop⟩
  | processMessageQueue => exact .inl rfl
  | notifyWmsEvent bytes len => exact hop.elim
  | setQueueLock lock => exact hop.elim

theorem Progress.step (hp : Progress env s h k) (hclock : env.MonotonicClock)
    (hop : Unattended op) (hstep : step env s op = .ok next) :
    ∃ k, Progress env next (h.record env s next) k := by
  obtain rfl | ⟨message, fields, hadds, -⟩ := hop.cases
  · exact hp.process hclock hstep
  · obtain ⟨hpos, hlock, hwire, hreads, hsame, hqueued⟩ := add_keeps hadds hstep
    refine ⟨k, hp.quiet (hp.well.step hstep) hlock hpos hwire hsame (fun hwaits => ?_) hreads.ge⟩
    -- a message that waits is queued, and an add does not touch it
    have hk : Queued s k := by
      by_contra hfree
      have := (hp.free hfree).1
      omega
    rw [hqueued k hk]

theorem progress_run {ops : List Op} (hclock : env.MonotonicClock)
    (hrun : Run (observedStep env) (fun _ => Unattended) (start, .empty) ops (s, h)) :
    ∃ k, Progress env s h k := by
  refine hrun.invariant (fun state => ∃ k, Progress env state.1 state.2 k)
    ⟨0, progress_start env⟩ ?_
  rintro state op after ⟨k, hp⟩ hop hstep
  obtain ⟨hnext, hrecord⟩ := observed_step_ok hstep
  rw [hrecord]
  exact hp.step hclock hop hnext

/-! ## What follows -/

/-- What holds at every point of a run without a host. -/
structure RetriesBounded (env : Env) (s : SmsRuntime) (h : History) : Prop where
  /-- Done messages, at most one that is being announced, and new ones. -/
  shape : ∃ k, (∀ j, Queued s j → j < k → (s.msg j).state = 9) ∧
    (Queued s k → ((s.msg k).state = 0 ∨ (s.msg k).state = 1) ∧ (s.msg k).retries ≤ 3) ∧
    ∀ j, Queued s j → k < j → (s.msg j).state = 0
  /-- A message is announced at most four times. -/
  few : ∀ epoch index, (h.of epoch index).length ≤ 4
  /-- The announcements come in the order of the messages. -/
  ordered : h.announcements.Pairwise fun later earlier => earlier.NotAfter later
  /-- Every further call returns. -/
  returns : ∀ op, Unattended op → ∃ next, step env s op = .ok next
  /-- A message is given up only when its fourth announcement has waited for over five seconds. -/
  waited : ∀ op next i, Unattended op → step env s op = .ok next →
    (s.msg i).state ≠ 9 → (next.msg i).state = 9 →
    ∃ fourth earlier, h.of h.epoch i = fourth :: earlier ∧ earlier.length = 3 ∧
      s.now env - fourth.time > fiveSeconds
  /-- The queue is wiped by the call of the worker that finds all messages done, and by no other. -/
  wiped : ∀ op next, Unattended op → step env s op = .ok next → 0 ≤ s.queuePos →
    ((next.queuePos = -1 ∧ next.notifPending = false) ↔
      op = .processMessageQueue ∧ ∀ i, Queued s i → (s.msg i).state = 9)

theorem unattended_returns (hwell : WellFormed s) (hop : Unattended op) :
    ∃ next, step env s op = .ok next := by
  obtain rfl | ⟨message, fields, hadds, -, hlength⟩ := hop.cases
  · exact process_message_queue_ok env hwell.upper
  · rw [step_adds hadds, addToQueue]
    by_cases hfull : s.queuePos > (queueSize : Int) - 2
    · exact ⟨s, if_pos hfull⟩
    · have hindex : index (s.queuePos + 1) = .ok (s.queuePos + 1).toNat := by
        have := hwell.lower
        exact index_eq_ok.2 ⟨by omega, by omega⟩
      have hfits : ¬ message.length > maxMessageSize := not_lt.2 hlength
      simp only [if_neg hfull, hindex, if_neg hfits]
      split_ifs
      · exact ⟨_, rfl⟩
      · exact ⟨_, rfl⟩

theorem Progress.waited (hp : Progress env s h k) (hclock : env.MonotonicClock)
    (hop : Unattended op) (hstep : Sms.step env s op = .ok next) {i : Nat}
    (hlive : (s.msg i).state ≠ 9) (hdone : (next.msg i).state = 9) :
    ∃ fourth earlier, h.of h.epoch i = fourth :: earlier ∧ earlier.length = 3 ∧
      s.now env - fourth.time > fiveSeconds := by
  -- an entry whose state is kept does not become done
  have hkept : OthersKept s next k → i = k := by
    intro hothers
    by_contra hik
    rw [(hothers i hik).1] at hdone
    exact hlive hdone
  obtain rfl | ⟨message, fields, hadds, -⟩ := hop.cases
  · cases hp.process_turn hclock hstep with
    | rest _ _ _ hothers hstate _ _ _ =>
        obtain rfl := hkept hothers
        exact absurd (hstate ▸ hdone) hlive
    | announce _ _ _ _ hothers _ hstate _ _ _ =>
        obtain rfl := hkept hothers
        omega
    | retry _ _ _ hothers _ _ hstate _ =>
        obtain rfl := hkept hothers
        omega
    | giveUp _ _ _ hothers hwaits hmany helapsed _ =>
        obtain rfl := hkept hothers
        obtain ⟨a, earlier, hof, htime, -⟩ := hp.waiting hwaits
        obtain ⟨-, hfew, hcount⟩ := hp.current
        refine ⟨a, earlier, hof, ?_, htime ▸ helapsed⟩
        rw [hof, List.length_cons] at hcount
        omega
    | wipe _ _ _ _ _ hnew =>
        have := (hnew i).1
        omega
  · obtain ⟨-, -, -, -, hsame, -⟩ := add_keeps hadds hstep
    exact absurd ((hsame i).1 ▸ hdone) hlive

theorem Progress.wiped (hp : Progress env s h k) (hclock : env.MonotonicClock)
    (hop : Unattended op) (hstep : Sms.step env s op = .ok next) (hqueue : 0 ≤ s.queuePos) :
    (next.queuePos = -1 ∧ next.notifPending = false) ↔
      op = .processMessageQueue ∧ ∀ i, Queued s i → (s.msg i).state = 9 := by
  -- a call that keeps the position does not wipe, and has found message `k` not done
  have hkept : Queued s k → next.queuePos = s.queuePos →
      ((next.queuePos = -1 ∧ next.notifPending = false) ↔
        op = .processMessageQueue ∧ ∀ i, Queued s i → (s.msg i).state = 9) := by
    intro hqueued hpos
    refine iff_of_false (fun hwiped => by omega) fun hall => ?_
    have := hall.2 k hqueued
    have := hp.current.1
    omega
  obtain rfl | ⟨message, fields, hadds, -⟩ := hop.cases
  · cases hp.process_turn hclock hstep with
    | rest hwhy hpos _ _ _ _ _ _ => exact hkept (hwhy.resolve_left (by omega)) hpos
    | announce _ hqueued hpos => exact hkept hqueued hpos
    | retry hqueued hpos => exact hkept hqueued hpos
    | giveUp hqueued hpos => exact hkept hqueued hpos
    | wipe _ hdone hpos hpending _ _ => exact iff_of_true ⟨hpos, hpending⟩ ⟨rfl, hdone⟩
  · obtain ⟨hpos, -⟩ := add_keeps hadds hstep
    refine iff_of_false (fun hwiped => by omega) fun hall => ?_
    rw [hall.1] at hadds
    cases hadds

/-- In every run of adds and calls of the worker, on a clock that does not go back, the retries are
bounded. -/
theorem retries_bounded (env : Env) (hclock : env.MonotonicClock) (ops : List Op)
    (s : SmsRuntime) (h : History)
    (hrun : Run (observedStep env) (fun _ => Unattended) (start, .empty) ops (s, h)) :
    RetriesBounded env s h := by
  obtain ⟨k, hp⟩ := progress_run hclock hrun
  refine
    { shape := ⟨k, fun j _ hj => (hp.done j hj).1, fun _ => ⟨?_, hp.current.2.1⟩,
        fun j _ hj => (hp.later j hj).1⟩
      few := hp.past
      ordered := hp.ordered
      returns := fun op => unattended_returns hp.well
      waited := fun op next i hop hstep => hp.waited hclock hop hstep
      wiped := fun op next hop hstep => hp.wiped hclock hop hstep }
  have := hp.current.1
  omega

/-- A message is added and announced, and waits. -/
theorem retries_bounded_announced :
    steadyEnv.MonotonicClock ∧
      ∃ s h, Run (observedStep steadyEnv) (fun _ => Unattended) (start, .empty)
          [.addSms [0x41], .processMessageQueue, .processMessageQueue] (s, h) ∧
        (s.msg 0).state = 1 ∧ RetriesBounded steadyEnv s h := by
  have hclock : steadyEnv.MonotonicClock := by
    intro m n hmn
    simp only [steadyEnv]
    omega
  have hrun : ∃ s h, Run (observedStep steadyEnv) (fun _ => Unattended) (start, .empty)
      [.addSms [0x41], .processMessageQueue, .processMessageQueue] (s, h) ∧
      (s.msg 0).state = 1 :=
    ⟨_, _, .snoc (.snoc (.snoc (.nil _) ⟨by decide, by decide⟩ rfl) trivial rfl) trivial rfl,
      by decide⟩
  obtain ⟨s, h, hs, hstate⟩ := hrun
  exact ⟨hclock, s, h, hs, hstate, retries_bounded steadyEnv hclock _ s h hs⟩

end OpenQti.Sms
