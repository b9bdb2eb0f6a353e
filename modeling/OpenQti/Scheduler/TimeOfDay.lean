import Mathlib.Order.Bounds.Defs
import OpenQti.Lib.Calendar
import OpenQti.Scheduler.Tasks

/-!
# Tasks at a time of the day

A task for an hour and a minute is to be run when the clock shows them next. `add_task` compares
the hours only, so a task for an earlier minute of the current hour gets a time that has passed, and
is run at once. `exec_time_next_iff` says that there is no other case in which the time is wrong.

The clock is that of a zone with a fixed offset to UTC.
-/

namespace OpenQti.Scheduler

open Calendar

variable (offset t : Int)

/-- What `add_task` learns from `time`, `localtime` and `mktime` at the time `t`: some fields of
`new_time` are those of the local time, the others are set. -/
def Clock.of : Clock where
  now := t
  hour := (localtime offset t).1.hour.toNat
  mktime nextDay hh mm :=
    let tm := (localtime offset t).1
    Calendar.mktime offset { tm with
      sec := 0
      mday := tm.mday + if nextDay then 1 else 0
      hour := hh.toNat
      min := mm.toNat }

/-! ## The property -/

/-- The clock shows this hour and minute, and second 0. -/
def Shows (hh mm : UInt8) (time : Int) : Prop :=
  (localtime offset time).1.hour = hh.toNat ∧ (localtime offset time).1.min = mm.toNat ∧
    (localtime offset time).1.sec = 0

/-- The first time that is not in a past minute and at which the clock shows an hour and a minute;
it is at most a day ahead. -/
structure NextTime (hh mm : UInt8) (execTime : Int) : Prop where
  earliest : IsLeast { time | Shows offset hh mm time ∧ t - 60 < time } execTime
  notPast : t - 60 < execTime
  withinDay : execTime ≤ t + 86400

/-- A task that is added at the time `t` is to be run at the next time. -/
def SetsNextTime (s : SchRuntime) (task : Task) : Prop :=
  ∃ taskId next, addTask s (.of offset t) task = (some taskId, next) ∧
    NextTime offset t task.time.hh task.time.mm (next.tasks taskId).time.execTime

/-! ## Seconds of the day -/

variable {offset t} {hh mm : UInt8}

theorem shows_iff (hmm : mm.toNat ≤ 59) (time : Int) :
    Shows offset hh mm time ↔
      (time + offset) % 86400 = hh.toNat * 3600 + mm.toNat * 60 := by
  simp only [Shows, localtime, fields]
  omega

/-- The seconds of the day that have passed. -/
theorem second_of_day (offset time : Int) :
    let tm := (localtime offset time).1
    tm.hour * 3600 + tm.min * 60 + tm.sec = (time + offset) % 86400 := by
  simp only [localtime, fields]
  omega

/-- When a task for a time of the day is to be run. -/
theorem exec_time_at (time : ExecutionTime) (hmode : time.mode = .timeAt) :
    (Clock.of offset t).execTime time =
      t - (t + offset) % 86400 + (time.hh.toNat * 3600 + time.mm.toNat * 60) +
        if (localtime offset t).1.hour > time.hh.toNat then 86400 else 0 := by
  have hsecond := second_of_day offset t
  have hhour := (localtime offset t).2.hour.1
  have hlater : (localtime offset t).1.hour.toNat > time.hh.toNat ↔
      (localtime offset t).1.hour > time.hh.toNat := by omega
  simp only [Clock.execTime, hmode, Clock.of, hlater, mktime_move, mktime_localtime]
  simp only at hsecond
  by_cases hnext : (localtime offset t).1.hour > time.hh.toNat
  · simp only [hnext, decide_true, if_true]
    omega
  · simp only [hnext, decide_false, if_false]
    simp only [Bool.false_eq_true, if_false]
    omega

/-- The time is the next one, unless the minute has passed in the current hour. -/
theorem next_time_iff (time : ExecutionTime) (hmode : time.mode = .timeAt)
    (hhh : time.hh.toNat ≤ 23) (hmm : time.mm.toNat ≤ 59) :
    NextTime offset t time.hh time.mm ((Clock.of offset t).execTime time) ↔
      ¬ ((localtime offset t).1.hour = time.hh.toNat ∧
        time.mm.toNat < (localtime offset t).1.min) := by
  have hsecond := second_of_day offset t
  obtain ⟨hsec, hmin, hhour, -, -⟩ := (localtime offset t).2
  simp only at hsecond
  rw [exec_time_at time hmode]
  constructor
  · intro h hpassed
    have hpast := h.notPast
    rw [if_neg (by omega)] at hpast
    omega
  · intro hahead
    have hlater : t - 60 < t - (t + offset) % 86400 +
        (time.hh.toNat * 3600 + time.mm.toNat * 60) +
          if (localtime offset t).1.hour > time.hh.toNat then 86400 else 0 := by
      split_ifs <;> omega
    refine ⟨⟨⟨?_, hlater⟩, ?_⟩, hlater, ?_⟩
    · rw [shows_iff hmm]
      split_ifs <;> omega
    · rintro other ⟨hshows, hnot⟩
      rw [shows_iff hmm] at hshows
      split_ifs <;> omega
    · split_ifs <;> omega

/-- For every time, every zone and every task for a time of the day for which there is a slot, the
task is to be run when the clock next shows its hour and minute, if and only if it is not for an
earlier minute of the current hour. -/
theorem exec_time_next_iff (s : SchRuntime) (offset t : Int) (task : Task)
    (hmode : task.time.mode = .timeAt) (hhh : task.time.hh.toNat ≤ 23)
    (hmm : task.time.mm.toNat ≤ 59) (hslot : findFreeTaskSlot s ≠ none) :
    SetsNextTime offset t s task ↔
      ¬ ((localtime offset t).1.hour = task.time.hh.toNat ∧
        task.time.mm.toNat < (localtime offset t).1.min) := by
  obtain ⟨taskId, hfree⟩ := Option.ne_none_iff_exists'.1 hslot
  have hadded : ∀ added next, addTask s (.of offset t) task = (some added, next) →
      (next.tasks added).time.execTime = (Clock.of offset t).execTime task.time := by
    intro added next h
    simp only [addTask, hfree] at h
    cases h
    simp
  rw [← next_time_iff task.time hmode hhh hmm]
  constructor
  · rintro ⟨added, next, h, hnext⟩
    rwa [hadded added next h] at hnext
  · intro hnext
    refine ⟨taskId, _, by rw [addTask, hfree], ?_⟩
    simpa using hnext

/-- The task of a reminder for an hour and a minute. -/
def reminderAt (hh mm : UInt8) : Task := ⟨.call, 0, .pending, ⟨0, .timeAt, hh, mm⟩, []⟩

/-- At 23:50 in a zone one hour ahead of UTC, on the last day of February 2000, a reminder for 7:30
gets a time on the first of March. -/
theorem next_morning : SetsNextTime 3600 951864600 (startUp none) (reminderAt 7 30) :=
  (exec_time_next_iff _ _ _ _ rfl (by decide) (by decide) (by decide)).2 (by decide)

/-- At 23:50 a reminder for 23:30 gets a time that has passed. -/
theorem passed_minute_not_next :
    ¬ ∀ (s : SchRuntime) (offset t : Int) (task : Task), task.time.mode = .timeAt →
      task.time.hh.toNat ≤ 23 → task.time.mm.toNat ≤ 59 → findFreeTaskSlot s ≠ none →
        SetsNextTime offset t s task := by
  intro h
  obtain ⟨taskId, next, hadded, hnext⟩ :=
    h (startUp none) 3600 951864600 (reminderAt 23 30) rfl (by decide) (by decide) (by decide)
  have hpast := hnext.notPast
  cases hadded
  exact absurd hpast (by decide)

end OpenQti.Scheduler
