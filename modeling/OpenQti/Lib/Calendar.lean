import Mathlib.Algebra.Ring.Int.Defs

/-!
# Calendar time

The Gregorian calendar in a zone that is a fixed number of seconds ahead of UTC. A `Tm` is a
`struct tm`. `localtime` gives the fields of a time, each of them in its range, and `mktime` gives
the time of any fields: a day behind the end of a month is one of the next month.

`mktime_localtime` says that the one undoes the other, and `mktime_move` what `mktime` makes of
fields that have been changed.
-/

namespace Calendar

/-- `struct tm`. Months are counted from 0 on, and years from 1900 on. -/
structure Tm where
  sec : Int
  min : Int
  hour : Int
  mday : Int
  mon : Int
  year : Int
  deriving DecidableEq, Repr

/-! ## Days -/

/-- The year has 366 days. -/
def Leap (year : Int) : Prop := year % 4 = 0 ∧ (year % 100 ≠ 0 ∨ year % 400 = 0)

instance (year : Int) : Decidable (Leap year) := inferInstanceAs (Decidable (_ ∧ _))

/-- The days of the months. -/
def monthLengths (year : Int) : List Int :=
  [31, if Leap year then 29 else 28, 31, 30, 31, 30, 31, 31, 30, 31, 30, 31]

/-- The days before a year, from the beginning of year 1 on. -/
def daysBefore (year : Int) : Int :=
  365 * (year - 1) + (year - 1) / 4 - (year - 1) / 100 + (year - 1) / 400

/-- The days before 1970. -/
def epochDays : Int := daysBefore 1970

/-- The year of a day. 400 years have 146097 days. -/
def yearOf (day : Int) : Int :=
  let year := 400 * day / 146097 + 1
  if daysBefore (year + 1) ≤ day then year + 1 else year

/-- The month of a day of the year, and the days of this month before it. -/
def splitDays : List Int → Int → Nat × Int
  | [], day => (0, day)
  | length :: lengths, day =>
      if day < length then (0, day)
      else ((splitDays lengths (day - length)).1 + 1, (splitDays lengths (day - length)).2)

theorem split_days_spec {lengths : List Int} {day : Int} (hpos : 0 ≤ day)
    (hlt : day < lengths.sum) :
    (splitDays lengths day).1 < lengths.length ∧ 0 ≤ (splitDays lengths day).2 ∧
      (splitDays lengths day).2 < lengths.getD (splitDays lengths day).1 0 ∧
      (lengths.take (splitDays lengths day).1).sum + (splitDays lengths day).2 = day := by
  induction lengths generalizing day with
  | nil =>
      rw [List.sum_nil] at hlt
      omega
  | cons length lengths ih =>
      rw [List.sum_cons] at hlt
      rw [splitDays]
      by_cases hfirst : day < length
      · simpa [if_pos hfirst] using ⟨hpos, hfirst⟩
      · have hrest : 0 ≤ day - length := by omega
        obtain ⟨hmonth, hlow, hhigh, hsum⟩ := ih hrest (by omega)
        simp only [if_neg hfirst, List.length_cons, List.getD_cons_succ, List.take_succ_cons,
          List.sum_cons]
        exact ⟨by omega, hlow, hhigh, by omega⟩

theorem sum_month_lengths (year : Int) :
    (monthLengths year).sum = daysBefore (year + 1) - daysBefore year := by
  unfold monthLengths daysBefore
  by_cases hleap : Leap year
  · simp only [if_pos hleap, List.sum_cons, List.sum_nil]
    unfold Leap at hleap
    omega
  · simp only [if_neg hleap, List.sum_cons, List.sum_nil]
    unfold Leap at hleap
    omega

theorem year_of_spec (day : Int) :
    daysBefore (yearOf day) ≤ day ∧ day < daysBefore (yearOf day + 1) := by
  simp only [yearOf]
  generalize hyear : 400 * day / 146097 = year
  have hlow : 146097 * year ≤ 400 * day := by omega
  have hhigh : 400 * day < 146097 * year + 146097 := by omega
  split_ifs with hnext
  · refine ⟨hnext, ?_⟩
    unfold daysBefore
    omega
  · refine ⟨?_, by omega⟩
    unfold daysBefore
    omega

/-- The month of a day, and the days of this month before it. -/
def dateOf (day : Int) : Nat × Int :=
  splitDays (monthLengths (yearOf day)) (day - daysBefore (yearOf day))

/-- The date is a month of the year and a day of the month, and they make up the day. -/
theorem date_of_spec (day : Int) :
    (dateOf day).1 < 12 ∧ 0 ≤ (dateOf day).2 ∧
      (dateOf day).2 < (monthLengths (yearOf day)).getD (dateOf day).1 0 ∧
      daysBefore (yearOf day) + ((monthLengths (yearOf day)).take (dateOf day).1).sum +
        (dateOf day).2 = day := by
  obtain ⟨hlow, hhigh⟩ := year_of_spec day
  have hsum := sum_month_lengths (yearOf day)
  obtain ⟨hmonth, hpos, hlt, hday⟩ := split_days_spec
    (show 0 ≤ day - daysBefore (yearOf day) by omega)
    (show day - daysBefore (yearOf day) < (monthLengths (yearOf day)).sum by omega)
  refine ⟨hmonth, hpos, hlt, ?_⟩
  unfold dateOf
  omega

/-! ## The two functions -/

/-- The fields are in their ranges. -/
structure Tm.Normalised (tm : Tm) : Prop where
  sec : 0 ≤ tm.sec ∧ tm.sec < 60
  min : 0 ≤ tm.min ∧ tm.min < 60
  hour : 0 ≤ tm.hour ∧ tm.hour < 24
  mon : 0 ≤ tm.mon ∧ tm.mon < 12
  mday : 1 ≤ tm.mday ∧ tm.mday ≤ (monthLengths (1900 + tm.year)).getD tm.mon.toNat 0

variable (offset : Int)

/-- The fields of a time, `offset` seconds ahead of UTC. -/
def fields (time : Int) : Tm :=
  let day := (time + offset) / 86400 + epochDays
  let second := (time + offset) % 86400
  { sec := second % 60
    min := second / 60 % 60
    hour := second / 3600
    mday := (dateOf day).2 + 1
    mon := (dateOf day).1
    year := yearOf day - 1900 }

/-- `mktime(tm)`. -/
def mktime (tm : Tm) : Int :=
  let year := 1900 + tm.year + tm.mon / 12
  let day := daysBefore year + ((monthLengths year).take (tm.mon % 12).toNat).sum + tm.mday - 1
  (day - epochDays) * 86400 + tm.hour * 3600 + tm.min * 60 + tm.sec - offset

theorem fields_normalised (time : Int) : (fields offset time).Normalised := by
  obtain ⟨hmonth, hlow, hhigh, -⟩ := date_of_spec ((time + offset) / 86400 + epochDays)
  constructor
  case mday =>
    have hyear : ∀ year : Int, 1900 + (year - 1900) = year := fun _ => by omega
    simp only [fields, hyear, Int.toNat_natCast]
    omega
  all_goals
    simp only [fields]
    omega

/-- `localtime(time)`. -/
def localtime (time : Int) : { tm : Tm // tm.Normalised } :=
  ⟨fields offset time, fields_normalised offset time⟩

theorem mktime_localtime (time : Int) : mktime offset (localtime offset time).1 = time := by
  obtain ⟨hmonth, -, -, hsum⟩ := date_of_spec ((time + offset) / 86400 + epochDays)
  simp only [localtime, fields, mktime]
  generalize hday : (time + offset) / 86400 + epochDays = day at *
  have hyear : 1900 + (yearOf day - 1900) + ((dateOf day).1 : Int) / 12 = yearOf day := by omega
  have hmon : (((dateOf day).1 : Int) % 12).toNat = (dateOf day).1 := by omega
  rw [hyear, hmon]
  omega

/-- Another day and another time of the day. -/
theorem mktime_move (tm : Tm) (days hour min sec : Int) :
    mktime offset { tm with mday := tm.mday + days, hour := hour, min := min, sec := sec } =
      mktime offset tm + days * 86400 + (hour - tm.hour) * 3600 + (min - tm.min) * 60 +
        (sec - tm.sec) := by
  simp only [mktime]
  omega

-- the last second of 29 February 2000, one hour ahead of UTC
example : (localtime 3600 951865199).1 = ⟨59, 59, 23, 29, 1, 100⟩ := by decide

end Calendar
