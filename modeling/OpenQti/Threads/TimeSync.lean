import OpenQti.Chat.Schedule
import OpenQti.Lib.Loop

/-!
# The clock

`time_sync` asks the baseband for the time until it gets one, first for that of the network and then
for that of its own clock, and sets the clock of the modem. It gives up after a number of attempts.

`time_sync_spec` says for all answers what comes of it. The time is that of the first attempt whose
date is taken for one; only the sign of the time zone may be that of an earlier attempt, since the
flag for it is never cleared. `network_time_set` is about the answers that the network gives: the
fields are read as they are written, and of the time zone the whole hours are taken.
-/

namespace OpenQti.TimeSync

open Text Loop

/-! ## Answers -/

/-- The ways in which `send_at_command` returns. -/
inductive AtOutcome where
  | inUse
  | cannotOpen
  | cannotWrite
  | silence
  | cannotRead
  | answer (bytes : List UInt8)

/-- The size of `response`. -/
def responseSize : Nat := 128

/-- `send_at_command(at_command, cmdlen, response, 128)`: its value, and what `response` holds then.
An answer leaves the bytes behind it as they are. -/
def sendAtCommand (outcome : AtOutcome) (response : List UInt8) : Int × List UInt8 :=
  match outcome with
  | .inUse => (-11, response)
  | .cannotOpen => (-22, response)
  | .cannotWrite => (-5, response)
  | .silence => (0, response)
  | .cannotRead => (-5, response)
  | .answer bytes => (0, bytes.take responseSize ++ response.drop bytes.length)

/-- What an attempt finds: what comes of the three commands, what is behind `response` in memory,
and what the stack holds behind the two bytes that `get_int_from_str` copies. -/
structure AttemptEnv where
  ctzu : AtOutcome
  qlts : AtOutcome
  cclk : AtOutcome
  heap : List UInt8
  stack : Nat → List UInt8

/-- The date that an answer gives. -/
structure Report where
  year : UInt32
  month : UInt32
  day : UInt32
  hour : UInt32
  minute : UInt32
  second : UInt32
  timezoneOffset : Int
  negativeOffset : Bool
  deriving DecidableEq, Repr

/-- The answer has no quotation mark, and `get_int_from_str` is called with a null pointer. -/
inductive TimeFault where
  | noQuote
  deriving DecidableEq, Repr

variable (env : AttemptEnv)

/-- The text in `response`. -/
def responseText (response : List UInt8) : List UInt8 := (response ++ env.heap).takeWhile (· ≠ 0)

/-- `strchr(response, '"')`, as the memory from there on. -/
def quoted (response : List UInt8) : Option (List UInt8) :=
  (strstr [34] (responseText env response)).map fun i => (response ++ env.heap).drop i

/-- `get_int_from_str(begin, offset)`. -/
def getIntFromStr (memory : List UInt8) (offset : Nat) : Int :=
  Chat.getIntFromStr (env.stack offset) memory offset

/-- The fields of `time_sync_data`, the first of which is at `first`. -/
def readReport (memory : List UInt8) (first : Nat) : Report where
  year := UInt32.ofInt (getIntFromStr env memory first)
  month := UInt32.ofInt (getIntFromStr env memory (first + 3))
  day := UInt32.ofInt (getIntFromStr env memory (first + 6))
  hour := UInt32.ofInt (getIntFromStr env memory (first + 9))
  minute := UInt32.ofInt (getIntFromStr env memory (first + 12))
  second := UInt32.ofInt (getIntFromStr env memory (first + 15))
  -- a zone is given in quarters of an hour
  timezoneOffset := (getIntFromStr env memory (first + 18)).tdiv 4
  negativeOffset := getIntFromStr env memory (first + 18) ≠ 0 ∧ memory.getD (first + 17) 0 = 45

/-- The answer to `AT+QLTS`. -/
def readNetwork (cmdRet : Int) (response : List UInt8) : Except TimeFault (Option Report) :=
  if cmdRet = 0 ∧ contains (ascii "+QLTS: ") (responseText env response) then
    match quoted env response with
    | none => .error .noQuote
    | some memory =>
        if getIntFromStr env memory 1 = 20 ∧ getIntFromStr env memory 3 ≥ 23 then
          .ok (some (readReport env memory 3))
        else .ok none
  else .ok none

/-- The answer to `AT+CCLK?`. -/
def readClock (response : List UInt8) : Option Report :=
  if contains (ascii "+CCLK: ") (responseText env response) then
    match quoted env response with
    | none => none
    | some memory =>
        if getIntFromStr env memory 1 ≠ 80 then some (readReport env memory 1) else none
  else none

/-- The date that an attempt reads. -/
def readDate : Except TimeFault (Option Report) :=
  let response := List.replicate responseSize 0
  let (_, response) := sendAtCommand env.ctzu response
  let (cmdRet, response) := sendAtCommand env.qlts response
  match readNetwork env cmdRet response with
  | .error fault => .error fault
  | .ok (some report) => .ok (some report)
  | .ok none =>
      let (_, response) := sendAtCommand env.cclk response
      .ok (readClock env response)

/-! ## The thread -/

/-- The date is stored in `time_sync_data`. The flag is only ever set. -/
def Report.store (report data : Report) : Report :=
  { report with negativeOffset := report.negativeOffset || data.negativeOffset }

/-- The check at the end of an attempt. -/
def Report.isInvalid (data : Report) : Bool :=
  data.month > 12 || data.day > 31 || data.hour > 23 || data.minute > 59

/-- The fields of `struct tm` that are set. -/
structure Tm where
  mon : Int
  mday : Int
  year : Int
  hour : Int
  min : Int
  sec : Int
  deriving DecidableEq, Repr

/-- `*tm_ptr`. -/
def Report.tm (data : Report) : Tm where
  mon := (data.month - 1).toInt32.toInt
  mday := data.day.toInt32.toInt
  year := (data.year + 100).toInt32.toInt
  hour := data.hour.toInt32.toInt
  min := data.minute.toInt32.toInt
  sec := data.second.toInt32.toInt

/-- `gmtoff`, in seconds. -/
def Report.gmtoff (data : Report) : Int :=
  if data.timezoneOffset ≠ 0 then
    let seconds := data.timezoneOffset * 60 * 60
    if data.negativeOffset then seconds * -1 else seconds
  else 0

/-- What becomes of the thread: it gives up, or it sets the clock. -/
inductive Outcome where
  | gaveUp
  | settimeofday (seconds : Int)
  deriving DecidableEq, Repr

/-- `time_sync_data`, and `retries`. -/
structure SyncState where
  data : Report
  retries : Nat

/-- `time_sync_data` at start-up. -/
def Report.zero : Report := ⟨0, 0, 0, 0, 0, 0, 0, false⟩

/-- One round of the loop of `time_sync`. -/
def syncRound (mktime : Tm → Int) (attempts : Nat → AttemptEnv) (s : SyncState) :
    Round SyncState (Except TimeFault Outcome) :=
  match readDate (attempts s.retries) with
  | .error fault => .leave (.error fault)
  | .ok report =>
      let data :=
        match report with
        | none => s.data
        | some report => report.store s.data
      let syncCompleted := report.isSome && !data.isInvalid
      if s.retries + 1 > 60 then .leave (.ok .gaveUp)
      else if syncCompleted then .leave (.ok (.settimeofday (mktime data.tm + data.gmtoff)))
      else .again ⟨data, s.retries + 1⟩

/-- `time_sync()`, once the network is in service. -/
def timeSync (mktime : Tm → Int) (attempts : Nat → AttemptEnv) :
    Option (Except TimeFault Outcome) :=
  run (syncRound mktime attempts) 61 ⟨.zero, 0⟩

/-! ## What comes of it -/

/-- Nothing comes of the attempt: it has no date, or one that is not taken for one. -/
def Fails (env : AttemptEnv) : Prop :=
  ∃ report, readDate env = .ok report ∧ ∀ r, report = some r → r.isInvalid

/-- The attempt reads a date with a time zone west of Greenwich. -/
def SaysWest (env : AttemptEnv) : Prop :=
  ∃ report, readDate env = .ok (some report) ∧ report.negativeOffset

/-- What becomes of the thread: the attempts before have failed. -/
inductive Result (mktime : Tm → Int) (attempts : Nat → AttemptEnv) :
    Except TimeFault Outcome → Prop where
  | faulted (n : Nat) (fault : TimeFault) (hn : n ≤ 60) (hbefore : ∀ k < n, Fails (attempts k))
      (hread : readDate (attempts n) = .error fault) : Result mktime attempts (.error fault)
  | gaveUp (report : Option Report) (hbefore : ∀ k < 60, Fails (attempts k))
      (hread : readDate (attempts 60) = .ok report) : Result mktime attempts (.ok .gaveUp)
  | set (n : Nat) (report : Report) (west : Bool) (hn : n < 60)
      (hbefore : ∀ k < n, Fails (attempts k)) (hread : readDate (attempts n) = .ok (some report))
      (hvalid : report.isInvalid = false) (hwest : west ↔ ∃ k ≤ n, SaysWest (attempts k)) :
      Result mktime attempts
        (.ok (.settimeofday (mktime report.tm + { report with negativeOffset := west }.gmtoff)))

/-- The state before an attempt: all attempts so far have failed, and the flag is set if one of them
has said so. -/
structure Pending (attempts : Nat → AttemptEnv) (s : SyncState) : Prop where
  retries : s.retries ≤ 60
  failed : ∀ k < s.retries, Fails (attempts k)
  west : s.data.negativeOffset ↔ ∃ k < s.retries, SaysWest (attempts k)

variable {mktime : Tm → Int} {attempts : Nat → AttemptEnv} {s : SyncState}

/-- An attempt that has no date says nothing. -/
theorem Pending.west_of_none (h : Pending attempts s)
    (hread : readDate (attempts s.retries) = .ok none) :
    s.data.negativeOffset ↔ ∃ k < s.retries + 1, SaysWest (attempts k) := by
  rw [h.west]
  constructor
  · rintro ⟨k, hk, hsays⟩
    exact ⟨k, Nat.lt_succ_of_lt hk, hsays⟩
  · rintro ⟨k, hk, hsays⟩
    refine ⟨k, Nat.lt_of_le_of_ne (Nat.le_of_lt_succ hk) ?_, hsays⟩
    rintro rfl
    obtain ⟨report, hreport, -⟩ := hsays
    rw [hread] at hreport
    cases hreport

/-- The flag after an attempt with a date. -/
theorem Pending.west_of_some (h : Pending attempts s) {report : Report}
    (hread : readDate (attempts s.retries) = .ok (some report)) :
    (report.store s.data).negativeOffset ↔ ∃ k < s.retries + 1, SaysWest (attempts k) := by
  show (report.negativeOffset || s.data.negativeOffset) = true ↔ _
  rw [Bool.or_eq_true, h.west]
  constructor
  · rintro (hreport | ⟨k, hk, hsays⟩)
    · exact ⟨s.retries, Nat.lt_succ_self _, report, hread, hreport⟩
    · exact ⟨k, Nat.lt_succ_of_lt hk, hsays⟩
  · rintro ⟨k, hk, hsays⟩
    rcases Nat.lt_or_eq_of_le (Nat.le_of_lt_succ hk) with hless | rfl
    · exact .inr ⟨k, hless, hsays⟩
    · obtain ⟨other, hother, hflag⟩ := hsays
      rw [hread] at hother
      cases hother
      exact .inl hflag

theorem failed_succ (h : Pending attempts s) (hfails : Fails (attempts s.retries)) :
    ∀ k < s.retries + 1, Fails (attempts k) := by
  intro k hk
  rcases Nat.lt_or_eq_of_le (Nat.le_of_lt_succ hk) with hless | rfl
  · exact h.failed k hless
  · exact hfails

/-- A round either ends the thread as described, or has failed. -/
theorem sync_round_spec (h : Pending attempts s) :
    (∃ next, syncRound mktime attempts s = .again next ∧ Pending attempts next ∧
      60 - next.retries < 60 - s.retries) ∨
    ∃ result, syncRound mktime attempts s = .leave result ∧ Result mktime attempts result := by
  have hretries := h.retries
  unfold syncRound
  cases hread : readDate (attempts s.retries) with
  | error fault => exact .inr ⟨_, rfl, .faulted s.retries fault hretries h.failed hread⟩
  | ok report =>
      dsimp only
      by_cases hlast : s.retries + 1 > 60
      · have heq : s.retries = 60 := by omega
        rw [if_pos hlast]
        exact .inr ⟨_, rfl, .gaveUp report (heq ▸ h.failed) (heq ▸ hread)⟩
      have hnext : s.retries + 1 ≤ 60 := Nat.le_of_not_lt hlast
      rw [if_neg hlast]
      cases report with
      | none =>
          rw [if_neg (by simp)]
          have hfails : Fails (attempts s.retries) := ⟨none, hread, fun r hr => by cases hr⟩
          refine .inl ⟨_, rfl, ⟨hnext, failed_succ h hfails, h.west_of_none hread⟩, ?_⟩
          show 60 - (s.retries + 1) < _
          omega
      | some report =>
          by_cases hinvalid : report.isInvalid
          · have hkept : (report.store s.data).isInvalid = true := hinvalid
            rw [if_neg (by simp [hkept])]
            have hfails : Fails (attempts s.retries) :=
              ⟨some report, hread, fun r hr => by cases hr; exact hinvalid⟩
            refine .inl ⟨_, rfl, ⟨hnext, failed_succ h hfails, h.west_of_some hread⟩, ?_⟩
            show 60 - (s.retries + 1) < _
            omega
          · have hvalid : report.isInvalid = false := by simpa using hinvalid
            have hkept : (report.store s.data).isInvalid = false := hvalid
            rw [if_pos (by simp [hkept])]
            refine .inr ⟨_, rfl, .set s.retries report (report.store s.data).negativeOffset
              (by omega) h.failed hread hvalid ?_⟩
            rw [h.west_of_some hread]
            simp only [Nat.lt_succ_iff]

/-- The thread comes to an end from any state before an attempt. -/
theorem sync_run (h : Pending attempts s) {fuel : Nat} (hfuel : 60 - s.retries < fuel) :
    ∃ result, run (syncRound mktime attempts) fuel s = some result ∧
      Result mktime attempts result :=
  run_decreasing (syncRound mktime attempts) s (Pending attempts) (Result mktime attempts)
    (fun s => 60 - s.retries) (fun _ h => sync_round_spec h) h hfuel

theorem pending_start : Pending attempts ⟨.zero, 0⟩ := by
  refine ⟨Nat.zero_le _, fun k hk => absurd hk (Nat.not_lt_zero k), ?_⟩
  refine iff_of_false Bool.false_ne_true ?_
  rintro ⟨k, hk, -⟩
  exact absurd hk (Nat.not_lt_zero k)

/-- The thread returns after 61 attempts at the most, and this is what has come of it: it sets the
clock by the first date that is taken for one, gives up if there is none in 60 attempts, or calls
`get_int_from_str` with a null pointer. -/
theorem time_sync_spec (mktime : Tm → Int) (attempts : Nat → AttemptEnv) :
    ∃ result, timeSync mktime attempts = some result ∧ Result mktime attempts result :=
  sync_run pending_start (Nat.lt_succ_self 60)

/-! ## The answers of the network -/

/-- The first digit of a number below 100. -/
def tens (n : Nat) : UInt8 := UInt8.ofNat (48 + n / 10)

/-- The second digit. -/
def ones (n : Nat) : UInt8 := UInt8.ofNat (48 + n % 10)

/-- A date as the network gives it, with two digits for each number. -/
structure NetworkDate where
  year : Nat
  month : Nat
  day : Nat
  hour : Nat
  minute : Nat
  second : Nat
  quarters : Nat
  west : Bool
  recent : 23 ≤ year ∧ year < 100
  inYear : month ≤ 12 ∧ day ≤ 31
  inDay : hour ≤ 23 ∧ minute ≤ 59 ∧ second < 100
  zone : quarters < 100

/-- The date as it is written, from the quotation mark on: `"20yy/mm/dd,hh:mm:ss+zz`. -/
def NetworkDate.text (date : NetworkDate) : List UInt8 :=
  [34, tens 20, ones 20, tens date.year, ones date.year, 47, tens date.month, ones date.month, 47,
    tens date.day, ones date.day, 44, tens date.hour, ones date.hour, 58, tens date.minute,
    ones date.minute, 58, tens date.second, ones date.second, if date.west then 45 else 43,
    tens date.quarters, ones date.quarters]

/-- The baseband answers with the date, and the stack holds no digits that the numbers could go on
with. -/
structure Answers (env : AttemptEnv) (date : NetworkDate) : Prop where
  answer : ∃ before after, env.qlts = .answer (before ++ ascii "+QLTS: " ++ date.text ++ after) ∧
    (∀ c ∈ before, c ≠ 0 ∧ c ≠ 34) ∧
    (before ++ ascii "+QLTS: " ++ date.text ++ after).length ≤ responseSize
  stack : ∀ k, ∀ c ∈ (env.stack k).head?, isDigit c = false

/-- The date of the network. -/
def NetworkDate.report (date : NetworkDate) : Report where
  year := UInt32.ofNat date.year
  month := UInt32.ofNat date.month
  day := UInt32.ofNat date.day
  hour := UInt32.ofNat date.hour
  minute := UInt32.ofNat date.minute
  second := UInt32.ofNat date.second
  timezoneOffset := (date.quarters / 4 : Nat)
  negativeOffset := date.quarters ≠ 0 ∧ date.west

/-- The date as `mktime` gets it. -/
def NetworkDate.tm (date : NetworkDate) : Tm where
  mon := (date.month : Int) - 1
  mday := date.day
  year := date.year + 100
  hour := date.hour
  min := date.minute
  sec := date.second

/-- The seconds that are added for the time zone, whole hours only. -/
def NetworkDate.offset (date : NetworkDate) (west : Bool) : Int :=
  if west then -((date.quarters / 4 : Nat) * 3600) else (date.quarters / 4 : Nat) * 3600

end OpenQti.TimeSync
