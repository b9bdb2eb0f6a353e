import OpenQti.Scheduler.Tasks

/-!
# The commands with a time

`cmd_schedule_reminder`, `cmd_schedule_wakeup` and `cmd_suspend_call_notifications` as functions
that add a task. Each goes through the words of its command and sets the fields of a task that has
not been initialised, unless a round of the loop answers and returns. `loop_ends_iff` says for all
three when a loop comes to its end and with which time, and `run_added` that the task has this time.
-/

namespace OpenQti.Scheduler

open Call Chat Text

/-! ## The functions -/

/-- The bytes that `scheduler_task.time` finds on the stack. -/
structure StackTime where
  hh : UInt8
  mm : UInt8

/-- `SCHED_MODE_TIME_AT` or `SCHED_MODE_TIME_COUNTDOWN`. -/
def modeOf (countdown : Bool) : TimeMode := if countdown then .timeCountdown else .timeAt

/-- The task of a reminder or a wake-up. Its `exec_time` is set when it is added. -/
def callTask (time : ScheduleState) (arguments : List UInt8) : Task where
  type := .call
  param := 0
  status := .pending
  time := ⟨0, modeOf time.countdown, time.hh, time.mm⟩
  arguments := arguments

section Functions

variable (s : SchRuntime) (env : ChatEnv) (clock : Clock) (stack : StackTime)
  (command : List UInt8)

/-- What the functions have in common: the command is checked, a round of the loop may answer, and
else a task is added. The result is the slot of the task, and the state. -/
def scheduleTask (id : CommandId) (round : ScheduleRound)
    (add : ScheduleState → Option Nat × SchRuntime) : Option Nat × SchRuntime :=
  if contains (cmdOf id) command then
    match round with
    | .error _ => (none, s)
    | .ok time => add time
  else (none, s)

/-- `reminder_text`. -/
def reminderText : List UInt8 :=
  match (splitWords 0 [] command)[4]? with
  | some (start, _) => command.drop start
  | none => []

def reminderLoop : ScheduleRound :=
  wordLoop (reminderRound env command) 0 ⟨false, stack.hh, stack.mm, .nothing⟩
    (splitWords 0 [] command)

/-- `cmd_schedule_reminder(command)`. -/
def scheduleReminder : Option Nat × SchRuntime :=
  scheduleTask s command .actionSetReminder (reminderLoop env stack command) fun time =>
    addTask s clock (callTask time (reminderText command))

def wakeupLoop : ScheduleRound :=
  wordLoop (wakeupRound env command) 0 ⟨false, stack.hh, stack.mm, .nothing⟩
    (splitWords 0 [] command)

/-- `cmd_schedule_wakeup(command)`. -/
def scheduleWakeup : Option Nat × SchRuntime :=
  scheduleTask s command .actionWakeOwner (wakeupLoop env stack command) fun time =>
    addTask s clock (callTask time
      ((sprintf "It's time to wakeup, %s" [env.userName]).take (Sms.maxMessageSize - 1)))

def dndLoop : ScheduleRound :=
  wordLoop (dndRound env) 0 ⟨true, stack.hh, stack.mm, .nothing⟩ (splitWords 0 [] command)

/-- The mode is entered, and the timers that there are are removed. -/
def clearTimers : SchRuntime :=
  removeAllTasksByType { s with call := setDoNotDisturb s.call true } .dndClear

/-- `cmd_suspend_call_notifications(command)`. -/
def suspendCallNotificationsFrom : Option Nat × SchRuntime :=
  scheduleTask s command .actionEnableDnd (dndLoop env stack command) fun time =>
    let task := dndTask env time.hh time.mm
    ((addTask (clearTimers s) clock task).1, addDndTask (clearTimers s) clock task)

/-- It is the function whose state `DndTimer` is about, if the stack is clean. -/
theorem suspend_call_notifications_from_state :
    (suspendCallNotificationsFrom s env clock ⟨0, 0⟩ command).2 =
      suspendCallNotifications s env clock command := by
  unfold suspendCallNotificationsFrom scheduleTask suspendCallNotifications dndLoop
  by_cases hcommand : contains (cmdOf .actionEnableDnd) command
  · rw [if_pos hcommand, if_pos hcommand]
    cases wordLoop (dndRound env) 0 ⟨true, 0, 0, .nothing⟩ (splitWords 0 [] command) with
    | error reply => rfl
    | ok time => simp only [enterDnd, clearTimers]
  · rw [if_neg hcommand, if_neg hcommand]

end Functions

/-- The commands that have a time in them. -/
inductive TimeCommand where
  | reminder
  | wakeup
  | suspend
  deriving DecidableEq, Repr

def TimeCommand.run : TimeCommand → SchRuntime → ChatEnv → Clock → StackTime → List UInt8 →
    Option Nat × SchRuntime
  | .reminder => scheduleReminder
  | .wakeup => scheduleWakeup
  | .suspend => suspendCallNotificationsFrom

/-! ## What the commands look for -/

namespace TimeCommand

/-- The number of the word with the time. -/
def place : TimeCommand → Nat
  | .reminder => 3
  | .wakeup => 4
  | .suspend => 3

def id : TimeCommand → CommandId
  | .reminder => .actionSetReminder
  | .wakeup => .actionWakeOwner
  | .suspend => .actionEnableDnd

/-- What the first words are searched for. -/
def tests : TimeCommand → List (List UInt8)
  | .reminder => [ascii "remind", ascii "me"]
  | .wakeup => [ascii "wake", ascii "me", ascii "up"]
  | .suspend => []

/-- The mode that is taken from the word before the time. -/
def countdown : TimeCommand → List UInt8 → Bool
  | .reminder, preposition => !contains (ascii "at") preposition
  | .wakeup, preposition => !contains (ascii "at") preposition
  | .suspend, _ => true

/-- The words before the time are accepted. A word that is missing is not looked at. -/
def AcceptsWords (kind : TimeCommand) (command : List UInt8) (words : List (Nat × List UInt8)) :
    Prop :=
  (∀ pair ∈ kind.tests.zip words, contains pair.1 pair.2.2) ∧
    (kind ≠ .suspend → ∀ word ∈ words[kind.place - 1]?,
      contains (ascii "at") word.2 ∨ contains (ascii "in") command)

/-- The command is not turned away before its time. -/
def Passes (kind : TimeCommand) (command : List UInt8) : Prop :=
  contains (cmdOf kind.id) command ∧ kind.AcceptsWords command (splitWords 0 [] command)

/-- The time is refused, whatever is left on the stack: more than two characters before or behind
the first colon, or more than two without one; no hour of the day, or no hours at all. -/
def Refuses (kind : TimeCommand) (countdown : Bool) (time : List UInt8) : Prop :=
  match findColon time with
  | some colon => kind ≠ .reminder ∧ ((time.drop colon).length > 3 ∨ colon > 2)
  | none =>
      time.length > 2 ∨ (kind = .wakeup ∧ countdown = false ∧ (atoi time > 24 ∨ atoi time < 0)) ∨
        (kind = .suspend ∧ atoi time = 0)

end TimeCommand

/-! ## The loops -/

/-- A loop comes to its end with this time. -/
def EndsWith (round : ScheduleRound) (countdown : Bool) (hh mm : UInt8) : Prop :=
  ∃ reply, round = .ok ⟨countdown, hh, mm, reply⟩

section Loops

variable {countdown : Bool} {hh mm : UInt8}

@[simp]
theorem ends_error (reply : ScheduleReply) : ¬ EndsWith (.error reply) countdown hh mm := by
  rintro ⟨_, h⟩
  cases h

@[simp]
theorem ends_ok_iff (s : ScheduleState) :
    EndsWith (.ok s) countdown hh mm ↔ s.countdown = countdown ∧ s.hh = hh ∧ s.mm = mm := by
  constructor
  · rintro ⟨reply, h⟩
    cases h
    exact ⟨rfl, rfl, rfl⟩
  · rintro ⟨rfl, rfl, rfl⟩
    exact ⟨s.reply, rfl⟩

/-- A round that goes on when a test holds. -/
theorem word_loop_ends_iff {round : Nat → Nat → List UInt8 → ScheduleState → ScheduleRound}
    {reply : ScheduleReply} {i : Nat} {word : Nat × List UInt8} {s : ScheduleState} {test : Bool}
    (hround : round i word.1 word.2 s = if test then .ok s else .error reply)
    (words : List (Nat × List UInt8)) :
    EndsWith (wordLoop round i s (word :: words)) countdown hh mm ↔
      test = true ∧ EndsWith (wordLoop round (i + 1) s words) countdown hh mm := by
  rw [wordLoop, hround]
  cases test with
  | true => simp
  | false => simp

/-- A round for the word that says the mode. -/
theorem word_loop_mode_ends_iff
    {round : Nat → Nat → List UInt8 → ScheduleState → ScheduleRound} {reply : ScheduleReply}
    {i : Nat} {word : Nat × List UInt8} {s : ScheduleState} {asked : Bool}
    (hround : round i word.1 word.2 s =
      if contains (ascii "at") word.2 then .ok s
      else if asked then .ok { s with countdown := true }
      else .error reply)
    (hs : s.countdown = false) (words : List (Nat × List UInt8)) :
    EndsWith (wordLoop round i s (word :: words)) countdown hh mm ↔
      (contains (ascii "at") word.2 ∨ asked) ∧
        EndsWith (wordLoop round (i + 1)
          { s with countdown := !contains (ascii "at") word.2 } words) countdown hh mm := by
  rw [wordLoop, hround]
  cases contains (ascii "at") word.2 with
  | true => simp [← hs]
  | false =>
      cases asked with
      | true => simp
      | false => simp

/-- After the last round with a time only the reply can change. -/
theorem word_loop_last_ends_iff
    {round : Nat → Nat → List UInt8 → ScheduleState → ScheduleRound} {last : Nat}
    (hround : ∀ i ≥ last + 1, ∀ start word s, ∃ reply,
      round i start word s = .ok { s with reply := reply })
    (s : ScheduleState) (word : Nat × List UInt8) (words : List (Nat × List UInt8)) :
    EndsWith (wordLoop round last s (word :: words)) countdown hh mm ↔
      EndsWith (round last word.1 word.2 s) countdown hh mm := by
  have hrest : ∀ i ≥ last + 1, ∀ s,
      EndsWith (wordLoop round i s words) countdown hh mm ↔ EndsWith (.ok s) countdown hh mm := by
    induction words with
    | nil => exact fun i hi s => Iff.rfl
    | cons word words ih =>
        intro i hi s
        obtain ⟨reply, hreply⟩ := hround i hi word.1 word.2 s
        rw [wordLoop, hreply, ih (i + 1) (Nat.le_succ_of_le hi), ends_ok_iff, ends_ok_iff]
  rw [wordLoop]
  cases round last word.1 word.2 s with
  | error reply => exact Iff.rfl
  | ok s => exact hrest (last + 1) (Nat.le_refl _) s

/-- The hours and the minutes are both those of a day, or neither; a countdown can have any. -/
def BothOrNeither (countdown : Bool) (hh mm : UInt8) : Prop :=
  countdown = false → (hh > 23 ↔ mm > 59)

theorem both_or_neither_iff :
    BothOrNeither countdown hh mm ↔ (countdown = false → (23 < hh.toNat ↔ 59 < mm.toNat)) :=
  Iff.rfl

/-- A time is taken: it is not refused, and with a colon the hours and the minutes go together. -/
def TimeCommand.Takes (kind : TimeCommand) (env : ChatEnv) (countdown : Bool)
    (time : List UInt8) : Prop :=
  ¬ kind.Refuses countdown time ∧
    (findColon time ≠ none →
      BothOrNeither countdown (readTime env time).1 (readTime env time).2)

variable (env : ChatEnv) (command : List UInt8) (start : Nat) (time : List UInt8)
  (s : ScheduleState)

/-- With hours and minutes the loop goes on unless exactly one of them is wrong. -/
theorem time_of_day_ends_iff (flag : Bool) (hours minutes : UInt8)
    (first second third : ScheduleReply) :
    EndsWith (if flag then .ok ⟨flag, hours, minutes, first⟩
      else if hours > 23 ∧ minutes > 59 then .ok ⟨flag, hours, minutes, second⟩
      else
        match timeOfDayReply hours minutes with
        | some reply => .error reply
        | none => .ok ⟨flag, hours, minutes, third⟩) countdown hh mm ↔
      BothOrNeither flag hours minutes ∧ flag = countdown ∧ (hours, minutes) = (hh, mm) := by
  unfold BothOrNeither
  cases flag with
  | true => simp
  | false =>
      simp only [Bool.false_eq_true, if_false, forall_const, Prod.mk.injEq]
      by_cases hboth : hours > 23 ∧ minutes > 59
      · rw [if_pos hboth, ends_ok_iff]
        simp only [hboth, true_and]
      · rw [if_neg hboth, ← time_of_day_reply_none_iff hboth]
        cases timeOfDayReply hours minutes with
        | some reply => simp
        | none => simp

theorem reminder_time_ends_iff :
    EndsWith (reminderRound env command 3 start time s) countdown hh mm ↔
      TimeCommand.reminder.Takes env s.countdown time ∧ s.countdown = countdown ∧
        readTime env time = (hh, mm) := by
  unfold reminderRound TimeCommand.Takes TimeCommand.Refuses readTime
  cases findColon time with
  | some colon =>
      simp only [ne_eq, not_true_eq_false, false_and, not_false_eq_true, true_and, reduceCtorEq,
        forall_const]
      exact time_of_day_ends_iff _ _ _ _ _ _
  | none =>
      by_cases hlong : time.length > 2
      · simp [hlong]
      · simp [hlong]

theorem long_wait_reply_none_iff (colon : Nat) :
    longWaitReply time colon = none ↔ ¬ ((time.drop colon).length > 3 ∨ colon > 2) := by
  unfold longWaitReply
  split_ifs with hminutes hhours
  · simp only [hminutes, true_or, not_true_eq_false]
  · simp only [hhours, or_true, not_true_eq_false]
  · simp only [hminutes, hhours, or_self, not_false_eq_true]

theorem wakeup_time_ends_iff :
    EndsWith (wakeupRound env command 4 start time s) countdown hh mm ↔
      TimeCommand.wakeup.Takes env s.countdown time ∧ s.countdown = countdown ∧
        readTime env time = (hh, mm) := by
  unfold wakeupRound TimeCommand.Takes TimeCommand.Refuses readTime
  cases findColon time with
  | some colon =>
      simp only [ne_eq, reduceCtorEq, not_false_eq_true, true_and, forall_const,
        ← long_wait_reply_none_iff]
      cases longWaitReply time colon with
      | some reply => simp
      | none =>
          simp only [true_and]
          exact time_of_day_ends_iff _ _ _ _ _ _
  | none =>
      by_cases hlong : time.length > 2
      · simp [hlong]
      · have hrange := atoi_bounds (Nat.le_of_not_lt hlong)
        have hbyte := to_nat_of_int (atoi time)
        have hlate : UInt8.ofInt (atoi time) > 24 ↔ atoi time > 24 ∨ atoi time < 0 := by
          rw [gt_iff_lt, UInt8.lt_iff_toNat_lt]
          simp only [UInt8.reduceToNat]
          omega
        cases s.countdown with
        | true => simp [hlong]
        | false =>
            by_cases hhours : UInt8.ofInt (atoi time) > 24
            · simp [hlong, hhours, hlate.1 hhours]
            · simp [hlong, hhours, mt hlate.2 hhours]

theorem dnd_time_ends_iff (hs : s.countdown = true) :
    EndsWith (dndRound env 3 start time s) countdown hh mm ↔
      TimeCommand.suspend.Takes env s.countdown time ∧ s.countdown = countdown ∧
        readTime env time = (hh, mm) := by
  unfold dndRound TimeCommand.Takes TimeCommand.Refuses readTime
  cases findColon time with
  | some colon =>
      simp only [ne_eq, reduceCtorEq, not_false_eq_true, true_and, forall_const,
        ← long_wait_reply_none_iff]
      cases longWaitReply time colon with
      | some reply => simp
      | none => simp [hs, BothOrNeither]
  | none =>
      by_cases hlong : time.length > 2
      · simp [hlong]
      · have hrange := atoi_bounds (Nat.le_of_not_lt hlong)
        have hbyte := to_nat_of_int (atoi time)
        have hsome : UInt8.ofInt (atoi time) > 0 ↔ atoi time ≠ 0 := by
          rw [gt_iff_lt, UInt8.lt_iff_toNat_lt]
          simp only [UInt8.reduceToNat]
          omega
        by_cases hhours : UInt8.ofInt (atoi time) > 0
        · simp [hlong, hhours, hsome.1 hhours]
        · simp [hlong, hhours, mt hsome.2 hhours]

variable (stack : StackTime)

/-- The time that a loop comes to its end with: the one it has read, or what is on the stack. -/
def TimeCommand.Sets (kind : TimeCommand) (words : List (Nat × List UInt8)) (countdown : Bool)
    (hh mm : UInt8) : Prop :=
  match words[kind.place - 1]?, words[kind.place]? with
  | some preposition, some time =>
      kind.Takes env (kind.countdown preposition.2) time.2 ∧
        kind.countdown preposition.2 = countdown ∧ readTime env time.2 = (hh, mm)
  | some preposition, none =>
      kind.countdown preposition.2 = countdown ∧ stack.hh = hh ∧ stack.mm = mm
  | none, _ => decide (kind = .suspend) = countdown ∧ stack.hh = hh ∧ stack.mm = mm

theorem dnd_loop_ends_iff (words : List (Nat × List UInt8)) :
    EndsWith (wordLoop (dndRound env) 0 ⟨true, stack.hh, stack.mm, .nothing⟩ words)
        countdown hh mm ↔
      TimeCommand.suspend.AcceptsWords command words ∧
        TimeCommand.suspend.Sets env stack words countdown hh mm := by
  have haccepts : TimeCommand.suspend.AcceptsWords command words :=
    ⟨fun _ hpair => absurd hpair List.not_mem_nil, fun h => absurd rfl h⟩
  have hrest : ∀ i ≥ 3 + 1, ∀ start word s, ∃ reply,
      dndRound env i start word s = .ok { s with reply := reply } :=
    fun i hi start word s => ⟨s.reply, dnd_round_idle env i hi start word s⟩
  rw [and_iff_right haccepts]
  match words with
  | [] | [_] | [_, _] | [_, _, _] => exact ends_ok_iff _
  | _ :: _ :: _ :: time :: words =>
      show EndsWith (wordLoop (dndRound env) 3 ⟨true, stack.hh, stack.mm, .nothing⟩ (time :: words))
        countdown hh mm ↔ _
      rw [word_loop_last_ends_iff hrest]
      exact dnd_time_ends_iff env time.1 time.2 _ rfl

theorem reminder_loop_ends_iff (words : List (Nat × List UInt8)) :
    EndsWith (wordLoop (reminderRound env command) 0 ⟨false, stack.hh, stack.mm, .nothing⟩ words)
        countdown hh mm ↔
      TimeCommand.reminder.AcceptsWords command words ∧
        TimeCommand.reminder.Sets env stack words countdown hh mm := by
  have hrest : ∀ i ≥ 3 + 1, ∀ start word s, ∃ reply,
      reminderRound env command i start word s = .ok { s with reply := reply } := by
    intro i hi start word s
    obtain ⟨k, rfl⟩ := Nat.exists_eq_add_of_le' hi
    cases k with
    | zero => exact ⟨_, rfl⟩
    | succ k => exact ⟨s.reply, rfl⟩
  simp only [TimeCommand.AcceptsWords, TimeCommand.tests, TimeCommand.Sets, TimeCommand.place,
    TimeCommand.countdown]
  match words with
  | [] => simp [wordLoop]
  | [remind] =>
      rw [word_loop_ends_iff rfl]
      simp [wordLoop]
  | [remind, me] =>
      rw [word_loop_ends_iff rfl, word_loop_ends_iff rfl]
      simp [wordLoop, and_assoc]
  | [remind, me, preposition] =>
      rw [word_loop_ends_iff rfl, word_loop_ends_iff rfl, word_loop_mode_ends_iff rfl rfl]
      simp [wordLoop, and_assoc]
  | remind :: me :: preposition :: time :: words =>
      rw [word_loop_ends_iff rfl, word_loop_ends_iff rfl, word_loop_mode_ends_iff rfl rfl,
        word_loop_last_ends_iff hrest, reminder_time_ends_iff]
      simp [and_assoc]

theorem wakeup_loop_ends_iff (words : List (Nat × List UInt8)) :
    EndsWith (wordLoop (wakeupRound env command) 0 ⟨false, stack.hh, stack.mm, .nothing⟩ words)
        countdown hh mm ↔
      TimeCommand.wakeup.AcceptsWords command words ∧
        TimeCommand.wakeup.Sets env stack words countdown hh mm := by
  have hrest : ∀ i ≥ 4 + 1, ∀ start word s, ∃ reply,
      wakeupRound env command i start word s = .ok { s with reply := reply } :=
    fun i hi start word s => ⟨s.reply, wakeup_round_idle env command i hi start word s⟩
  simp only [TimeCommand.AcceptsWords, TimeCommand.tests, TimeCommand.Sets, TimeCommand.place,
    TimeCommand.countdown]
  match words with
  | [] => simp [wordLoop]
  | [wake] =>
      rw [word_loop_ends_iff rfl]
      simp [wordLoop]
  | [wake, me] =>
      rw [word_loop_ends_iff rfl, word_loop_ends_iff rfl]
      simp [wordLoop, and_assoc]
  | [wake, me, up] =>
      rw [word_loop_ends_iff rfl, word_loop_ends_iff rfl, word_loop_ends_iff rfl]
      simp [wordLoop, and_assoc]
  | [wake, me, up, preposition] =>
      rw [word_loop_ends_iff rfl, word_loop_ends_iff rfl, word_loop_ends_iff rfl,
        word_loop_mode_ends_iff rfl rfl]
      simp [wordLoop, and_assoc]
  | wake :: me :: up :: preposition :: time :: words =>
      rw [word_loop_ends_iff rfl, word_loop_ends_iff rfl, word_loop_ends_iff rfl,
        word_loop_mode_ends_iff rfl rfl, word_loop_last_ends_iff hrest, wakeup_time_ends_iff]
      simp [and_assoc]

/-- The loop of a command. -/
def TimeCommand.loop : TimeCommand → ScheduleRound
  | .reminder => reminderLoop env stack command
  | .wakeup => wakeupLoop env stack command
  | .suspend => dndLoop env stack command

theorem loop_ends_iff (kind : TimeCommand) :
    EndsWith (kind.loop env command stack) countdown hh mm ↔
      kind.AcceptsWords command (splitWords 0 [] command) ∧
        kind.Sets env stack (splitWords 0 [] command) countdown hh mm := by
  cases kind with
  | reminder => exact reminder_loop_ends_iff env command stack _
  | wakeup => exact wakeup_loop_ends_iff env command stack _
  | suspend => exact dnd_loop_ends_iff env command stack _

end Loops

/-! ## The tasks -/

section Tasks

variable {s next : SchRuntime} {env : ChatEnv} {clock : Clock} {stack : StackTime}
  {command : List UInt8} {taskId : Nat} {countdown : Bool} {hh mm : UInt8} {kind : TimeCommand}

/-- The task has the time that a loop has come to its end with. -/
structure HasTime (countdown : Bool) (hh mm : UInt8) (task : Task) : Prop where
  mode : task.time.mode = modeOf countdown
  hh : task.time.hh = hh
  mm : task.time.mm = mm

theorem add_task_time {task : Task} (htask : HasTime countdown hh mm task)
    (h : addTask s clock task = (some taskId, next)) :
    HasTime countdown hh mm (next.tasks taskId) := by
  unfold addTask at h
  cases hslot : findFreeTaskSlot s with
  | none =>
      rw [hslot] at h
      cases h
  | some slot =>
      rw [hslot] at h
      cases h
      simp only [Function.update_self]
      exact ⟨htask.mode, htask.hh, htask.mm⟩

theorem schedule_task_some {id : CommandId} {round : ScheduleRound}
    {add : ScheduleState → Option Nat × SchRuntime}
    (h : scheduleTask s command id round add = (some taskId, next)) :
    contains (cmdOf id) command ∧ ∃ time, round = .ok time ∧ add time = (some taskId, next) := by
  unfold scheduleTask at h
  split_ifs at h with hcommand
  · cases round with
    | error reply => cases h
    | ok time => exact ⟨hcommand, time, rfl, h⟩
  · cases h

theorem add_dnd_task_some {task : Task} (h : (addTask s clock task).1 = some taskId) :
    addTask s clock task = (some taskId, addDndTask s clock task) := by
  have hadd : addTask s clock task = (some taskId, (addTask s clock task).2) := Prod.ext h rfl
  rw [addDndTask, hadd]

/-- The mode does not change in the loop for the do-not-disturb mode. -/
theorem dnd_loop_countdown (h : EndsWith (dndLoop env stack command) countdown hh mm) :
    countdown = true := by
  have hsets := ((loop_ends_iff env command stack .suspend).1 h).2
  unfold TimeCommand.Sets at hsets
  split at hsets
  · exact hsets.2.1.symm
  · exact hsets.1.symm
  · exact hsets.1.symm

theorem run_added (h : kind.run s env clock stack command = (some taskId, next)) :
    contains (cmdOf kind.id) command ∧ ∃ countdown hh mm,
      EndsWith (kind.loop env command stack) countdown hh mm ∧
        HasTime countdown hh mm (next.tasks taskId) := by
  cases kind with
  | reminder =>
      obtain ⟨hcommand, time, hloop, hadd⟩ := schedule_task_some h
      exact ⟨hcommand, _, _, _, ⟨_, hloop⟩, add_task_time ⟨rfl, rfl, rfl⟩ hadd⟩
  | wakeup =>
      obtain ⟨hcommand, time, hloop, hadd⟩ := schedule_task_some h
      exact ⟨hcommand, _, _, _, ⟨_, hloop⟩, add_task_time ⟨rfl, rfl, rfl⟩ hadd⟩
  | suspend =>
      obtain ⟨hcommand, time, hloop, hadd⟩ := schedule_task_some h
      obtain ⟨hslot, rfl⟩ := Prod.mk.inj hadd
      have hcountdown := dnd_loop_countdown ⟨_, hloop⟩
      refine ⟨hcommand, _, _, _, ⟨_, hloop⟩, add_task_time ⟨?_, rfl, rfl⟩ (add_dnd_task_some hslot)⟩
      rw [hcountdown]
      rfl

theorem find_free_first (h : (s.tasks 0).status = .free) : findFreeTaskSlot s = some 0 := by
  rw [findFreeTaskSlot, maxNumTasks, List.range_succ_eq_map,
    List.find?_cons_of_pos (by simpa using h)]

theorem add_task_first (h : (s.tasks 0).status = .free) (clock : Clock) (task : Task) :
    (addTask s clock task).1 = some 0 := by
  rw [addTask, find_free_first h]

/-- Without other tasks, a task is added when the loop has come to its end. -/
theorem run_start_up (hcommand : contains (cmdOf kind.id) command)
    (h : EndsWith (kind.loop env command stack) countdown hh mm) (clock : Clock) :
    ∃ next, kind.run (startUp none) env clock stack command = (some 0, next) ∧
      HasTime countdown hh mm (next.tasks 0) := by
  obtain ⟨reply, hloop⟩ := h
  have hadd : ∀ add, scheduleTask (startUp none) command kind.id (kind.loop env command stack) add =
      add ⟨countdown, hh, mm, reply⟩ := by
    intro add
    simp only [scheduleTask, if_pos hcommand, hloop]
  have hrun : ∃ next, kind.run (startUp none) env clock stack command = (some 0, next) := by
    cases kind with
    | reminder => exact ⟨_, (hadd _).trans (Prod.ext (add_task_first rfl clock _) rfl)⟩
    | wakeup => exact ⟨_, (hadd _).trans (Prod.ext (add_task_first rfl clock _) rfl)⟩
    | suspend =>
        have hcleared : (clearTimers (startUp none)).tasks 0 = .empty := by
          simp only [clearTimers, removeAllTasksByType, Slots.sweep_apply]
          rfl
        have hfree : ((clearTimers (startUp none)).tasks 0).status = .free := by
          rw [hcleared]
          rfl
        refine ⟨addDndTask (clearTimers (startUp none)) clock (dndTask env hh mm),
          (hadd _).trans ?_⟩
        simp only [add_task_first hfree]
  obtain ⟨next, hrun⟩ := hrun
  obtain ⟨-, _, _, _, ⟨_, hsame⟩, htime⟩ := run_added hrun
  rw [hloop] at hsame
  cases hsame
  exact ⟨next, hrun, htime⟩

end Tasks

end OpenQti.Scheduler
