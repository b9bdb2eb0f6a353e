import OpenQti.Chat.Replies

/-!
# The commands that schedule something

`cmd_schedule_call`, `cmd_schedule_reminder`, `cmd_schedule_wakeup` and
`cmd_suspend_call_notifications`. The last three take the command apart into words and go through
them in a loop, with a `switch` on the number of the word. A round may answer and return, or leave
the text that is sent after the loop. The texts are the values of `ScheduleReply`.
-/

namespace OpenQti.Chat

open Text

/-! ## Words -/

/-- The words of a command with the places where they begin. `strtok` ends a word at a space that
does not follow another one; further spaces belong to the next word. -/
def splitWords (start : Nat) (word : List UInt8) : List UInt8 → List (Nat × List UInt8)
  | [] => [(start, word)]
  | c :: text =>
      if c = 32 ∧ word ≠ [] ∧ word.getLast? ≠ some 32 then
        (start, word) :: splitWords (start + word.length + 1) [] text
      else splitWords start (word ++ [c]) text

/-- `get_int_from_str(str, offset)`. The two bytes are read as a number without a terminator after
them; `tail` is what follows on the stack. -/
def getIntFromStr (tail : List UInt8) (str : List UInt8) (offset : Nat) : Int :=
  let first := str.getD offset 0
  let second := str.getD (offset + 1) 0
  if isDigit second then atoi (first :: second :: tail) else atoi (48 :: first :: tail)

/-- `strchr(word, ':') - word`. -/
def findColon (word : List UInt8) : Option Nat := strstr [58] word

/-! ## Texts -/

/-- The texts that the commands answer with. -/
inductive ScheduleReply where
  | nothing
  | commandMismatch
  | firstWordWrong
  | secondWordWrong
  | remindWhen
  | wakeWhen
  | veryFunny
  | notEnoughHours
  | notEnoughMinutes
  | cannotWait (word : List UInt8)
  | addAnotherHour (word : List UInt8)
  | remindAt (hh mm : UInt8) (text : List UInt8)
  | remindIn (hh mm : UInt8) (text : List UInt8)
  | reminderQueueFull
  | waitUntilTime (hh mm : UInt8)
  | waitHoursAndMinutes (hh mm : UInt8)
  | waitHours (hh : UInt8)
  | waitUntilHour (hh : UInt8)
  | wakeupQueueFull
  | blockHoursAndMinutes (hh mm : UInt8)
  | blockHours (hh : UInt8)
  | cannotKeepDnd (word : List UInt8)
  | notValidHours (hh : UInt8)
  | dndQueueFull

/-- A reply as it is printed. -/
def ScheduleReply.text : ScheduleReply → Reply
  | .nothing => []
  | .commandMismatch => sprintf "Command mismatch!\n" []
  | .firstWordWrong => sprintf "First word in command is wrong\n" []
  | .secondWordWrong => sprintf "Second word in command is wrong\n" []
  | .remindWhen =>
      sprintf "Do you want me to remind you *at* a specific time or *in* some time from now\n" []
  | .wakeWhen =>
      sprintf "Do you want me to wake you up *at* a specific time or *in* some time from now?\n" []
  | .veryFunny =>
      sprintf "Ha ha, very funny. Please give me a time value I can work with if you want me to do anything \n" []
  | .notEnoughHours =>
      sprintf "I might not be very smart, but I don't think there's enough hours in a day \n" []
  | .notEnoughMinutes =>
      sprintf "I might not be very smart, but I don't think there's enough minutes in an hour \n" []
  | .cannotWait word => sprintf "I can't wait for a task that long... %s\n" [word]
  | .addAnotherHour word =>
      sprintf "Add another hour rather than putting 100 or more minutes... %s\n" [word]
  | .remindAt hh mm text =>
      sprintf " Remind you at %.2i:%.2i.\n%s\n"
        [padded 2 48 (decimal hh.toNat), padded 2 48 (decimal mm.toNat), text]
  | .remindIn hh mm text =>
      sprintf " Remind you in %i hours and %i minutes\n%s\n"
        [decimal hh.toNat, decimal mm.toNat, text]
  | .reminderQueueFull => sprintf " Can't add reminder, my task queue is full!\n" []
  | .waitUntilTime hh mm =>
      sprintf "Waiting until %i:%02i to call you back\n"
        [decimal hh.toNat, padded 2 48 (decimal mm.toNat)]
  | .waitHoursAndMinutes hh mm =>
      sprintf "Waiting for %i hours and %i minutes to call you back\n"
        [decimal hh.toNat, decimal mm.toNat]
  | .waitHours hh => sprintf "Waiting for %i hours to call you back\n" [decimal hh.toNat]
  | .waitUntilHour hh => sprintf "Waiting until %i to call you back\n" [decimal hh.toNat]
  | .wakeupQueueFull => sprintf " Can't schedule wakeup, my task queue is full!\n" []
  | .blockHoursAndMinutes hh mm =>
      sprintf "Blocking incoming calls for %i hours and %i minutes\n"
        [decimal hh.toNat, decimal mm.toNat]
  | .blockHours hh => sprintf "Blocking incoming calls for %i hour(s)\n" [decimal hh.toNat]
  | .cannotKeepDnd word => sprintf "I can't keep DND on _that_ long... %s\n" [word]
  | .notValidHours hh =>
      sprintf "%i hours is not a valid time! Please specify the number of hours\n"
        [decimal hh.toNat]
  | .dndQueueFull =>
      sprintf "Can't schedule DND disable, so keeping it off! (too many tasks)\n" []

/-! ## The loops over the words -/

/-- `scheduler_task.time`, and the text that is sent after the loop. -/
structure ScheduleState where
  countdown : Bool
  hh : UInt8
  mm : UInt8
  reply : ScheduleReply

/-- A round of a loop: an answer with which the function returns, or the state after it. -/
abbrev ScheduleRound := Except ScheduleReply ScheduleState

/-- The loop over the words of a command, from word `i` on. -/
def wordLoop (round : Nat → Nat → List UInt8 → ScheduleState → ScheduleRound) (i : Nat)
    (s : ScheduleState) : List (Nat × List UInt8) → ScheduleRound
  | [] => .ok s
  | (start, word) :: words =>
      match round i start word s with
      | .error reply => .error reply
      | .ok s => wordLoop round (i + 1) s words

/-- The answer to hours or minutes that no day has, if one of them is right. -/
def timeOfDayReply (hh mm : UInt8) : Option ScheduleReply :=
  if mm > 59 then some .notEnoughMinutes else if hh > 23 then some .notEnoughHours else none

variable (env : ChatEnv)

/-- The `switch` of `cmd_schedule_reminder`. -/
def reminderRound (command : List UInt8) (i start : Nat) (word : List UInt8) (s : ScheduleState) :
    ScheduleRound :=
  match i with
  | 0 => if contains (ascii "remind") word then .ok s else .error .firstWordWrong
  | 1 => if contains (ascii "me") word then .ok s else .error .secondWordWrong
  | 2 =>
      if contains (ascii "at") word then .ok s
      else if contains (ascii "in") command then .ok { s with countdown := true }
      else .error .remindWhen
  | 3 =>
      match findColon word with
      | some colon =>
          let hh := UInt8.ofInt (getIntFromStr env.numberTail word 0)
          let mm := UInt8.ofInt (getIntFromStr env.numberTail (word.drop colon) 1)
          let s := { s with hh := hh, mm := mm }
          if s.countdown then .ok s
          else if hh > 23 ∧ mm > 59 then .ok { s with reply := .veryFunny }
          else
            match timeOfDayReply hh mm with
            | some reply => .error reply
            | none => .ok s
      | none =>
          if word.length > 2 then .error (.cannotWait word)
          else .ok { s with hh := UInt8.ofInt (atoi word), mm := 0 }
  | 4 =>
      let text := command.drop start
      .ok { s with
        reply := if s.countdown then .remindIn s.hh s.mm text else .remindAt s.hh s.mm text }
  | _ => .ok s

/-- `cmd_schedule_reminder(command)`. -/
def cmdScheduleReminder (command : List UInt8) : ScheduleReply :=
  if contains (cmdOf .actionSetReminder) command then
    match wordLoop (reminderRound env command) 0 ⟨false, 0, 0, .nothing⟩
      (splitWords 0 [] command) with
    | .error reply => reply
    | .ok s => if env.taskAdded then s.reply else .reminderQueueFull
  else .commandMismatch

/-- The time that `cmd_schedule_wakeup` and `cmd_suspend_call_notifications` refuse to wait. -/
def longWaitReply (word : List UInt8) (colon : Nat) : Option ScheduleReply :=
  if (word.drop colon).length > 3 then some (.addAnotherHour word)
  else if colon > 2 then some (.cannotWait word)
  else none

/-- The `switch` of `cmd_schedule_wakeup`. -/
def wakeupRound (command : List UInt8) (i _start : Nat) (word : List UInt8) (s : ScheduleState) :
    ScheduleRound :=
  match i with
  | 0 => if contains (ascii "wake") word then .ok s else .error .firstWordWrong
  | 1 => if contains (ascii "me") word then .ok s else .error .secondWordWrong
  | 2 => if contains (ascii "up") word then .ok s else .error .secondWordWrong
  | 3 =>
      if contains (ascii "at") word then .ok s
      else if contains (ascii "in") command then .ok { s with countdown := true }
      else .error .wakeWhen
  | 4 =>
      match findColon word with
      | some colon =>
          let hh := UInt8.ofInt (getIntFromStr env.numberTail word 0)
          let mm := UInt8.ofInt (getIntFromStr env.numberTail (word.drop colon) 1)
          let s := { s with hh := hh, mm := mm }
          match longWaitReply word colon with
          | some reply => .error reply
          | none =>
              if s.countdown then .ok { s with reply := .waitHoursAndMinutes hh mm }
              else if hh > 23 ∧ mm > 59 then .ok { s with reply := .veryFunny }
              else
                match timeOfDayReply hh mm with
                | some reply => .error reply
                | none => .ok { s with reply := .waitUntilTime hh mm }
      | none =>
          if word.length > 2 then .error (.cannotWait word)
          else
            let hh := UInt8.ofInt (atoi word)
            let s := { s with hh := hh, mm := 0 }
            if s.countdown then .ok { s with reply := .waitHours hh }
            else if hh > 24 then .error .notEnoughHours
            else .ok { s with reply := .waitUntilHour hh }
  | _ => .ok s

/-- `cmd_schedule_wakeup(command)`. -/
def cmdScheduleWakeup (command : List UInt8) : ScheduleReply :=
  if contains (cmdOf .actionWakeOwner) command then
    match wordLoop (wakeupRound env command) 0 ⟨false, 0, 0, .nothing⟩
      (splitWords 0 [] command) with
    | .error reply => reply
    | .ok s => if env.taskAdded then s.reply else .wakeupQueueFull
  else .commandMismatch

/-- The `switch` of `cmd_suspend_call_notifications`. -/
def dndRound (i _start : Nat) (word : List UInt8) (s : ScheduleState) : ScheduleRound :=
  match i with
  | 3 =>
      match findColon word with
      | some colon =>
          let hh := UInt8.ofInt (getIntFromStr env.numberTail word 0)
          let mm := UInt8.ofInt (getIntFromStr env.numberTail (word.drop colon) 1)
          match longWaitReply word colon with
          | some reply => .error reply
          | none => .ok { s with hh := hh, mm := mm, reply := .blockHoursAndMinutes hh mm }
      | none =>
          if word.length > 2 then .error (.cannotKeepDnd word)
          else
            let hh := UInt8.ofInt (atoi word)
            if hh > 0 then .ok { s with hh := hh, mm := 0, reply := .blockHours hh }
            else .error (.notValidHours hh)
  | _ => .ok s

/-- `cmd_suspend_call_notifications(command)`. -/
def cmdSuspendCallNotifications (command : List UInt8) : ScheduleReply :=
  if contains (cmdOf .actionEnableDnd) command then
    match wordLoop (dndRound env) 0 ⟨true, 0, 0, .nothing⟩ (splitWords 0 [] command) with
    | .error reply => reply
    | .ok s => if env.taskAdded then s.reply else .dndQueueFull
  else .commandMismatch

/-- The delay that `cmd_schedule_call` reads from the arguments. -/
def callDelay (args : List UInt8) : Int := atoi (args.take 9)

/-- `cmd_schedule_call(cmd)`. -/
def cmdScheduleCall (command : List UInt8) : List Reply :=
  match arguments .actionCallOwnerCountdown command with
  | none => [sprintf "Error reading the command\n" []]
  | some args =>
      if callDelay args > 0 then
        [sprintf "I will call you back in %i seconds\n" [signed (callDelay args)]]
      else
        [sprintf "Please tell me in how many seconds you want me to call you, %s\n"
          [env.userName]]

/-! ## Which replies fit -/

/-- The reply is at most as long as a message. Only those with a part of the command in them can be
longer. -/
def ScheduleReply.Fits : ScheduleReply → Prop
  | .cannotWait word => word.length ≤ 122
  | .addAnotherHour word => word.length ≤ 99
  | .cannotKeepDnd word => word.length ≤ 124
  | .remindAt hh mm text =>
      max 2 (decimal hh.toNat).length + max 2 (decimal mm.toNat).length + text.length ≤ 141
  | .remindIn hh mm text =>
      (decimal hh.toNat).length + (decimal mm.toNat).length + text.length ≤ 124
  | _ => True

theorem schedule_text_fits (reply : ScheduleReply) :
    reply.text.length ≤ Sms.maxMessageSize ↔ reply.Fits := by
  unfold Sms.maxMessageSize
  cases reply with
  | nothing => exact iff_of_true (by decide) trivial
  | cannotWait word =>
      have hlength : (ScheduleReply.cannotWait word).text.length = 38 + (word.length + 0) :=
        length_sprintf _ _ rfl
      rw [hlength, ScheduleReply.Fits]
      omega
  | addAnotherHour word =>
      have hlength : (ScheduleReply.addAnotherHour word).text.length = 61 + (word.length + 0) :=
        length_sprintf _ _ rfl
      rw [hlength, ScheduleReply.Fits]
      omega
  | cannotKeepDnd word =>
      have hlength : (ScheduleReply.cannotKeepDnd word).text.length = 36 + (word.length + 0) :=
        length_sprintf _ _ rfl
      rw [hlength, ScheduleReply.Fits]
      omega
  | remindAt hh mm text =>
      have hlength : (ScheduleReply.remindAt hh mm text).text.length =
          19 + ((padded 2 48 (decimal hh.toNat)).length +
            ((padded 2 48 (decimal mm.toNat)).length + (text.length + 0))) :=
        length_sprintf _ _ rfl
      rw [hlength, length_padded, length_padded, ScheduleReply.Fits]
      omega
  | remindIn hh mm text =>
      have hlength : (ScheduleReply.remindIn hh mm text).text.length =
          36 + ((decimal hh.toNat).length + ((decimal mm.toNat).length + (text.length + 0))) :=
        length_sprintf _ _ rfl
      rw [hlength, ScheduleReply.Fits]
      omega
  | waitUntilTime hh mm =>
      have hmm := length_decimal_uint8 mm
      refine iff_of_true (length_sprintf_le 3 ?_ rfl (by decide)) trivial
      simp only [List.forall_mem_cons, List.not_mem_nil, false_implies, implies_true, and_true,
        length_padded]
      exact ⟨length_decimal_uint8 hh, by omega⟩
  | waitHoursAndMinutes hh mm =>
      refine iff_of_true (length_sprintf_le 3 ?_ rfl (by decide)) trivial
      simp [length_decimal_uint8]
  | waitHours hh =>
      refine iff_of_true (length_sprintf_le 3 ?_ rfl (by decide)) trivial
      simp [length_decimal_uint8]
  | waitUntilHour hh =>
      refine iff_of_true (length_sprintf_le 3 ?_ rfl (by decide)) trivial
      simp [length_decimal_uint8]
  | blockHoursAndMinutes hh mm =>
      refine iff_of_true (length_sprintf_le 3 ?_ rfl (by decide)) trivial
      simp [length_decimal_uint8]
  | blockHours hh =>
      refine iff_of_true (length_sprintf_le 3 ?_ rfl (by decide)) trivial
      simp [length_decimal_uint8]
  | notValidHours hh =>
      refine iff_of_true (length_sprintf_le 3 ?_ rfl (by decide)) trivial
      simp [length_decimal_uint8]
  | _ => exact iff_of_true (length_sprintf_nil_le rfl (by decide)) trivial

/-! ## Which commands are answered in one message -/

/-- The answer after a loop: what it has returned with, or the text it has left, if the task is
added. -/
def finalReply (full : ScheduleReply) : ScheduleRound → ScheduleReply
  | .error reply => reply
  | .ok s => if env.taskAdded then s.reply else full

theorem final_reply_fits {full : ScheduleReply} (hfull : full.Fits) {s : ScheduleState}
    (hreply : s.reply.Fits) : (finalReply env full (.ok s)).Fits := by
  show (if env.taskAdded then s.reply else full).Fits
  split
  · exact hreply
  · exact hfull

/-- A loop that has come to the rounds without a case goes on without a change. -/
theorem word_loop_idle {round : Nat → Nat → List UInt8 → ScheduleState → ScheduleRound}
    {first : Nat} (hround : ∀ i ≥ first, ∀ start word s, round i start word s = .ok s) {i : Nat}
    (hi : first ≤ i) (s : ScheduleState) (words : List (Nat × List UInt8)) :
    wordLoop round i s words = .ok s := by
  induction words generalizing i with
  | nil => rfl
  | cons word words ih =>
      rw [wordLoop, hround i hi]
      exact ih (Nat.le_succ_of_le hi)

theorem word_loop_last {round : Nat → Nat → List UInt8 → ScheduleState → ScheduleRound}
    {last : Nat} (hround : ∀ i ≥ last + 1, ∀ start word s, round i start word s = .ok s)
    (s : ScheduleState) (start : Nat) (word : List UInt8) (words : List (Nat × List UInt8)) :
    wordLoop round last s ((start, word) :: words) = round last start word s := by
  rw [wordLoop]
  cases hresult : round last start word s with
  | error reply => rfl
  | ok s' => exact word_loop_idle hround (Nat.le_refl _) s' words

/-- The condition on the rest of the words, if the next round goes on when a test holds and else
returns with a reply that fits. -/
theorem word_loop_test_iff {round : Nat → Nat → List UInt8 → ScheduleState → ScheduleRound}
    {full reply : ScheduleReply} {i start : Nat} {word : List UInt8} {s : ScheduleState}
    {test : Bool} (hround : round i start word s = if test then .ok s else .error reply)
    (hreply : reply.Fits) (words : List (Nat × List UInt8)) :
    (finalReply env full (wordLoop round i s ((start, word) :: words))).Fits ↔
      (test → (finalReply env full (wordLoop round (i + 1) s words)).Fits) := by
  rw [wordLoop, hround]
  cases test with
  | true => simp
  | false => exact iff_of_true hreply (fun htest => absurd htest Bool.false_ne_true)

/-- The answer of a round, or the text it leaves for the end of the loop, fits. -/
def RoundFits : ScheduleRound → Prop
  | .error reply => reply.Fits
  | .ok s => s.reply.Fits

theorem word_loop_fits {round : Nat → Nat → List UInt8 → ScheduleState → ScheduleRound}
    {full : ScheduleReply} (hfull : full.Fits) {n : Nat}
    (hround : ∀ i < n, ∀ start word s, s.reply.Fits → RoundFits (round i start word s))
    {words : List (Nat × List UInt8)} {i : Nat} {s : ScheduleState} (hs : s.reply.Fits)
    (hwords : i + words.length ≤ n) :
    (finalReply env full (wordLoop round i s words)).Fits := by
  induction words generalizing i s with
  | nil => exact final_reply_fits env hfull hs
  | cons word words ih =>
      simp only [List.length_cons] at hwords
      have hnext := hround i (by omega) word.1 word.2 s hs
      rw [wordLoop]
      cases hresult : round i word.1 word.2 s with
      | error reply =>
          rw [hresult] at hnext
          exact hnext
      | ok s' =>
          rw [hresult] at hnext
          exact ih hnext (by omega)

/-- What the functions have in common: they check the command before they take it apart. -/
theorem checked_reply_fits_iff {checked : Bool} {full : ScheduleReply} {result : ScheduleRound} :
    (if checked then finalReply env full result else .commandMismatch).Fits ↔
      (checked → (finalReply env full result).Fits) := by
  cases checked with
  | true => simp
  | false => exact iff_of_true trivial fun h => absurd h Bool.false_ne_true

/-- How long the time may be if it is refused and repeated. -/
def waitLimit (withoutColon : Nat) (time : List UInt8) : Nat :=
  match findColon time with
  | some colon => if (time.drop colon).length > 3 then 99 else 122
  | none => withoutColon

theorem time_of_day_reply_fits {hh mm : UInt8} {reply : ScheduleReply}
    (h : timeOfDayReply hh mm = some reply) : reply.Fits := by
  unfold timeOfDayReply at h
  split_ifs at h <;> cases h <;> trivial

theorem long_wait_reply_fits_iff {time : List UInt8} {colon : Nat} {reply : ScheduleReply}
    (h : longWaitReply time colon = some reply) :
    reply.Fits ↔ time.length ≤ if (time.drop colon).length > 3 then 99 else 122 := by
  unfold longWaitReply at h
  split_ifs at h with hminutes hhours
  · cases h
    rw [if_pos hminutes, ScheduleReply.Fits]
  · cases h
    rw [if_neg hminutes, ScheduleReply.Fits]

theorem short_wait {time : List UInt8} {colon : Nat} (h : longWaitReply time colon = none) :
    time.length ≤ if (time.drop colon).length > 3 then 99 else 122 := by
  unfold longWaitReply at h
  split_ifs at h with hminutes hhours
  rw [if_neg hminutes]
  rw [List.length_drop] at hminutes
  omega

/-! ### `cmd_schedule_wakeup` -/

theorem wakeup_round_idle (command : List UInt8) :
    ∀ i ≥ 4 + 1, ∀ start word s, wakeupRound env command i start word s = .ok s := by
  intro i hi start word s
  obtain ⟨k, rfl⟩ := Nat.exists_eq_add_of_le' hi
  rfl

theorem wakeup_time_fits_iff (command : List UInt8) (start : Nat) (time : List UInt8)
    (s : ScheduleState) :
    (finalReply env .wakeupQueueFull (wakeupRound env command 4 start time s)).Fits ↔
      time.length ≤ waitLimit 122 time := by
  unfold wakeupRound waitLimit
  cases findColon time with
  | some colon =>
      simp only
      split
      · next reply hreply => exact long_wait_reply_fits_iff hreply
      · next hshort =>
          refine iff_of_true ?_ (short_wait hshort)
          split_ifs
          · exact final_reply_fits env (by trivial) (by trivial)
          · exact final_reply_fits env (by trivial) (by trivial)
          · split
            · next reply hreply => exact time_of_day_reply_fits hreply
            · exact final_reply_fits env (by trivial) (by trivial)
  | none =>
      simp only
      split_ifs with hlong hcountdown hhours
      · exact Iff.rfl
      · exact iff_of_true (final_reply_fits env (by trivial) (by trivial)) (by omega)
      · exact iff_of_true trivial (by omega)
      · exact iff_of_true (final_reply_fits env (by trivial) (by trivial)) (by omega)

theorem wakeup_head_fits (command : List UInt8) :
    ∀ i < 4, ∀ start word s, s.reply.Fits → RoundFits (wakeupRound env command i start word s) := by
  intro i hi start word s hs
  unfold wakeupRound
  match i with
  | 0 | 1 | 2 | 3 =>
      simp only
      split_ifs <;> first | exact hs | trivial

/-- What the words of a command must meet for `cmd_schedule_wakeup` to answer in one message: if
those before the time are right, the time is short enough. -/
def WakeupWordsFit (command : List UInt8) : List (Nat × List UInt8) → Prop
  | (_, wake) :: (_, me) :: (_, up) :: (_, preposition) :: (_, time) :: _ =>
      contains (ascii "wake") wake → contains (ascii "me") me → contains (ascii "up") up →
        contains (ascii "at") preposition ∨ contains (ascii "in") command →
          time.length ≤ waitLimit 122 time
  | _ => True

/-- The rounds for the preposition and the time. -/
theorem wakeup_preposition_fits_iff (command preposition time : List UInt8) (place start : Nat)
    (s : ScheduleState) (words : List (Nat × List UInt8)) :
    (finalReply env .wakeupQueueFull (wordLoop (wakeupRound env command) 3 s
      ((place, preposition) :: (start, time) :: words))).Fits ↔
        (contains (ascii "at") preposition ∨ contains (ascii "in") command →
          time.length ≤ waitLimit 122 time) := by
  have htime : ∀ s, (finalReply env .wakeupQueueFull (wordLoop (wakeupRound env command) 4 s
      ((start, time) :: words))).Fits ↔ time.length ≤ waitLimit 122 time := by
    intro s
    rw [word_loop_last (wakeup_round_idle env command)]
    exact wakeup_time_fits_iff env command start time s
  rw [wordLoop, wakeupRound]
  by_cases hat : contains (ascii "at") preposition
  · simp only [hat, if_true, true_or, forall_const]
    exact htime s
  · by_cases hin : contains (ascii "in") command
    · simp only [hat, hin, if_true, or_true, forall_const]
      exact htime _
    · refine iff_of_true ?_ fun h => absurd h (not_or.2 ⟨hat, hin⟩)
      simp only [hat, hin]
      trivial

theorem wakeup_words_fit_iff (command : List UInt8) (words : List (Nat × List UInt8)) :
    (finalReply env .wakeupQueueFull
      (wordLoop (wakeupRound env command) 0 ⟨false, 0, 0, .nothing⟩ words)).Fits ↔
        WakeupWordsFit command words := by
  match words with
  | (_, wake) :: (_, me) :: (_, up) :: (_, preposition) :: (start, time) :: words =>
      rw [word_loop_test_iff env rfl (by trivial), word_loop_test_iff env rfl (by trivial),
        word_loop_test_iff env rfl (by trivial), wakeup_preposition_fits_iff, WakeupWordsFit]
  | [] | [_] | [_, _] | [_, _, _] | [_, _, _, _] =>
      refine iff_of_true ?_ trivial
      exact word_loop_fits env (by trivial) (wakeup_head_fits env command) (by trivial) (by simp)

theorem schedule_wakeup_fits_iff (command : List UInt8) :
    (cmdScheduleWakeup env command).Fits ↔
      (contains (cmdOf .actionWakeOwner) command →
        WakeupWordsFit command (splitWords 0 [] command)) := by
  rw [← wakeup_words_fit_iff env]
  exact checked_reply_fits_iff env

/-! ### `cmd_suspend_call_notifications` -/

theorem dnd_round_idle : ∀ i ≥ 3 + 1, ∀ start word s, dndRound env i start word s = .ok s := by
  intro i hi start word s
  obtain ⟨k, rfl⟩ := Nat.exists_eq_add_of_le' hi
  rfl

theorem dnd_time_fits_iff (start : Nat) (time : List UInt8) (s : ScheduleState) :
    (finalReply env .dndQueueFull (dndRound env 3 start time s)).Fits ↔
      time.length ≤ waitLimit 124 time := by
  unfold dndRound waitLimit
  cases findColon time with
  | some colon =>
      simp only
      split
      · next reply hreply => exact long_wait_reply_fits_iff hreply
      · next hshort =>
          exact iff_of_true (final_reply_fits env (by trivial) (by trivial)) (short_wait hshort)
  | none =>
      simp only
      split_ifs with hlong hhours
      · exact Iff.rfl
      · exact iff_of_true (final_reply_fits env (by trivial) (by trivial)) (by omega)
      · exact iff_of_true trivial (by omega)

/-- What the words of a command must meet for `cmd_suspend_call_notifications` to answer in one
message. The words before the time are not looked at. -/
def DndWordsFit : List (Nat × List UInt8) → Prop
  | _ :: _ :: _ :: (_, time) :: _ => time.length ≤ waitLimit 124 time
  | _ => True

theorem dnd_words_fit_iff (words : List (Nat × List UInt8)) :
    (finalReply env .dndQueueFull
      (wordLoop (dndRound env) 0 ⟨true, 0, 0, .nothing⟩ words)).Fits ↔ DndWordsFit words := by
  match words with
  | _ :: _ :: _ :: (start, time) :: words =>
      show (finalReply env .dndQueueFull
        (wordLoop (dndRound env) 3 ⟨true, 0, 0, .nothing⟩ ((start, time) :: words))).Fits ↔ _
      rw [word_loop_last (dnd_round_idle env)]
      exact dnd_time_fits_iff env start time _
  | [] | [_] | [_, _] | [_, _, _] =>
      exact iff_of_true (final_reply_fits env (by trivial) (by trivial)) trivial

theorem suspend_call_notifications_fits_iff (command : List UInt8) :
    (cmdSuspendCallNotifications env command).Fits ↔
      (contains (cmdOf .actionEnableDnd) command → DndWordsFit (splitWords 0 [] command)) := by
  rw [← dnd_words_fit_iff env]
  exact checked_reply_fits_iff env

/-! ### `cmd_schedule_reminder` -/

/-- The hours and minutes that `cmd_schedule_reminder` reads. -/
def readTime (time : List UInt8) : UInt8 × UInt8 :=
  match findColon time with
  | some colon =>
      (UInt8.ofInt (getIntFromStr env.numberTail time 0),
        UInt8.ofInt (getIntFromStr env.numberTail (time.drop colon) 1))
  | none => (UInt8.ofInt (atoi time), 0)

/-- The loop of `cmd_schedule_reminder` goes on after a time. It does so with a time of day if
neither the hours nor the minutes are right. -/
def TimeAccepted (countdown : Bool) (time : List UInt8) : Prop :=
  match findColon time with
  | some _ => countdown ∨ ((readTime env time).1 > 23 ↔ (readTime env time).2 > 59)
  | none => time.length ≤ 2

/-- The rest of a command fits behind the time in the answer. -/
def ReminderTextFits (countdown : Bool) (hh mm : UInt8) (text : List UInt8) : Prop :=
  if countdown then (decimal hh.toNat).length + (decimal mm.toNat).length + text.length ≤ 124
  else max 2 (decimal hh.toNat).length + max 2 (decimal mm.toNat).length + text.length ≤ 141

/-- What the words of a command must meet for `cmd_schedule_reminder` to answer in one message: if
those before the time are right, a time without a colon is short enough, and so is the text after a
time with which the loop goes on. -/
def ReminderWordsFit (command : List UInt8) : List (Nat × List UInt8) → Prop
  | (_, remind) :: (_, me) :: (_, preposition) :: (_, time) :: words =>
      contains (ascii "remind") remind → contains (ascii "me") me →
        contains (ascii "at") preposition ∨ contains (ascii "in") command →
          (findColon time = none → time.length ≤ 122) ∧
            (TimeAccepted env (!contains (ascii "at") preposition) time → env.taskAdded →
              ∀ text ∈ words.head?, ReminderTextFits (!contains (ascii "at") preposition)
                (readTime env time).1 (readTime env time).2 (command.drop text.1))
  | _ => True

theorem reminder_round_idle (command : List UInt8) :
    ∀ i ≥ 4 + 1, ∀ start word s, reminderRound env command i start word s = .ok s := by
  intro i hi start word s
  obtain ⟨k, rfl⟩ := Nat.exists_eq_add_of_le' hi
  rfl

theorem reminder_text_fits_iff (command : List UInt8) (countdown : Bool) (hh mm : UInt8)
    {reply : ScheduleReply} (hreply : reply.Fits) (words : List (Nat × List UInt8)) :
    (finalReply env .reminderQueueFull
      (wordLoop (reminderRound env command) 4 ⟨countdown, hh, mm, reply⟩ words)).Fits ↔
        (env.taskAdded → ∀ text ∈ words.head?,
          ReminderTextFits countdown hh mm (command.drop text.1)) := by
  cases words with
  | nil => exact iff_of_true (final_reply_fits env (by trivial) hreply) (by simp)
  | cons text words =>
      rw [word_loop_last (reminder_round_idle env command)]
      simp only [List.head?_cons, Option.mem_some_iff, forall_eq']
      show (if env.taskAdded then _ else ScheduleReply.reminderQueueFull).Fits ↔ _
      by_cases hadded : env.taskAdded
      · simp only [hadded, if_true, forall_const, ReminderTextFits]
        split <;> exact Iff.rfl
      · rw [if_neg hadded]
        exact iff_of_true trivial fun h => absurd h hadded

theorem time_of_day_reply_none_iff {hh mm : UInt8} (hboth : ¬ (hh > 23 ∧ mm > 59)) :
    timeOfDayReply hh mm = none ↔ (hh > 23 ↔ mm > 59) := by
  unfold timeOfDayReply
  by_cases hmm : mm > 59
  · simp only [hmm, if_true, reduceCtorEq, iff_true, false_iff]
    exact fun hhh => hboth ⟨hhh, hmm⟩
  · by_cases hhh : hh > 23
    · simp [hmm, hhh]
    · simp [hmm, hhh]

/-- The rounds from the time on, for a loop that has no text yet. -/
theorem reminder_time_fits_iff (command time : List UInt8) (start : Nat) {s : ScheduleState}
    (hs : s.reply.Fits) (words : List (Nat × List UInt8)) :
    (finalReply env .reminderQueueFull
      (wordLoop (reminderRound env command) 3 s ((start, time) :: words))).Fits ↔
        (findColon time = none → time.length ≤ 122) ∧
          (TimeAccepted env s.countdown time → env.taskAdded → ∀ text ∈ words.head?,
            ReminderTextFits s.countdown (readTime env time).1 (readTime env time).2
              (command.drop text.1)) := by
  rw [wordLoop, reminderRound, TimeAccepted, readTime]
  cases findColon time with
  | some colon =>
      simp only [reduceCtorEq, false_implies, true_and]
      generalize UInt8.ofInt (getIntFromStr env.numberTail time 0) = hh
      generalize UInt8.ofInt (getIntFromStr env.numberTail (time.drop colon) 1) = mm
      by_cases hcountdown : s.countdown
      · simp only [hcountdown, if_true, true_or, forall_const]
        exact reminder_text_fits_iff env command true hh mm hs words
      · simp only [hcountdown, if_false, false_or, Bool.false_eq_true]
        by_cases hboth : hh > 23 ∧ mm > 59
        · simp only [hboth, if_true, true_and, iff_self, forall_const]
          exact reminder_text_fits_iff env command false hh mm (by trivial) words
        · rw [if_neg hboth, ← time_of_day_reply_none_iff hboth]
          cases hreply : timeOfDayReply hh mm with
          | some reply =>
              exact iff_of_true (time_of_day_reply_fits hreply) fun h => by cases h
          | none =>
              simp only [forall_const]
              exact reminder_text_fits_iff env command false hh mm hs words
  | none =>
      simp only [forall_const]
      by_cases hlong : time.length > 2
      · simp only [hlong, if_true]
        refine ⟨fun hfits => ⟨hfits, fun h => absurd h (Nat.not_le_of_lt hlong)⟩, fun h => h.1⟩
      · have hshort : time.length ≤ 2 := Nat.le_of_not_lt hlong
        have hlimit : time.length ≤ 122 := hshort.trans (by decide)
        simp only [if_neg hlong, hshort, hlimit, true_and, forall_const]
        exact reminder_text_fits_iff env command s.countdown _ 0 hs words

theorem reminder_head_fits (command : List UInt8) :
    ∀ i < 3, ∀ start word s,
      s.reply.Fits → RoundFits (reminderRound env command i start word s) := by
  intro i hi start word s hs
  unfold reminderRound
  match i with
  | 0 | 1 | 2 =>
      simp only
      split_ifs <;> first | exact hs | trivial

/-- The rounds from the preposition on. -/
theorem reminder_preposition_fits_iff (command preposition time : List UInt8) (place start : Nat)
    (words : List (Nat × List UInt8)) :
    (finalReply env .reminderQueueFull (wordLoop (reminderRound env command) 2
      ⟨false, 0, 0, .nothing⟩ ((place, preposition) :: (start, time) :: words))).Fits ↔
        (contains (ascii "at") preposition ∨ contains (ascii "in") command →
          (findColon time = none → time.length ≤ 122) ∧
            (TimeAccepted env (!contains (ascii "at") preposition) time → env.taskAdded →
              ∀ text ∈ words.head?, ReminderTextFits (!contains (ascii "at") preposition)
                (readTime env time).1 (readTime env time).2 (command.drop text.1))) := by
  rw [wordLoop, reminderRound]
  by_cases hat : contains (ascii "at") preposition
  · simp only [hat, if_true, true_or, forall_const, Bool.not_true]
    exact reminder_time_fits_iff env command time start (by trivial) words
  · by_cases hin : contains (ascii "in") command
    · simp only [hat, hin, if_true, or_true, forall_const]
      exact reminder_time_fits_iff env command time start (by trivial) words
    · refine iff_of_true ?_ fun h => absurd h (not_or.2 ⟨hat, hin⟩)
      simp only [hat, hin]
      trivial

theorem reminder_words_fit_iff (command : List UInt8) (words : List (Nat × List UInt8)) :
    (finalReply env .reminderQueueFull
      (wordLoop (reminderRound env command) 0 ⟨false, 0, 0, .nothing⟩ words)).Fits ↔
        ReminderWordsFit env command words := by
  match words with
  | (_, remind) :: (_, me) :: (_, preposition) :: (start, time) :: words =>
      rw [word_loop_test_iff env rfl (by trivial), word_loop_test_iff env rfl (by trivial),
        reminder_preposition_fits_iff, ReminderWordsFit]
  | [] | [_] | [_, _] | [_, _, _] =>
      refine iff_of_true ?_ trivial
      exact word_loop_fits env (by trivial) (reminder_head_fits env command) (by trivial) (by simp)

theorem schedule_reminder_fits_iff (command : List UInt8) :
    (cmdScheduleReminder env command).Fits ↔
      (contains (cmdOf .actionSetReminder) command →
        ReminderWordsFit env command (splitWords 0 [] command)) := by
  rw [← reminder_words_fit_iff env]
  exact checked_reply_fits_iff env

end OpenQti.Chat
