import OpenQti.Chat.LetterCase
import OpenQti.Chat.QueueWrites
import OpenQti.Chat.StackDigits
import OpenQti.Scheduler.TimeCommands

/-!
# The times that are scheduled

The commands for a reminder, a wake-up and the do-not-disturb mode take a time as hours, or as hours
and minutes with a colon. A word that does not begin with a number is taken for 0, one that is
missing leaves the bytes of the stack in the task, and so do the digits that happen to stand behind
the two bytes of `get_int_from_str`: no time with a colon is safe from them. The word before the
time is only searched for `at`, and the whole command for `in`. Hours and minutes that no day has
are refused if one of them is wrong, not if both are, and without minutes by one function only.
`valid_times_iff` says which commands are not affected by any of this.
-/

namespace OpenQti.Scheduler

open Chat Text

/-! ## The property -/

/-- Digits and nothing else. -/
def Number (word : List UInt8) : Prop := word ≠ [] ∧ ∀ c ∈ word, isDigit c = true

/-- The word is `H` or `H:M`, with these hours and minutes. -/
def TimeWord (word : List UInt8) (hh mm : UInt8) : Prop :=
  (Number word ∧ digits word = hh.toNat ∧ mm = 0) ∨
    ∃ hours minutes, word = hours ++ 58 :: minutes ∧ Number hours ∧ Number minutes ∧
      digits hours = hh.toNat ∧ digits minutes = mm.toNat

/-- What the word before a time says. -/
def atOrIn (word : List UInt8) : Option TimeMode :=
  if word = ascii "at" then some .timeAt
  else if word = ascii "in" then some .timeCountdown
  else none

def TimeCommand.mode? : TimeCommand → List UInt8 → Option TimeMode
  | .reminder, word => atOrIn word
  | .wakeup, word => atOrIn word
  | .suspend, word => if word = ascii "for" then some .timeCountdown else none

/-- The words of a command. -/
def textWords (command : List UInt8) : List (List UInt8) := words (· = 32) command

/-- The command says this time, and it is one that a clock shows if it is a time of the day. -/
structure SaysTime (kind : TimeCommand) (command : List UInt8) (time : ExecutionTime) : Prop where
  word : ∃ word, (textWords command)[kind.place]? = some word ∧ TimeWord word time.hh time.mm
  mode : ∃ word, (textWords command)[kind.place - 1]? = some word ∧
    kind.mode? word = some time.mode
  timeOfDay : time.mode = .timeAt → time.hh ≤ 23 ∧ time.mm ≤ 59

/-- In whatever state the command comes, and whatever is left on the stack, a task that is added has
the time that the command says. -/
def OnlyValidTimes (kind : TimeCommand) (c : CommandText) : Prop :=
  ∀ s env clock stack taskId next, kind.run s env clock stack c.text = (some taskId, next) →
    SaysTime kind c.text (next.tasks taskId).time

/-! ## The condition -/

/-- A word of a command without the spaces before it. -/
def trim (word : List UInt8) : List UInt8 := word.dropWhile (· = 32)

/-- The word before the time is a known one, and the time is a number of hours. -/
structure PlainHours (kind : TimeCommand) (preposition time : List UInt8) : Prop where
  mode : (kind.mode? (trim preposition)).isSome
  number : Number (trim time)
  timeOfDay : kind.countdown preposition = false → digits (trim time) ≤ 23

/-- If the command comes as far as its time, that is there, and is refused or a number of hours. -/
def HoursOnly (kind : TimeCommand) (command : List UInt8) : Prop :=
  kind.Passes command → ∃ preposition time,
    (splitWords 0 [] command)[kind.place - 1]? = some preposition ∧
      (splitWords 0 [] command)[kind.place]? = some time ∧
        (kind.Refuses (kind.countdown preposition.2) time.2 ∨
          PlainHours kind preposition.2 time.2)

/-! ## The words -/

/-- The spaces that belong to a word stand before it. -/
theorem trim_append {blanks run : List UInt8} (hblanks : ∀ b ∈ blanks, b = 32)
    (hrun : ∀ b ∈ run, b ≠ 32) : trim (blanks ++ run) = run := by
  rw [trim, List.dropWhile_append_of_pos (by simpa using hblanks)]
  cases run with
  | nil => rfl
  | cons c run => rw [List.dropWhile_cons_of_neg (by simpa using hrun c List.mem_cons_self)]

theorem run_eq_token_iff {blanks run : List UInt8} (hblanks : ∀ b ∈ blanks, b = 32)
    (hrun : ∀ b ∈ run, b ≠ 32) (hnonempty : run ≠ []) (start : Nat) (token : List UInt8) :
    some run = some token ↔
      token ≠ [] ∧ ∃ word, some (start, blanks ++ run) = some word ∧ trim word.2 = token := by
  have htrim := trim_append hblanks hrun
  constructor
  · intro htoken
    cases htoken
    exact ⟨hnonempty, _, rfl, htrim⟩
  · rintro ⟨-, word, hword, rfl⟩
    cases hword
    rw [htrim]

/-- The words that the loops see, with the spaces before them. Only the last one can be empty. -/
theorem text_words_get_iff {blanks run : List UInt8} (hblanks : ∀ b ∈ blanks, b = 32)
    (hrun : ∀ b ∈ run, b ≠ 32) (text : List UInt8) (start k : Nat) (token : List UInt8) :
    (textWords (run ++ text))[k]? = some token ↔
      token ≠ [] ∧ ∃ word, (splitWords start (blanks ++ run) text)[k]? = some word ∧
        trim word.2 = token := by
  -- The word that is being read is `blanks ++ run`, with no space in `run`.
  induction text generalizing blanks run start k with
  | nil =>
      rw [splitWords, List.append_nil, textWords, words_of_not_mem (by simpa using hrun)]
      split
      · next hempty =>
          subst hempty
          refine iff_of_false (by simp) ?_
          rintro ⟨hnonempty, word, hword, rfl⟩
          cases k with
          | zero =>
              cases hword
              exact hnonempty (trim_append hblanks hrun)
          | succ k => cases hword
      · next hnonempty =>
          cases k with
          | zero => exact run_eq_token_iff hblanks hrun hnonempty start token
          | succ k => simp
  | cons c text ih =>
      rw [splitWords]
      by_cases hc : c = 32
      · subst hc
        rw [textWords, words_append_cons (by simpa using hrun) (by rfl)]
        by_cases hempty : run = []
        · subst hempty
          have hspaces : ¬ (blanks ++ [] ≠ [] ∧ (blanks ++ []).getLast? ≠ some 32) := by
            rintro ⟨hnonempty, hlast⟩
            rw [List.append_nil] at hnonempty hlast
            rw [List.getLast?_eq_some_getLast hnonempty] at hlast
            exact hlast (congrArg some (hblanks _ (List.getLast_mem hnonempty)))
          have hmore : ∀ b ∈ blanks ++ [32], b = 32 := by
            intro b hb
            rcases List.mem_append.1 hb with hb | hb
            · exact hblanks b hb
            · exact List.mem_singleton.1 hb
          rw [if_pos rfl, if_neg fun h => hspaces h.2, List.append_nil]
          have hrest := ih hmore hrun start k
          rwa [List.append_nil] at hrest
        · have hlast : (blanks ++ run).getLast? ≠ some 32 := by
            rw [List.getLast?_append_of_ne_nil _ hempty, List.getLast?_eq_some_getLast hempty]
            exact fun heq => hrun _ (List.getLast_mem hempty) (Option.some.inj heq)
          rw [if_neg hempty, if_pos ⟨rfl, by simp [hempty], hlast⟩]
          cases k with
          | zero => exact run_eq_token_iff hblanks hrun hempty start token
          | succ k =>
              have hnone : ∀ b ∈ ([] : List UInt8), b = 32 := List.forall_mem_nil _
              have hrun : ∀ b ∈ ([] : List UInt8), b ≠ 32 := List.forall_mem_nil _
              exact ih hnone hrun (start + (blanks ++ run).length + 1) k
      · have hmore : ∀ b ∈ run ++ [c], b ≠ 32 := by
          intro b hb
          rcases List.mem_append.1 hb with hb | hb
          · exact hrun b hb
          · exact List.mem_singleton.1 hb ▸ hc
        rw [if_neg fun h => hc h.1, List.append_cons, List.append_assoc blanks]
        exact ih hblanks hmore start k

/-! ## The times that are read -/

section Times

variable {time : List UInt8} {colon : Nat} {hh mm : UInt8} {kind : TimeCommand} {countdown : Bool}

theorem find_colon_none_iff : findColon time = none ↔ 58 ∉ time := by
  have hcontains : contains [58] time = true ↔ 58 ∈ time := by
    rw [contains_iff, List.singleton_infix_iff]
  rw [← hcontains, contains, Bool.not_eq_true, Option.isSome_eq_false_iff,
    Option.isNone_iff_eq_none]
  rfl

theorem find_colon_append {front : List UInt8} (h : 58 ∉ front) (rest : List UInt8) :
    findColon (front ++ 58 :: rest) = some front.length := by
  induction front with
  | nil => rfl
  | cons c front ih =>
      rw [List.mem_cons, not_or] at h
      have hother : ¬ [58].isPrefixOf (c :: (front ++ 58 :: rest)) = true := by
        simpa [List.isPrefixOf] using h.1
      have hrest := ih h.2
      rw [findColon] at hrest
      rw [findColon, List.cons_append, strstr, if_neg hother, hrest]
      rfl

theorem colon_not_mem_number {word : List UInt8} (h : Number word) : 58 ∉ word := by
  intro hcolon
  have hdigit := h.2 58 hcolon
  cases hdigit

theorem time_eq (time : List UInt8) :
    ∃ blanks, (∀ b ∈ blanks, b = 32) ∧ time = blanks ++ trim time := by
  refine ⟨time.takeWhile (· = 32), fun b hb => ?_, ?_⟩
  · simpa using List.mem_takeWhile_imp hb
  · rw [trim, List.takeWhile_append_dropWhile]

/-- What stands behind the colon of a time. -/
theorem TimeWord.minutes (h : TimeWord (trim time) hh mm) (hcolon : findColon time = some colon) :
    ∃ minutes, time.drop colon = 58 :: minutes ∧ Number minutes ∧ digits minutes = mm.toNat := by
  obtain ⟨blanks, hblanks, htime⟩ := time_eq time
  have hfront : 58 ∉ blanks := by
    intro hmem
    have hspace := hblanks 58 hmem
    cases hspace
  rcases h with ⟨hnumber, -, -⟩ | ⟨hours, minutes, hword, hhours, hminutes, -, hvalue⟩
  · have hnone : findColon time = none := by
      rw [find_colon_none_iff, htime, List.mem_append, not_or]
      exact ⟨hfront, colon_not_mem_number hnumber⟩
    rw [hnone] at hcolon
    cases hcolon
  · have hfirst : 58 ∉ blanks ++ hours := by
      rw [List.mem_append, not_or]
      exact ⟨hfront, colon_not_mem_number hhours⟩
    rw [hword, ← List.append_assoc] at htime
    rw [htime, find_colon_append hfirst] at hcolon
    cases hcolon
    refine ⟨minutes, ?_, hminutes, hvalue⟩
    rw [htime, List.drop_left]

/-- Some bytes on the stack make a time with a colon one that is taken. -/
theorem exists_taken (time minutes : List UInt8) (countdown : Bool) :
    ∃ tail, BothOrNeither countdown (byteRead tail time 0) (byteRead tail minutes 1) := by
  simp only [both_or_neither_iff]
  rcases get_int_from_str_cases time 0 with hhours | hhours
  · have hnone := byte_read_zero hhours
    rcases get_int_from_str_cases minutes 1 with hminutes | hminutes
    · exact ⟨[], fun _ => by simp [hnone, byte_read_zero hminutes]⟩
    · obtain ⟨tail, hzero⟩ := ReadsOn.zero hminutes
      exact ⟨tail, fun _ => by simp [hnone, hzero]⟩
  · rcases get_int_from_str_cases minutes 1 with hminutes | hminutes
    · obtain ⟨tail, hzero⟩ := ReadsOn.zero hhours
      exact ⟨tail, fun _ => by simp [hzero, byte_read_zero hminutes]⟩
    · have hlate := ReadsOn.out_of_range hhours
      have hmany := ReadsOn.out_of_range hminutes
      exact ⟨[48, 48, 48, 48, 48, 54, 52], fun _ => by omega⟩

/-- With a colon, there are bytes on the stack with which a time is taken and read wrong. -/
theorem colon_time_invalid (hcolon : findColon time = some colon) :
    ¬ ∀ tail, BothOrNeither countdown (byteRead tail time 0) (byteRead tail (time.drop colon) 1) →
      TimeWord (trim time) (byteRead tail time 0) (byteRead tail (time.drop colon) 1) ∧
        (countdown = false → (byteRead tail time 0).toNat ≤ 23) := by
  intro hvalid
  obtain ⟨tail, htaken⟩ := exists_taken time (time.drop colon) countdown
  obtain ⟨minutes, hdrop, hnumber, -⟩ := (hvalid tail htaken).1.minutes hcolon
  have hdigit : isDigit ((time.drop colon).getD 1 0) = true := by
    obtain ⟨c, rest, rfl⟩ := List.exists_cons_of_ne_nil hnumber.1
    rw [hdrop]
    exact hnumber.2 c List.mem_cons_self
  have hreads := get_int_from_str_digit hdigit
  -- The minutes cannot be 0 and 1, so both cannot be taken.
  have hbound : ¬ ∀ tail, (byteRead tail (time.drop colon) 1).toNat ≤ 1 →
      BothOrNeither countdown (byteRead tail time 0) (byteRead tail (time.drop colon) 1) := by
    intro htaken
    have hminutes : ∀ tail, (byteRead tail (time.drop colon) 1).toNat ≤ 1 →
        digits minutes = (byteRead tail (time.drop colon) 1).toNat := by
      intro tail hle
      obtain ⟨same, hsame, -, hvalue⟩ := (hvalid tail (htaken tail hle)).1.minutes hcolon
      rw [hdrop] at hsame
      cases hsame
      exact hvalue
    obtain ⟨zero, hzero⟩ := ReadsOn.zero (.inl hreads)
    obtain ⟨one, hone⟩ := hreads.one
    have hfirst := hminutes zero (by omega)
    have hsecond := hminutes one (by omega)
    omega
  cases countdown with
  | true => exact hbound fun _ _ h => by cases h
  | false =>
      rcases get_int_from_str_cases time 0 with hhours | hhours
      · refine hbound fun tail hle => both_or_neither_iff.2 fun _ => ?_
        have hzero := byte_read_zero hhours tail
        omega
      · have hlate := ReadsOn.out_of_range hhours
        have hmany := ReadsOn.out_of_range (.inl hreads)
        have htaken := both_or_neither_iff.2 fun _ : false = false => iff_of_true
          (show 23 < (byteRead [48, 48, 48, 48, 48, 54, 52] time 0).toNat by omega)
          (show 59 < (byteRead [48, 48, 48, 48, 48, 54, 52] (time.drop colon) 1).toNat by omega)
        have hrange := (hvalid _ htaken).2 rfl
        omega

theorem read_time_colon (env : ChatEnv) (h : findColon time = some colon) :
    readTime env time =
      (byteRead env.numberTail time 0, byteRead env.numberTail (time.drop colon) 1) := by
  rw [readTime, h]
  rfl

theorem read_time_hours (env : ChatEnv) (h : findColon time = none) :
    readTime env time = (UInt8.ofInt (atoi time), 0) := by
  rw [readTime, h]

/-- A number without a colon. -/
theorem find_colon_number (h : Number (trim time)) : findColon time = none := by
  obtain ⟨blanks, hblanks, htime⟩ := time_eq time
  rw [find_colon_none_iff, htime, List.mem_append, not_or]
  refine ⟨fun hmem => ?_, colon_not_mem_number h⟩
  have hspace := hblanks 58 hmem
  cases hspace

/-- A number of one or two digits is read as it is. -/
theorem number_read (h : Number (trim time)) (hshort : time.length ≤ 2) :
    (UInt8.ofInt (atoi time)).toNat = digits (trim time) := by
  obtain ⟨blanks, hblanks, htime⟩ := time_eq time
  have hspaces : ∀ b ∈ blanks, isSpace b = true := by
    intro b hb
    rw [hblanks b hb]
    rfl
  have htrimmed : (trim time).length ≤ 2 := (List.dropWhile_sublist _).length_le.trans hshort
  have hlt := digits_lt_hundred htrimmed
  have hvalue : atoi time = digits (trim time) := by
    rw [htime, atoi_append hspaces, ← htime]
    obtain ⟨c, rest, hword⟩ := List.exists_cons_of_ne_nil h.1
    rw [hword] at hlt ⊢
    rw [atoi_of_digit (h.2 c (hword ▸ List.mem_cons_self))]
    omega
  have hbyte := to_nat_of_int (atoi time)
  omega

/-- The times that are never read wrong. -/
theorem time_valid_iff (kind : TimeCommand) (preposition time : List UInt8) :
    (∀ env, kind.Takes env (kind.countdown preposition) time →
      (kind.mode? (trim preposition)).isSome ∧
        TimeWord (trim time) (readTime env time).1 (readTime env time).2 ∧
          (kind.countdown preposition = false →
            (readTime env time).1 ≤ 23 ∧ (readTime env time).2 ≤ 59)) ↔
      kind.Refuses (kind.countdown preposition) time ∨ PlainHours kind preposition time := by
  constructor
  · intro hvalid
    by_cases hrefuses : kind.Refuses (kind.countdown preposition) time
    · exact .inl hrefuses
    cases hcolon : findColon time with
    | none =>
        have htakes : kind.Takes freshEnv (kind.countdown preposition) time :=
          ⟨hrefuses, fun hsome => absurd hcolon hsome⟩
        obtain ⟨hmode, hword, hrange⟩ := hvalid freshEnv htakes
        rcases hword with ⟨hnumber, hvalue, -⟩ | ⟨hours, minutes, hword, -⟩
        · refine .inr ⟨hmode, hnumber, fun hat => ?_⟩
          rw [hvalue]
          exact (hrange hat).1
        · have hmem : 58 ∈ trim time := by
            rw [hword]
            exact List.mem_append_right _ List.mem_cons_self
          exact absurd ((List.dropWhile_sublist _).mem hmem) (find_colon_none_iff.1 hcolon)
    | some colon =>
        refine (colon_time_invalid hcolon
          fun tail (htaken : BothOrNeither (kind.countdown preposition) _ _) => ?_).elim
        have hread := read_time_colon { freshEnv with numberTail := tail } hcolon
        have htime := hvalid { freshEnv with numberTail := tail }
          ⟨hrefuses, fun _ => by rw [hread]; exact htaken⟩
        rw [hread] at htime
        exact ⟨htime.2.1, fun hat => (htime.2.2 hat).1⟩
  · rintro (hrefuses | ⟨hmode, hnumber, hrange⟩) env htakes
    · exact absurd hrefuses htakes.1
    · have hcolon := find_colon_number hnumber
      have hshort : time.length ≤ 2 := by
        by_contra hlong
        refine htakes.1 ?_
        rw [TimeCommand.Refuses, hcolon]
        exact .inl (Nat.lt_of_not_le hlong)
      have hread := number_read hnumber hshort
      have hnone : (0 : UInt8) ≤ 59 := by decide
      rw [read_time_hours env hcolon]
      refine ⟨hmode, .inl ⟨hnumber, hread.symm, rfl⟩, fun hat => ⟨?_, hnone⟩⟩
      rw [UInt8.le_iff_toNat_le, hread]
      exact hrange hat

/-- A word with spaces before it has `at` in it, or is `in`. -/
theorem contains_at_of_trim {preposition : List UInt8} (h : trim preposition = ascii "at") :
    contains (ascii "at") preposition = true := by
  obtain ⟨blanks, -, hword⟩ := time_eq preposition
  rw [contains_iff, hword, h]
  exact (List.suffix_append blanks (ascii "at")).isInfix

theorem not_contains_at_of_trim {preposition : List UInt8} (h : trim preposition = ascii "in") :
    contains (ascii "at") preposition = false := by
  obtain ⟨blanks, hblanks, hword⟩ := time_eq preposition
  rw [Bool.eq_false_iff, ne_eq, contains_iff]
  intro hinfix
  have hmem : 97 ∈ preposition := hinfix.subset (List.mem_of_mem_head? rfl)
  rw [hword, h, List.mem_append] at hmem
  rcases hmem with hmem | hmem
  · have hspace := hblanks 97 hmem
    cases hspace
  · revert hmem
    decide

theorem at_or_in_some {preposition : List UInt8} (h : (atOrIn (trim preposition)).isSome) :
    atOrIn (trim preposition) = some (modeOf (!contains (ascii "at") preposition)) := by
  unfold atOrIn at h ⊢
  split_ifs at h ⊢ with hat hin
  · rw [contains_at_of_trim hat]
    rfl
  · rw [not_contains_at_of_trim hin]
    rfl
  · cases h

/-- The mode that is taken from a known word is the one that it says. -/
theorem mode_some_iff (kind : TimeCommand) (preposition : List UInt8) :
    (kind.mode? (trim preposition)).isSome ↔
      kind.mode? (trim preposition) = some (modeOf (kind.countdown preposition)) := by
  refine ⟨fun h => ?_, fun h => by rw [h]; rfl⟩
  cases kind with
  | reminder => exact at_or_in_some h
  | wakeup => exact at_or_in_some h
  | suspend =>
      rw [TimeCommand.mode?] at h ⊢
      split_ifs at h ⊢
      · rfl
      · cases h

/-- A time and the word before it are not empty. -/
theorem TimeWord.ne_nil {word : List UInt8} (h : TimeWord word hh mm) : word ≠ [] := by
  rcases h with ⟨hnumber, -⟩ | ⟨hours, minutes, rfl, -⟩
  · exact hnumber.1
  · simp

theorem mode_ne_nil {word : List UInt8} {mode : TimeMode} (h : kind.mode? word = some mode) :
    word ≠ [] := by
  rintro rfl
  cases kind with
  | reminder => cases h
  | wakeup => cases h
  | suspend => cases h

end Times

/-! ## The main result -/

section Main

variable {kind : TimeCommand} {command : List UInt8} {countdown : Bool} {hh mm : UInt8}

theorem command_word_iff (k : Nat) (token : List UInt8) :
    (textWords command)[k]? = some token ↔
      token ≠ [] ∧ ∃ word, (splitWords 0 [] command)[k]? = some word ∧ trim word.2 = token :=
  text_words_get_iff (List.forall_mem_nil _) (List.forall_mem_nil _) command 0 k token

/-- What a command says, for the words that the loops see. -/
theorem says_time_iff {preposition time : Nat × List UInt8} {task : Task}
    (hpreposition : (splitWords 0 [] command)[kind.place - 1]? = some preposition)
    (htime : (splitWords 0 [] command)[kind.place]? = some time)
    (htask : HasTime (kind.countdown preposition.2) hh mm task) :
    SaysTime kind command task.time ↔
      (kind.mode? (trim preposition.2)).isSome ∧ TimeWord (trim time.2) hh mm ∧
        (kind.countdown preposition.2 = false → hh ≤ 23 ∧ mm ≤ 59) := by
  have hat : task.time.mode = .timeAt ↔ kind.countdown preposition.2 = false := by
    rw [htask.mode, modeOf]
    cases kind.countdown preposition.2 <;> simp
  rw [mode_some_iff, ← htask.mode, ← hat, ← htask.hh, ← htask.mm]
  constructor
  · rintro ⟨⟨token, htoken, hword⟩, ⟨first, hfirst, hmode⟩, hrange⟩
    obtain ⟨-, word, hget, rfl⟩ := (command_word_iff _ _).1 htoken
    obtain ⟨-, word, hget', rfl⟩ := (command_word_iff _ _).1 hfirst
    rw [htime] at hget
    rw [hpreposition] at hget'
    cases hget
    cases hget'
    exact ⟨hmode, hword, hrange⟩
  · rintro ⟨hmode, hword, hrange⟩
    refine ⟨⟨_, (command_word_iff _ _).2 ⟨?_, _, htime, rfl⟩, hword⟩,
      ⟨_, (command_word_iff _ _).2 ⟨?_, _, hpreposition, rfl⟩, hmode⟩, hrange⟩
    · exact hword.ne_nil
    · exact mode_ne_nil hmode

/-- A loop that comes to its end leads to a task. -/
theorem OnlyValidTimes.says {c : CommandText} (h : OnlyValidTimes kind c)
    (hpasses : kind.Passes c.text) {env : ChatEnv} {stack : StackTime}
    (hsets : kind.Sets env stack (splitWords 0 [] c.text) countdown hh mm) :
    ∃ task, HasTime countdown hh mm task ∧ SaysTime kind c.text task.time := by
  have hends := (loop_ends_iff env c.text stack kind).2 ⟨hpasses.2, hsets⟩
  obtain ⟨next, hrun, htask⟩ := run_start_up hpasses.1 hends ⟨0, 0, fun _ _ _ => 0⟩
  exact ⟨next.tasks 0, htask, h _ _ _ _ _ _ hrun⟩

/-- A word that is missing would leave a task with what is on the stack. -/
theorem OnlyValidTimes.time_word {c : CommandText} (h : OnlyValidTimes kind c)
    (hpasses : kind.Passes c.text) : (splitWords 0 [] c.text)[kind.place]? ≠ none := by
  intro hnone
  have hsets : ∃ countdown,
      kind.Sets freshEnv ⟨0, 0⟩ (splitWords 0 [] c.text) countdown 0 0 := by
    unfold TimeCommand.Sets
    rw [hnone]
    cases (splitWords 0 [] c.text)[kind.place - 1]? with
    | none => exact ⟨_, rfl, rfl, rfl⟩
    | some preposition => exact ⟨_, rfl, rfl, rfl⟩
  obtain ⟨countdown, hsets⟩ := hsets
  obtain ⟨task, -, hsays⟩ := h.says hpasses hsets
  obtain ⟨token, htoken, -⟩ := hsays.word
  obtain ⟨-, word, hword, -⟩ := (command_word_iff _ _).1 htoken
  rw [hnone] at hword
  cases hword

/-- Only valid times are scheduled by the commands that give the time as a plain number of hours,
and by those that are turned away. -/
theorem valid_times_iff (kind : TimeCommand) (c : CommandText) :
    OnlyValidTimes kind c ↔ HoursOnly kind c.text := by
  constructor
  · intro hvalid hpasses
    obtain ⟨time, htime⟩ := Option.ne_none_iff_exists'.1 (hvalid.time_word hpasses)
    have hplace := (List.getElem?_eq_some_iff.1 htime).1
    obtain ⟨preposition, hpreposition⟩ : ∃ preposition,
        (splitWords 0 [] c.text)[kind.place - 1]? = some preposition :=
      ⟨_, List.getElem?_eq_getElem (by omega)⟩
    refine ⟨preposition, time, hpreposition, htime, ?_⟩
    refine (time_valid_iff kind preposition.2 time.2).1 fun env htakes => ?_
    have hsets : kind.Sets env ⟨0, 0⟩ (splitWords 0 [] c.text) (kind.countdown preposition.2)
        (readTime env time.2).1 (readTime env time.2).2 := by
      rw [TimeCommand.Sets, hpreposition, htime]
      exact ⟨htakes, rfl, rfl⟩
    obtain ⟨task, htask, hsays⟩ := hvalid.says hpasses hsets
    exact (says_time_iff hpreposition htime htask).1 hsays
  · intro hhours s env clock stack taskId next hrun
    obtain ⟨hcommand, countdown, hh, mm, hends, htask⟩ := run_added hrun
    obtain ⟨hwords, hsets⟩ := (loop_ends_iff env c.text stack kind).1 hends
    obtain ⟨preposition, time, hpreposition, htime, hsafe⟩ := hhours ⟨hcommand, hwords⟩
    rw [TimeCommand.Sets, hpreposition, htime] at hsets
    obtain ⟨htakes, rfl, hread⟩ := hsets
    have hvalid := (time_valid_iff kind preposition.2 time.2).2 hsafe env htakes
    rw [hread] at hvalid
    exact (says_time_iff hpreposition htime htask).2 hvalid

/-- `remind me at 99`. -/
def lateReminder : CommandText where
  text := ascii "remind me at 99"
  zero_free := by decide +kernel
  short := by decide +kernel

/-- An hour that no day has is scheduled. -/
theorem late_reminder_scheduled : ¬ ∀ kind c, OnlyValidTimes kind c := by
  intro hall
  have hcommand : contains (cmdOf TimeCommand.reminder.id) lateReminder.text = true := by
    decide +kernel
  have hends : EndsWith (TimeCommand.reminder.loop freshEnv lateReminder.text ⟨0, 0⟩) false 99 0 :=
    ⟨.nothing, by rfl⟩
  obtain ⟨next, hrun, htask⟩ := run_start_up hcommand hends ⟨0, 0, fun _ _ _ => 0⟩
  have hrange := (hall .reminder lateReminder _ _ _ _ _ _ hrun).timeOfDay htask.mode
  rw [htask.hh] at hrange
  exact absurd hrange.1 (by decide)

end Main

end OpenQti.Scheduler
