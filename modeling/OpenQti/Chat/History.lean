import OpenQti.Chat.Replies
import OpenQti.Lib.Loop
import OpenQti.Lib.Run

/-!
# The command history

`parse_command` enters the number of every command into an array, from the start again when 1023
have been entered. The answer to `get history` lists the entries up to the current position. The
position has 16 bits and the variable of that loop has 8, so the loop does not end for positions
above 255. `history_answered_iff` says for which sequences of commands all answers are given, and
what the last one lists.
-/

namespace OpenQti.Chat

open Loop Machine Text

/-! ## The array -/

/-- `cmd_runtime`, as far as the history goes. -/
structure CmdRuntime where
  cmdHistory : Nat → UInt8
  cmdPosition : Nat

/-- The state at start-up. -/
def CmdRuntime.zero : CmdRuntime := ⟨fun _ => 0, 0⟩

/-- `add_to_history(command_id)`. -/
def addToHistory (s : CmdRuntime) (commandId : UInt8) : CmdRuntime :=
  let position := if s.cmdPosition ≥ 1023 then 0 else s.cmdPosition
  ⟨Function.update s.cmdHistory position commandId, position + 1⟩

/-- A round of the loop of `CMD_ID_GET_HISTORY`, on `i` and the text. -/
def historyBody (s : CmdRuntime) :
    UInt8 × List UInt8 → Round (UInt8 × List UInt8) (List UInt8)
  | (i, text) =>
      if i.toNat < s.cmdPosition then
        .again (i + 1,
          if text.length < Sms.maxMessageSize then
            text ++ sprintf "%i " [decimal (s.cmdHistory i.toNat).toNat]
          else text)
      else .leave text

/-! ## The commands -/

/-- A message to the modem, and what the stack holds when it is looked up. -/
structure ChatCommand where
  text : List UInt8
  stack : Nat → UInt8

/-- The command that is found. -/
def ChatCommand.found (command : ChatCommand) : Option CommandId :=
  findCommand command.stack command.text

/-- The number that is entered; that of no command is `(uint8_t)-1`. -/
def ChatCommand.number (command : ChatCommand) : UInt8 :=
  match command.found with
  | some id => UInt8.ofNat id.ctorIdx
  | none => 255

/-- The command is answered. Only the loop of `get history` may not end. -/
def Answered (s : CmdRuntime) (command : ChatCommand) : Prop :=
  command.found = some .getHistory → Terminates (historyBody s) (0, [])

/-- What a command that is answered leaves of the history. -/
def historyStep (s : CmdRuntime) (command : ChatCommand) : Except Empty CmdRuntime :=
  .ok (addToHistory s command.number)

/-! ## The property -/

/-- After these commands `get history` is answered, with a text that lists the numbers of the last
commands, as many as the position says. -/
def HistoryAnswered (commands : List ChatCommand) : Prop :=
  ∃ s text, Run historyStep Answered .zero commands s ∧ Returns (historyBody s) (0, []) text ∧
    s.cmdPosition ≤ 1023 ∧
    ∃ written, written <:+ commands.map ChatCommand.number ∧ written.length = s.cmdPosition ∧
      text = historyLoop [] written

/-! ## The loop -/

variable {s : CmdRuntime} {text : List UInt8} {commands : List ChatCommand}

/-- The entries from an index on. -/
def entriesFrom (s : CmdRuntime) (i : Nat) : List UInt8 :=
  (List.range' i (s.cmdPosition - i)).map s.cmdHistory

theorem entries_from_of_lt {i : Nat} (h : i < s.cmdPosition) :
    entriesFrom s i = s.cmdHistory i :: entriesFrom s (i + 1) := by
  have hlength : s.cmdPosition - i = s.cmdPosition - (i + 1) + 1 := by omega
  rw [entriesFrom, hlength, List.range'_succ, List.map_cons, entriesFrom]

/-- The loop ends if its variable gets to the position. -/
theorem history_returns (h : s.cmdPosition ≤ 255) (i : UInt8) (text : List UInt8) :
    Returns (historyBody s) (i, text) (historyLoop text (entriesFrom s i.toNat)) := by
  generalize hleft : s.cmdPosition - i.toNat = left
  induction left generalizing i text with
  | zero =>
      have hend : ¬ i.toNat < s.cmdPosition := by omega
      have hentries : entriesFrom s i.toNat = [] := by simp [entriesFrom, hleft]
      have hbody : historyBody s (i, text) = .leave text := by simp [historyBody, hend]
      rw [returns_leave hbody, hentries, historyLoop]
  | succ left ih =>
      have hinside : i.toNat < s.cmdPosition := by omega
      have hnext : (i + 1).toNat = i.toNat + 1 := by
        rw [UInt8.toNat_add, UInt8.toNat_one]
        omega
      have hbody : historyBody s (i, text) = .again (i + 1,
          if text.length < Sms.maxMessageSize then
            text ++ sprintf "%i " [decimal (s.cmdHistory i.toNat).toNat]
          else text) := by simp [historyBody, hinside]
      rw [returns_again hbody, entries_from_of_lt hinside, historyLoop, ← hnext]
      split_ifs
      · exact ih _ _ (by omega)
      · exact ih _ _ (by omega)

/-- The loop does not end if its variable never gets to the position. -/
theorem history_loops (h : 255 < s.cmdPosition) (fuel : Nat) (i : UInt8) (text : List UInt8) :
    run (historyBody s) fuel (i, text) = none := by
  induction fuel generalizing i text with
  | zero => rfl
  | succ fuel ih =>
      have hinside : i.toNat < s.cmdPosition := by
        have hbyte := i.toNat_lt
        omega
      rw [run, historyBody, if_pos hinside]
      exact ih _ _

theorem history_terminates_iff :
    Terminates (historyBody s) (0, []) ↔ s.cmdPosition ≤ 255 := by
  constructor
  · rintro ⟨text, fuel, hrun⟩
    by_contra hlong
    rw [history_loops (by omega)] at hrun
    cases hrun
  · intro h
    exact ⟨_, history_returns h 0 []⟩

theorem entries_from_zero (s : CmdRuntime) :
    entriesFrom s 0 = (List.range s.cmdPosition).map s.cmdHistory := by
  rw [entriesFrom, Nat.sub_zero, List.range_eq_range']

/-- The loop gives the answer of `historyReplies`, and there is none if it does not end. -/
theorem history_returns_iff (env : ChatEnv) :
    Returns (historyBody ⟨env.history, env.cmdPosition⟩) (0, []) text ↔
      historyReplies env = [text] := by
  unfold historyReplies
  split_ifs with hshort
  · have hreturns := history_returns (s := ⟨env.history, env.cmdPosition⟩) hshort 0 []
    rw [UInt8.toNat_zero, entries_from_zero] at hreturns
    rw [List.singleton_inj]
    exact ⟨fun h => hreturns.unique h, fun h => h ▸ hreturns⟩
  · refine iff_of_false (fun h => hshort ?_) (by simp)
    exact history_terminates_iff.1 ⟨text, h⟩

/-! ## The position -/

/-- The position after `n` commands. -/
def positionAfter : Nat → Nat
  | 0 => 0
  | n + 1 => n % 1023 + 1

theorem position_after_le_iff (n : Nat) :
    positionAfter n ≤ 255 ↔ n = 0 ∨ (n - 1) % 1023 < 255 := by
  cases n with
  | zero => simp [positionAfter]
  | succ n =>
      rw [positionAfter, Nat.add_sub_cancel]
      omega

theorem position_after_succ (n : Nat) :
    positionAfter (n + 1) = (if positionAfter n ≥ 1023 then 0 else positionAfter n) + 1 := by
  cases n with
  | zero => rfl
  | succ n =>
      have hbefore : positionAfter (n + 1) = n % 1023 + 1 := rfl
      have hafter : positionAfter (n + 1 + 1) = (n + 1) % 1023 + 1 := rfl
      rw [hafter, hbefore]
      split_ifs <;> omega

/-- The history after these commands. -/
def entered (commands : List ChatCommand) : CmdRuntime :=
  commands.foldl (fun s command => addToHistory s command.number) .zero

theorem entered_concat (commands : List ChatCommand) (command : ChatCommand) :
    entered (commands ++ [command]) = addToHistory (entered commands) command.number := by
  simp [entered]

theorem position_entered (commands : List ChatCommand) :
    (entered commands).cmdPosition = positionAfter commands.length := by
  induction commands using List.reverseRecOn with
  | nil => rfl
  | append_singleton commands command ih =>
      rw [entered_concat, addToHistory, ih, List.length_append, List.length_singleton,
        position_after_succ]

/-- The entries before the position are the numbers of the last commands. -/
theorem entries_entered (commands : List ChatCommand) :
    entriesFrom (entered commands) 0 <:+ commands.map ChatCommand.number := by
  rw [entries_from_zero]
  induction commands using List.reverseRecOn with
  | nil => exact List.nil_suffix
  | append_singleton commands command ih =>
      simp only [entered_concat, addToHistory, List.map_append, List.range_succ, List.map_cons,
        List.map_nil, Function.update_self]
      rw [List.suffix_append_self_iff]
      split_ifs with hfull
      · exact List.nil_suffix
      · have hkept : (List.range (entered commands).cmdPosition).map
            (Function.update (entered commands).cmdHistory (entered commands).cmdPosition
              command.number) =
            (List.range (entered commands).cmdPosition).map (entered commands).cmdHistory := by
          refine List.map_congr_left fun i hi => ?_
          exact Function.update_of_ne (Nat.ne_of_lt (List.mem_range.1 hi)) _ _
        rw [hkept]
        exact ih

/-! ## Sequences of commands -/

theorem Answered.iff_position (commands : List ChatCommand) (command : ChatCommand) :
    Answered (entered commands) command ↔
      (command.found = some .getHistory → positionAfter commands.length ≤ 255) := by
  rw [Answered, history_terminates_iff, position_entered]

/-- The history that a run leaves. -/
theorem answered_run_entered (h : Run historyStep Answered .zero commands s) :
    s = entered commands := by
  induction h with
  | nil => rfl
  | snoc _ _ hstep ih =>
      cases hstep
      rw [entered_concat, ih]

/-- In a run every `get history` finds a position that the loop gets to. -/
theorem answered_run_positions (h : Run historyStep Answered .zero commands s) :
    ∀ k command, commands[k]? = some command → command.found = some .getHistory →
      positionAfter k ≤ 255 := by
  induction h with
  | nil =>
      intro k command hcommand
      simp at hcommand
  | @snoc state next actions action hrun hanswered _ ih =>
      intro k command hcommand hfound
      rw [answered_run_entered hrun, Answered.iff_position] at hanswered
      rcases Nat.lt_trichotomy k actions.length with hlt | rfl | hgt
      · rw [List.getElem?_append_left hlt] at hcommand
        exact ih k command hcommand hfound
      · rw [List.getElem?_concat_length, Option.some.injEq] at hcommand
        rw [← hcommand] at hfound
        exact hanswered hfound
      · rw [List.getElem?_eq_none (by simp; omega)] at hcommand
        cases hcommand

/-- All commands are answered if every `get history` finds such a position. -/
theorem answered_run_of_positions
    (h : ∀ k command, commands[k]? = some command → command.found = some .getHistory →
      positionAfter k ≤ 255) :
    Run historyStep Answered .zero commands (entered commands) := by
  induction commands using List.reverseRecOn with
  | nil => exact .nil _
  | append_singleton commands command ih =>
      have hbefore : Run historyStep Answered .zero commands (entered commands) := by
        refine ih fun k earlier hearlier => ?_
        have hlt := (List.getElem?_eq_some_iff.1 hearlier).1
        exact h k earlier (by rwa [List.getElem?_append_left hlt])
      refine .snoc hbefore ((Answered.iff_position commands command).2 ?_) ?_
      · exact h commands.length command List.getElem?_concat_length
      · rw [entered_concat]
        rfl

/-- For every sequence of commands, all of them and a `get history` after them are answered, with
the numbers of the last commands, if and only if every `get history`, the last one included, comes
after `k` commands such that `k = 0` or `(k - 1) % 1023 < 255`. -/
theorem history_answered_iff (commands : List ChatCommand) :
    HistoryAnswered commands ↔
      ∀ k, (k = commands.length ∨
          ∃ command, commands[k]? = some command ∧ command.found = some .getHistory) →
        k = 0 ∨ (k - 1) % 1023 < 255 := by
  simp only [← position_after_le_iff]
  constructor
  · rintro ⟨s, text, hrun, hreturns, -⟩ k (rfl | ⟨command, hcommand, hfound⟩)
    · rw [← position_entered, ← answered_run_entered hrun]
      exact history_terminates_iff.1 ⟨text, hreturns⟩
    · exact answered_run_positions hrun k command hcommand hfound
  · intro h
    have hposition : (entered commands).cmdPosition ≤ 255 := by
      rw [position_entered]
      exact h commands.length (.inl rfl)
    refine ⟨entered commands, _, ?_, history_returns hposition 0 [], by omega, _,
      entries_entered commands, by simp [entriesFrom], rfl⟩
    exact answered_run_of_positions fun k command hcommand hfound =>
      h k (.inr ⟨command, hcommand, hfound⟩)

/-- After 256 commands `get history` does not end. -/
theorem history_after_256_commands : ¬ ∀ commands, HistoryAnswered commands := by
  intro h
  let commands : List ChatCommand := List.replicate 256 ⟨ascii "name", fun _ => 0⟩
  obtain ⟨s, text, hrun, hreturns, -⟩ := h commands
  have hposition := history_terminates_iff.1 ⟨text, hreturns⟩
  rw [answered_run_entered hrun, position_entered, List.length_replicate] at hposition
  exact absurd hposition (by decide)

end OpenQti.Chat
