import Mathlib.Data.List.Nodup
import OpenQti.Chat.Replies

/-!
# Which command a text is taken for

`parse_command` compares a text with every entry of the table and keeps the last one that matches.
An entry that takes arguments matches if its word occurs anywhere, so a word that stands in the
arguments of a command can make it another one. `dispatched_iff` says when it does not.
-/

namespace OpenQti.Chat

open Text

/-- The loop of `parse_command` over the table: the last entry that matches. -/
theorem last_match {α β : Type*} (found : α → Bool) (value : α → β) (entries : List α) :
    entries.foldl (fun last entry => if found entry then some (value entry) else last) none =
      (entries.reverse.find? found).map value := by
  rw [List.foldl_eq_foldr_reverse]
  induction entries.reverse with
  | nil => rfl
  | cons entry entries ih =>
      rw [List.foldr_cons, ih, List.find?_cons]
      cases found entry with
      | true => rfl
      | false => rfl

/-- The ids of the table are all different. -/
theorem command_ids_nodup : (botCommands.map BotCommand.id).Nodup := by
  decide

/-- An entry that takes arguments stands in the table at its number. -/
theorem partial_place : ∀ entry ∈ botCommands, entry.isPartial = true →
    cmdOf entry.id = ascii entry.cmd := by
  simp only [botCommands, List.forall_mem_cons, List.not_mem_nil, false_implies, implies_true,
    and_true]
  repeat' apply And.intro
  all_goals
    intro hargs
    first | exact absurd hargs (by decide) | exact congrArg ascii rfl

/-- The entry stands behind another one in the table. -/
def Behind (entry later : BotCommand) : Prop :=
  ∃ before after, botCommands = before ++ entry :: after ∧ later ∈ after

/-- Entries with the same id are the same. -/
theorem entry_of_id {entry other : BotCommand} (hentry : entry ∈ botCommands)
    (hother : other ∈ botCommands) (hid : entry.id = other.id) : entry = other :=
  List.inj_on_of_nodup_map command_ids_nodup hentry hother hid

theorem Behind.ne {entry later : BotCommand} (h : Behind entry later) : later.id ≠ entry.id := by
  obtain ⟨before, after, hsplit, hlater⟩ := h
  have hnodup := command_ids_nodup
  rw [hsplit, List.map_append, List.map_cons] at hnodup
  have hentry := (List.nodup_cons.1 (List.nodup_append.1 hnodup).2.1).1
  intro hid
  exact hentry (hid ▸ List.mem_map_of_mem hlater)

theorem Behind.listed {entry later : BotCommand} (h : Behind entry later) :
    later ∈ botCommands := by
  obtain ⟨before, after, hsplit, hlater⟩ := h
  rw [hsplit]
  exact List.mem_append_right _ (List.mem_cons_of_mem _ hlater)

/-- The last entry of the table with some property, by its place. -/
theorem find_last_iff {found : BotCommand → Bool} {entry : BotCommand}
    (hlisted : entry ∈ botCommands) :
    botCommands.reverse.find? found = some entry ↔
      found entry = true ∧ ∀ later, Behind entry later → found later = false := by
  have hsplit : ∀ before after, botCommands = before ++ entry :: after →
      botCommands.reverse.find? found =
        (after.reverse.find? found).or ((entry :: before.reverse).find? found) := by
    intro before after hsplit
    rw [hsplit, List.reverse_append, List.reverse_cons, List.append_assoc, List.singleton_append,
      List.find?_append]
  constructor
  · intro h
    refine ⟨List.find?_some h, ?_⟩
    rintro later ⟨before, after, htable, hlater⟩
    rw [hsplit before after htable] at h
    cases hfind : after.reverse.find? found with
    | none => simpa using List.find?_eq_none.1 hfind later (List.mem_reverse.2 hlater)
    | some last =>
        rw [hfind, Option.some_or, Option.some.injEq] at h
        have hlast := List.mem_reverse.1 (List.mem_of_find?_eq_some hfind)
        exact absurd (congrArg BotCommand.id h) (Behind.ne ⟨before, after, htable, hlast⟩)
  · rintro ⟨hfound, hlast⟩
    obtain ⟨before, after, htable⟩ := List.append_of_mem hlisted
    have hafter : after.reverse.find? found = none := by
      refine List.find?_eq_none.2 fun later hlater => ?_
      simp [hlast later ⟨before, after, htable, List.mem_reverse.1 hlater⟩]
    rw [hsplit before after htable, hafter, Option.none_or, List.find?_cons_of_pos hfound]

/-- The entry matches the command or its copy in lower case. -/
def Matched (stack : Nat → UInt8) (command : List UInt8) (entry : BotCommand) : Prop :=
  matchesCommand command (lowercaseCmd stack command) entry = true

/-- The command that is found is the last entry of the table that matches. -/
theorem find_command_iff {stack : Nat → UInt8} {command : List UInt8} {entry : BotCommand}
    (hlisted : entry ∈ botCommands) :
    findCommand stack command = some entry.id ↔
      Matched stack command entry ∧ ∀ later, Behind entry later → ¬ Matched stack command later := by
  -- the loop goes through the whole table, so the last match wins
  have hlast : botCommands.reverse.find? (matchesCommand command (lowercaseCmd stack command)) =
      some entry ↔ _ := find_last_iff hlisted
  simp only [Matched, Bool.not_eq_true, ← hlast]
  unfold findCommand
  rw [last_match (matchesCommand command (lowercaseCmd stack command)), Option.map_eq_some_iff]
  constructor
  · rintro ⟨found, hfound, hid⟩
    have hmem := List.mem_reverse.1 (List.mem_of_find?_eq_some hfound)
    rw [entry_of_id hmem hlisted hid] at hfound
    exact hfound
  · intro hfound
    exact ⟨entry, hfound, rfl⟩

/-- No command is found if no entry matches. -/
theorem find_command_none {stack : Nat → UInt8} {command : List UInt8}
    (h : ∀ entry ∈ botCommands, ¬ Matched stack command entry) : findCommand stack command = none := by
  unfold findCommand
  rw [last_match (matchesCommand command (lowercaseCmd stack command)), Option.map_eq_none_iff,
    List.find?_eq_none]
  exact fun entry hentry => h entry (List.mem_reverse.1 hentry)

theorem matched_partial_iff {stack : Nat → UInt8} {command : List UInt8} {entry : BotCommand}
    (hargs : entry.isPartial = true) :
    Matched stack command entry ↔
      ascii entry.cmd <:+: command ∨ ascii entry.cmd <:+: lowercaseCmd stack command := by
  simp only [Matched, matchesCommand, hargs, if_true, Bool.or_eq_true, contains_iff]

/-- The entries behind one that takes arguments take arguments, too. -/
theorem partial_behind {entry later : BotCommand} (hargs : entry.isPartial = true)
    (h : Behind entry later) : later.isPartial = true := by
  have hsorted : botCommands.Pairwise fun entry later =>
      entry.isPartial = true → later.isPartial = true := by
    decide
  obtain ⟨before, after, hsplit, hlater⟩ := h
  rw [hsplit, List.pairwise_append, List.pairwise_cons] at hsorted
  exact hsorted.2.1.1 later hlater hargs

/-- A command with its arguments. -/
structure PartialText where
  entry : BotCommand
  listed : entry ∈ botCommands
  isPartial : entry.isPartial = true
  argument : List UInt8
  zero_free : 0 ∉ argument
  short : (ascii entry.cmd).length + argument.length ≤ 159

def PartialText.text (t : PartialText) : List UInt8 := ascii t.entry.cmd ++ t.argument

/-- The text is taken for its command, with its argument. -/
def Dispatched (stack : Nat → UInt8) (t : PartialText) : Prop :=
  findCommand stack t.text = some t.entry.id ∧ arguments t.entry.id t.text = some t.argument

/-- Every text is taken for the command with which it begins. -/
def DispatchedByPrefix : Prop := ∀ stack t, Dispatched stack t

/-- No entry behind that of the command has its word in the text or in the copy of it in lower
case. -/
def NoLaterWord (stack : Nat → UInt8) (t : PartialText) : Prop :=
  ∀ later, Behind t.entry later →
    ¬ ascii later.cmd <:+: t.text ∧ ¬ ascii later.cmd <:+: lowercaseCmd stack t.text

/-- A text is taken for the command with which it begins exactly if no word of a later entry stands in
it. -/
theorem dispatched_iff (stack : Nat → UInt8) (t : PartialText) :
    Dispatched stack t ↔ NoLaterWord stack t := by
  have hargument : arguments t.entry.id t.text = some t.argument := by
    rw [arguments, partial_place _ t.listed t.isPartial, PartialText.text, strstr_append]
    simp
  have hmatch : Matched stack t.text t.entry :=
    (matched_partial_iff t.isPartial).2 (.inl (List.prefix_append _ _).isInfix)
  rw [Dispatched, and_iff_left hargument, find_command_iff t.listed, and_iff_right hmatch]
  refine forall_congr' fun later => forall_congr' fun hbehind => ?_
  rw [matched_partial_iff (partial_behind t.isPartial hbehind), not_or]

/-- A reminder to delete a task. -/
def sampleReminder : PartialText where
  entry := botCommand .actionSetReminder
  listed := by
    rw [botCommand, List.getD_eq_getElem _ _ (by decide)]
    exact List.getElem_mem _
  isPartial := rfl
  argument := ascii "at 10 delete task 3"
  zero_free := by decide
  short := by decide

/-- The reminder deletes the task. -/
theorem reminder_deletes_task : ¬ DispatchedByPrefix := by
  intro h
  have hlater : Behind sampleReminder.entry (botCommand .actionDeleteTask) :=
    ⟨botCommands.take 64, botCommands.drop 65, rfl, .tail _ (.head _)⟩
  have hlast := ((find_command_iff sampleReminder.listed).1 (h (fun _ => 0) sampleReminder).1).2
  refine hlast _ hlater ((matched_partial_iff rfl).2 (.inl ?_))
  exact ⟨ascii "remind me at 10 ", ascii "3", rfl⟩

end OpenQti.Chat
