import OpenQti.Chat.Dispatch

/-!
# Commands in upper and lower case

`parse_command` makes a copy of a text in lower case and takes an entry of the table that matches the
text or the copy. The loop that makes the copy stops at the first byte that is not above its index;
what is behind it is left from other functions. The functions for commands with arguments, then, look
for their word in the text itself. `case_insensitive_iff` says for which texts the letter case and what
is left make no difference.
-/

namespace OpenQti.Chat

open Text

/-- A text with all letters in lower case. -/
def lower (command : List UInt8) : List UInt8 := command.map tolower

/-- A text that can be sent. -/
structure CommandText where
  text : List UInt8
  zero_free : 0 ∉ text
  short : text.length ≤ 159

/-- The text is the command of the entry, or has its word in it. -/
def Says (entry : BotCommand) (text : List UInt8) : Prop :=
  if entry.isPartial then ascii entry.cmd <:+: text else text = ascii entry.cmd

/-- In upper and lower case, and whatever is left in the copy, the text is taken for the same command,
and if that has arguments, its word is found in both cases or in neither. -/
def CaseInsensitive (c : CommandText) : Prop :=
  ∀ first second, findCommand first c.text = findCommand second (lower c.text) ∧
    ∀ entry ∈ botCommands, entry.isPartial = true → findCommand first c.text = some entry.id →
      ((arguments entry.id c.text).isSome ↔ (arguments entry.id (lower c.text)).isSome)

/-- All commands can be written in upper and lower case. -/
def AlwaysCaseInsensitive : Prop := ∀ c, CaseInsensitive c

/-- With some bytes behind what is copied, the copy says the command of the entry. -/
def Possible (c : CommandText) (entry : BotCommand) : Prop :=
  ∃ stack, Says entry (lowercaseCmd stack c.text)

/-- The entry is the last one of which this is true. -/
def LastPossible (c : CommandText) (entry : BotCommand) : Prop :=
  entry ∈ botCommands ∧ Possible c entry ∧ ∀ later, Behind entry later → ¬ Possible c later

/-- The last entry that is possible has arguments and its word stands in the text as it is written; or
it has none, and is the text as it is written, or the text is copied as a whole. -/
def WrittenOut (c : CommandText) : Prop :=
  ∀ entry, LastPossible c entry →
    if entry.isPartial then ascii entry.cmd <:+: c.text
    else c.text = ascii entry.cmd ∨ copiedBytes 0 c.text = c.text.length

/-! ## The copy -/

theorem tolower_to_nat (c : UInt8) :
    (tolower c).toNat = if 65 ≤ c.toNat ∧ c.toNat ≤ 90 then c.toNat + 32 else c.toNat := by
  unfold tolower
  simp only [UInt8.le_iff_toNat_le]
  split_ifs with hupper hother
  · rw [UInt8.toNat_add]
    exact Nat.mod_eq_of_lt (Nat.lt_of_le_of_lt (Nat.add_le_add_right hupper.2 32) (by decide))
  · exact absurd hupper hother
  · exact absurd ‹_› hupper
  · rfl

theorem le_tolower (c : UInt8) : c.toNat ≤ (tolower c).toNat := by
  rw [tolower_to_nat]
  split_ifs
  · exact Nat.le_add_right _ _
  · exact Nat.le_refl _

theorem tolower_tolower (c : UInt8) : tolower (tolower c) = tolower c := by
  refine UInt8.toNat_inj.1 ?_
  rw [tolower_to_nat (tolower c), if_neg]
  rw [tolower_to_nat]
  split_ifs
  · omega
  · assumption

theorem tolower_ne_zero {c : UInt8} (h : c ≠ 0) : tolower c ≠ 0 := by
  intro hzero
  have hle := le_tolower c
  rw [hzero] at hle
  exact h (UInt8.toNat_inj.1 (Nat.le_zero.1 hle))

theorem lower_lower (command : List UInt8) : lower (lower command) = lower command := by
  rw [lower, lower, List.map_map]
  exact List.map_congr_left fun c _ => tolower_tolower c

theorem lower_zero_free {command : List UInt8} (h : 0 ∉ command) : 0 ∉ lower command := by
  intro hzero
  obtain ⟨c, hc, hlow⟩ := List.mem_map.1 hzero
  exact tolower_ne_zero (fun hc' => h (hc' ▸ hc)) hlow

theorem copied_le_length (index : Nat) (command : List UInt8) :
    copiedBytes index command ≤ command.length := by
  induction command generalizing index with
  | nil => exact Nat.le_refl 0
  | cons c command ih =>
      unfold copiedBytes
      split_ifs
      · exact Nat.succ_le_succ (ih _)
      · exact Nat.zero_le _

/-- In lower case at least as much is copied. -/
theorem copied_le_lower (index : Nat) (command : List UInt8) :
    copiedBytes index command ≤ copiedBytes index (lower command) := by
  induction command generalizing index with
  | nil => exact Nat.le_refl 0
  | cons c command ih =>
      have hle := le_tolower c
      simp only [lower, List.map_cons, copiedBytes] at ih ⊢
      by_cases hcopied : index < c.toNat
      · rw [if_pos hcopied, if_pos (Nat.lt_of_lt_of_le hcopied hle)]
        exact Nat.succ_le_succ (ih _)
      · rw [if_neg hcopied]
        exact Nat.zero_le _

/-- The copy byte by byte: what has been copied, and what was there. -/
theorem lowercase_eq (stack : Nat → UInt8) (command : List UInt8) :
    lowercaseCmd stack command = ((List.range command.length).map fun k =>
      if k < copiedBytes 0 command then (lower command).getD k 0 else stack k).takeWhile (· ≠ 0) := by
  have hlength := copied_le_length 0 command
  unfold lowercaseCmd
  refine congrArg (List.takeWhile _) (List.ext_getElem ?_ fun k hk hk' => ?_)
  · simp only [List.length_append, List.length_map, List.length_take, List.length_range]
    omega
  · simp only [List.length_map, List.length_range] at hk'
    have htake : ((command.take (copiedBytes 0 command)).map tolower).length =
        copiedBytes 0 command := by
      rw [List.length_map, List.length_take, Nat.min_eq_left hlength]
    by_cases hcopied : k < copiedBytes 0 command
    · rw [List.getElem_append_left (by rw [htake]; exact hcopied)]
      simp [hcopied, lower, hk']
    · rw [List.getElem_append_right (by rw [htake]; omega)]
      simp only [List.getElem_map, List.getElem_range, htake, if_neg hcopied]
      congr 1
      omega

theorem map_getD_range (bytes : List UInt8) :
    (List.range bytes.length).map (fun k => bytes.getD k 0) = bytes := by
  refine List.ext_getElem (by simp) fun k hk hk' => ?_
  simp [hk']

section Copy

variable {command : List UInt8}

/-- Any bytes may follow what is copied, in particular those of the text in lower case. -/
theorem lowercase_whole (hzero : 0 ∉ command) :
    lowercaseCmd (fun k => (lower command).getD k 0) command = lower command := by
  have hlength : command.length = (lower command).length := (List.length_map _).symm
  simp only [lowercase_eq, ite_self]
  rw [hlength, map_getD_range]
  exact take_while_eq_self (lower_zero_free hzero)

/-- A copy of the text in lower case is also one of the text. -/
theorem lowercase_lower (command : List UInt8) (stack : Nat → UInt8) :
    ∃ other, lowercaseCmd stack (lower command) = lowercaseCmd other command := by
  refine ⟨fun k => if k < copiedBytes 0 (lower command) then (lower command).getD k 0 else stack k,
    ?_⟩
  have hle := copied_le_lower 0 command
  have hlength : (lower command).length = command.length := List.length_map _
  rw [lowercase_eq, lowercase_eq, lower_lower, hlength]
  refine congrArg (List.takeWhile _) (List.map_congr_left fun k _ => ?_)
  by_cases hcopied : k < copiedBytes 0 command
  · rw [if_pos hcopied, if_pos (Nat.lt_of_lt_of_le hcopied hle)]
  · rw [if_neg hcopied]

/-- With zeros behind it the copy ends where the loop has stopped. -/
theorem lowercase_zeros (hzero : 0 ∉ command) :
    lowercaseCmd (fun _ => 0) command = (lower command).take (copiedBytes 0 command) := by
  have hcopied : 0 ∉ (command.take (copiedBytes 0 command)).map tolower :=
    lower_zero_free fun hmem => hzero (List.mem_of_mem_take hmem)
  rw [lowercaseCmd, take_while_append hcopied, List.map_const', List.takeWhile_replicate,
    if_neg (by decide), List.append_nil, lower, List.map_take]

/-- With other bytes behind it the copy is as long as the text. -/
theorem length_lowercase_ones (hzero : 0 ∉ command) :
    (lowercaseCmd (fun _ => 1) command).length = command.length := by
  have hlow := lower_zero_free hzero
  rw [lowercase_eq, take_while_eq_self, List.length_map, List.length_range]
  intro hc
  obtain ⟨k, hk, hbyte⟩ := List.mem_map.1 hc
  have hk' : k < (lower command).length := by
    rw [lower, List.length_map]
    exact List.mem_range.1 hk
  split_ifs at hbyte
  · rw [List.getD_eq_getElem _ _ hk'] at hbyte
    exact hlow (hbyte ▸ List.getElem_mem hk')
  · exact absurd hbyte (by decide)

end Copy

/-! ## Entries and texts -/

/-- A literal in lower case, by its characters. -/
theorem lower_ascii (chars : List Char)
    (h : (chars.map fun c => UInt8.ofNat c.toNat).map tolower =
      chars.map fun c => UInt8.ofNat c.toNat) :
    lower (ascii (String.ofList chars)) = ascii (String.ofList chars) := by
  rw [ascii, String.toList_ofList, lower]
  exact h

/-- The table is written in lower case. -/
theorem command_lower : ∀ entry ∈ botCommands, lower (ascii entry.cmd) = ascii entry.cmd := by
  simp only [botCommands, List.forall_mem_cons, List.not_mem_nil, false_implies, implies_true,
    and_true]
  repeat' apply And.intro
  all_goals exact lower_ascii _ (by decide)

theorem matched_iff {stack : Nat → UInt8} {command : List UInt8} {entry : BotCommand} :
    Matched stack command entry ↔
      Says entry command ∨ Says entry (lowercaseCmd stack command) := by
  unfold Matched matchesCommand Says
  split_ifs
  · simp only [Bool.or_eq_true, contains_iff]
  · simp only [Bool.or_eq_true, decide_eq_true_eq]

theorem Says.in_lower_case {entry : BotCommand} (hlisted : entry ∈ botCommands) {text : List UInt8}
    (h : Says entry text) : Says entry (lower text) := by
  unfold Says at h ⊢
  split_ifs at h ⊢
  · rw [← command_lower entry hlisted]
    exact h.map tolower
  · rw [h, command_lower entry hlisted]

section Entries

variable {c : CommandText} {stack : Nat → UInt8} {entry : BotCommand}

theorem Says.possible (h : Says entry (lower c.text)) : Possible c entry := by
  refine ⟨fun k => (lower c.text).getD k 0, ?_⟩
  rw [lowercase_whole c.zero_free]
  exact h

theorem Matched.possible (hlisted : entry ∈ botCommands) (h : Matched stack c.text entry) :
    Possible c entry := by
  rcases matched_iff.1 h with hmeant | hcopy
  · exact (hmeant.in_lower_case hlisted).possible
  · exact ⟨stack, hcopy⟩

theorem Matched.possible_lower (h : Matched stack (lower c.text) entry) : Possible c entry := by
  rcases matched_iff.1 h with hmeant | hcopy
  · exact hmeant.possible
  · obtain ⟨other, hother⟩ := lowercase_lower c.text stack
    rw [hother] at hcopy
    exact ⟨other, hcopy⟩

/-- The last entry that is possible is found if it matches. -/
theorem LastPossible.found (hlast : LastPossible c entry) (hmatched : Matched stack c.text entry) :
    findCommand stack c.text = some entry.id := by
  refine (find_command_iff hlast.1).2 ⟨hmatched, fun later hlater hother => ?_⟩
  exact hlast.2.2 later hlater (hother.possible hlater.listed)

theorem LastPossible.found_lower (hlast : LastPossible c entry)
    (hmatched : Matched stack (lower c.text) entry) :
    findCommand stack (lower c.text) = some entry.id := by
  refine (find_command_iff hlast.1).2 ⟨hmatched, fun later hlater hother => ?_⟩
  exact hlast.2.2 later hlater hother.possible_lower

end Entries

/-- If an entry is possible, one of them is the last. -/
theorem last_possible_exists {c : CommandText} (h : ∃ entry ∈ botCommands, Possible c entry) :
    ∃ entry, LastPossible c entry := by
  classical
  obtain ⟨entry, hlisted, hpossible⟩ := h
  cases hfind : botCommands.reverse.find? fun entry => decide (Possible c entry) with
  | none =>
      have hnone := List.find?_eq_none.1 hfind entry (List.mem_reverse.2 hlisted)
      exact absurd (decide_eq_true hpossible) hnone
  | some last =>
      have hlast := List.mem_reverse.1 (List.mem_of_find?_eq_some hfind)
      obtain ⟨hfound, hbehind⟩ := (find_last_iff hlast).1 hfind
      refine ⟨last, hlast, of_decide_eq_true hfound, fun later hlater => ?_⟩
      exact of_decide_eq_false (hbehind later hlater)

/-! ## Upper and lower case -/

theorem arguments_isSome_iff {entry : BotCommand} (hlisted : entry ∈ botCommands)
    (hargs : entry.isPartial = true) {command : List UInt8} :
    (arguments entry.id command).isSome ↔ ascii entry.cmd <:+: command := by
  rw [arguments, Option.isSome_map, partial_place entry hlisted hargs, ← contains_iff]
  rfl

/-- A text that is copied as a whole, in lower case. -/
theorem lowercase_of_copied {c : CommandText} (h : copiedBytes 0 c.text = c.text.length)
    (stack : Nat → UInt8) : lowercaseCmd stack c.text = lower c.text := by
  rw [← lowercase_whole c.zero_free, lowercase_eq, lowercase_eq]
  refine congrArg (List.takeWhile _) (List.map_congr_left fun k hk => ?_)
  rw [h, if_pos (List.mem_range.1 hk), if_pos (List.mem_range.1 hk)]

/-- The last entry that is possible matches in both cases, whatever is left in the copy. -/
theorem WrittenOut.matched {c : CommandText} {entry : BotCommand} (h : WrittenOut c)
    (hlast : LastPossible c entry) (stack : Nat → UInt8) :
    Matched stack c.text entry ∧ Matched stack (lower c.text) entry := by
  have hwritten := h entry hlast
  obtain ⟨hlisted, ⟨some, hpossible⟩, _⟩ := hlast
  have hmeant : Says entry c.text → Matched stack c.text entry ∧ Matched stack (lower c.text) entry :=
    fun hmeant => ⟨matched_iff.2 (.inl hmeant), matched_iff.2 (.inl (hmeant.in_lower_case hlisted))⟩
  split_ifs at hwritten with hargs
  · refine hmeant ?_
    rw [Says, if_pos hargs]
    exact hwritten
  · rcases hwritten with htext | hcopied
    · refine hmeant ?_
      rw [Says, if_neg hargs]
      exact htext
    · rw [lowercase_of_copied hcopied] at hpossible
      refine ⟨matched_iff.2 (.inr ?_), matched_iff.2 (.inl hpossible)⟩
      rw [lowercase_of_copied hcopied]
      exact hpossible

/-- If the letter case and what is left in the copy make no difference, the last entry that is possible
matches with zeros and with ones behind what is copied. -/
theorem CaseInsensitive.written_out {c : CommandText} (h : CaseInsensitive c) : WrittenOut c := by
  intro entry hlast
  obtain ⟨hlisted, ⟨stack, hpossible⟩, _⟩ := id hlast
  have hfound := hlast.found (matched_iff.2 (.inr hpossible))
  have hmatched : ∀ other, Says entry c.text ∨ Says entry (lowercaseCmd other c.text) := by
    intro other
    have hsame : findCommand other c.text = some entry.id := by
      rw [(h other stack).1, ← (h stack stack).1]
      exact hfound
    exact matched_iff.1 ((find_command_iff hlisted).1 hsame).1
  -- zeros end the copy behind what is copied, ones keep it as long as the text
  have hzeros := hmatched fun _ => 0
  rw [lowercase_zeros c.zero_free] at hzeros
  split_ifs with hargs
  · have haccepts := (h stack stack).2 entry hlisted hargs hfound
    rw [arguments_isSome_iff hlisted hargs, arguments_isSome_iff hlisted hargs] at haccepts
    simp only [Says, if_pos hargs] at hzeros
    rcases hzeros with hword | hword
    · exact hword
    · exact haccepts.2 (hword.trans (List.take_prefix _ _).isInfix)
  · have hones := hmatched fun _ => 1
    simp only [Says, if_neg hargs] at hzeros hones
    rcases hzeros with htext | hzeros
    · exact .inl htext
    · rcases hones with htext | hones
      · exact .inl htext
      · have hlong := length_lowercase_ones c.zero_free
        have hlength := congrArg List.length hzeros
        rw [List.length_take, lower, List.length_map,
          Nat.min_eq_left (copied_le_length 0 c.text)] at hlength
        rw [hones] at hlong
        exact .inr (hlength.trans hlong)

/-- The word of a command with arguments that is written out is found in both cases. -/
theorem WrittenOut.accepted {c : CommandText} {entry : BotCommand} (h : WrittenOut c)
    (hlast : LastPossible c entry) (hargs : entry.isPartial = true) :
    (arguments entry.id c.text).isSome ∧ (arguments entry.id (lower c.text)).isSome := by
  have hword := h entry hlast
  rw [if_pos hargs] at hword
  have hlow := hword.map tolower
  rw [show (ascii entry.cmd).map tolower = ascii entry.cmd from command_lower entry hlast.1] at hlow
  rw [arguments_isSome_iff hlast.1 hargs, arguments_isSome_iff hlast.1 hargs]
  exact ⟨hword, hlow⟩

theorem WrittenOut.case_insensitive {c : CommandText} (h : WrittenOut c) : CaseInsensitive c := by
  intro first second
  by_cases hpossible : ∃ entry ∈ botCommands, Possible c entry
  · obtain ⟨entry, hlast⟩ := last_possible_exists hpossible
    have hfirst := hlast.found (h.matched hlast first).1
    have hsecond := hlast.found_lower (h.matched hlast second).2
    refine ⟨hfirst.trans hsecond.symm, fun other hother hargs hfound => ?_⟩
    have hsame : other = entry := by
      rw [hfirst, Option.some.injEq] at hfound
      exact entry_of_id hother hlast.1 hfound.symm
    rw [hsame] at hargs ⊢
    obtain ⟨hword, hlow⟩ := h.accepted hlast hargs
    exact ⟨fun _ => hlow, fun _ => hword⟩
  · have hnone : findCommand first c.text = none :=
      find_command_none fun entry hlisted hmatched =>
        hpossible ⟨entry, hlisted, hmatched.possible hlisted⟩
    have hlow : findCommand second (lower c.text) = none :=
      find_command_none fun entry hlisted hmatched =>
        hpossible ⟨entry, hlisted, hmatched.possible_lower⟩
    refine ⟨hnone.trans hlow.symm, fun entry _ _ hfound => ?_⟩
    rw [hnone] at hfound
    cases hfound

/-- The text is taken for the same command in upper and lower case, and its word is found in both
cases or in neither, exactly if the last entry that is possible is written out. -/
theorem case_insensitive_iff (c : CommandText) : CaseInsensitive c ↔ WrittenOut c :=
  ⟨CaseInsensitive.written_out, WrittenOut.case_insensitive⟩

/-- A reminder that begins with a capital letter. -/
def sampleCapital : CommandText where
  text := ascii "Remind me in 5"
  zero_free := by decide
  short := by decide

/-- The command is found, but its word is not. -/
theorem capital_letter_rejected : ¬ AlwaysCaseInsensitive := by
  intro h
  have hlisted : botCommand .actionSetReminder ∈ botCommands := by
    rw [botCommand, List.getD_eq_getElem _ _ (by decide)]
    exact List.getElem_mem _
  have hfound : findCommand (fun _ => 0) sampleCapital.text =
      some (botCommand .actionSetReminder).id := rfl
  have haccepts := (h sampleCapital (fun _ => 0) (fun _ => 0)).2 _ hlisted rfl hfound
  have haccepted : (arguments (botCommand .actionSetReminder).id (lower sampleCapital.text)).isSome :=
    rfl
  cases haccepts.2 haccepted

end OpenQti.Chat
