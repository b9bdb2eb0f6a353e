import OpenQti.Chat.QueueWrites

/-!
# Answers of the dictionary

`cmd_find_dictionary_entry` cuts the lines of the dictionary into tokens at colons, and sends the
fourth token of the first line whose third token is the word. A long definition goes out in parts of
159 bytes with a terminator; what is left in the end, up to 160 bytes, goes out without one.

The parts are put together again without a loss. But the fourth token is not the definition: `fgets`
leaves the newline at the end of a line, and a definition that has a colon is cut there.
`dictionary_answer_iff` says that this is all that is wrong.
-/

namespace OpenQti.Chat

open Bytes Sms Text

/-! ## Dictionaries -/

/-- A colon. -/
def colon : UInt8 := 58

/-- A field has no newline and no terminator in it. -/
def OneLine (field : List UInt8) : Prop := newline ∉ field ∧ 0 ∉ field

/-- A line `ID:TYPE:WORD:DEFINITION` of a dictionary. -/
structure DictionaryEntry where
  id : List UInt8
  type : List UInt8
  word : List UInt8
  definition : List UInt8
  id_token : id ≠ [] ∧ colon ∉ id ∧ OneLine id
  type_token : type ≠ [] ∧ colon ∉ type ∧ OneLine type
  word_token : word ≠ [] ∧ colon ∉ word ∧ OneLine word
  /-- The type is one of `wtypes`. -/
  type_known : 0 ≤ atoi type ∧ atoi type ≤ 8
  definition_text : definition ≠ [] ∧ OneLine definition
  short : id.length + type.length + word.length + definition.length + 3 < 32767

/-- The line, without the newline at its end. -/
def DictionaryEntry.line (entry : DictionaryEntry) : List UInt8 :=
  entry.id ++ colon :: (entry.type ++ colon :: (entry.word ++ colon :: entry.definition))

/-- The end of the last line: the file may end without a newline. -/
def lastEnd (ended : Bool) : List UInt8 := if ended then [newline] else []

/-- The dictionary file. -/
def dictionaryText (ended : Bool) : List DictionaryEntry → List UInt8
  | [] => []
  | [entry] => entry.line ++ lastEnd ended
  | entry :: next :: entries =>
      entry.line ++ newline :: dictionaryText ended (next :: entries)

/-- What `fgets` leaves at the end of the line of an entry with these entries after it. -/
def lineEnd (ended : Bool) (after : List DictionaryEntry) : List UInt8 :=
  if after = [] then lastEnd ended else [newline]

/-- The lines that `fgets` reads. -/
def dictionaryLines (ended : Bool) : List DictionaryEntry → List (List UInt8)
  | [] => []
  | entry :: entries => (entry.line ++ lineEnd ended entries) :: dictionaryLines ended entries

/-! ## The queue -/

/-- The replies are handed to `add_message_to_queue` one after the other. -/
def queueReplies (replies : List Reply) (s : SmsRuntime) : Except Fault SmsRuntime :=
  replies.foldlM (fun s reply => addMessageToQueue false reply s) s

/-- The replies are the new entries of the queue, in their order. -/
structure Queued (replies : List Reply) (s next : SmsRuntime) : Prop where
  queuePos : next.queuePos = s.queuePos + replies.length
  pkt : ∀ (k : Nat) (reply : Reply), replies[k]? = some reply →
    Holds (next.msg (s.queuePos + 1 + k).toNat).pkt 0 reply

/-- The text of a part ends at a terminator. -/
def partText (part : Reply) : List UInt8 := part.takeWhile (· ≠ 0)

/-- The answer to a word is queued in parts of at most 160 bytes, and their texts make up this
text. -/
structure AnsweredBy (env : ChatEnv) (word : List UInt8) (s : SmsRuntime) (text : List UInt8) :
    Prop where
  queued : ∃ next, queueReplies (cmdFindDictionaryEntry env word) s = .ok next ∧
    Queued (cmdFindDictionaryEntry env word) s next
  texts : (cmdFindDictionaryEntry env word).flatMap partText = text
  lengths : ∀ part ∈ cmdFindDictionaryEntry env word,
    1 ≤ part.length ∧ part.length ≤ maxMessageSize

/-! ## The lines of the file -/

section Lines

variable {entry : DictionaryEntry} {entries : List DictionaryEntry} {ended : Bool}

theorem newline_not_mem_line : ∀ b ∈ entry.line, b ≠ newline := by
  rintro b hb rfl
  have hcolon : newline ≠ colon := by decide
  simp only [DictionaryEntry.line, List.mem_append, List.mem_cons, hcolon, false_or] at hb
  rcases hb with hb | hb | hb | hb
  · exact entry.id_token.2.2.1 hb
  · exact entry.type_token.2.2.1 hb
  · exact entry.word_token.2.2.1 hb
  · exact entry.definition_text.2.1 hb

theorem length_line :
    entry.line.length = entry.id.length + entry.type.length + entry.word.length +
      entry.definition.length + 3 := by
  simp only [DictionaryEntry.line, List.length_append, List.length_cons]
  omega

/-- The file is read line by line. -/
theorem fgets_lines_dictionary :
    fgetsLines 32767 [] (dictionaryText ended entries) = dictionaryLines ended entries := by
  have hroom : ∀ entry : DictionaryEntry, ([] : List UInt8).length + entry.line.length < 32767 := by
    intro entry
    rw [length_line, List.length_nil, Nat.zero_add]
    exact entry.short
  induction entries with
  | nil => rfl
  | cons entry rest ih =>
      cases rest with
      | cons next entries =>
          rw [dictionaryText, fgets_lines_append _ _ newline_not_mem_line (hroom entry), ih]
          rfl
      | nil =>
          cases ended with
          | true =>
              rw [dictionaryText, lastEnd, if_pos rfl,
                fgets_lines_append _ _ newline_not_mem_line (hroom entry)]
              rfl
          | false =>
              have hnonempty : [] ++ entry.line ≠ [] := by
                simp [DictionaryEntry.line]
              rw [dictionaryText, lastEnd, if_neg (by decide), List.append_nil,
                fgets_lines_last _ newline_not_mem_line (hroom entry) hnonempty]
              simp [dictionaryLines, lineEnd, lastEnd]

end Lines

/-! ## The token that is found -/

section Tokens

variable {env : ChatEnv} {entry : DictionaryEntry} {before after : List DictionaryEntry}
  {ended : Bool} {word tail : List UInt8}

/-- The fourth token of a line, if there is one. -/
def fourthToken (entry : DictionaryEntry) (tail : List UInt8) : Option (List UInt8) :=
  (strtok (· = colon) (entry.definition ++ tail)).map Prod.fst

theorem dictionary_tokens_cons {fuel : Nat} {token rest : List UInt8}
    (h : token ≠ [] ∧ colon ∉ token) :
    dictionaryTokens (fuel + 1) (token ++ colon :: rest) =
      token :: dictionaryTokens fuel rest := by
  have htoken : ∀ b ∈ token, decide (b = 58) = false := by
    rintro b hb
    simp only [decide_eq_false_iff_not]
    rintro rfl
    exact h.2 hb
  have hcut : strtok (· = 58) (token ++ colon :: rest) = some (token, rest) :=
    strtok_cons h.1 htoken (by decide)
  rw [dictionaryTokens, hcut]

/-- The tokens of a line: the first three fields, and what is found in the fourth. -/
theorem tokens_of_line :
    (dictionaryTokens ((entry.line ++ tail).length + 1) (entry.line ++ tail))[2]? =
        some entry.word ∧
      (dictionaryTokens ((entry.line ++ tail).length + 1) (entry.line ++ tail))[3]? =
        fourthToken entry tail := by
  obtain ⟨fuel, hfuel⟩ : ∃ fuel, (entry.line ++ tail).length + 1 = fuel + 1 + 1 + 1 + 1 :=
    ⟨(entry.line ++ tail).length - 3, by rw [List.length_append, length_line]; omega⟩
  have hline : entry.line ++ tail = entry.id ++ colon :: (entry.type ++ colon ::
      (entry.word ++ colon :: (entry.definition ++ tail))) := by
    simp [DictionaryEntry.line]
  rw [hfuel, hline, dictionary_tokens_cons ⟨entry.id_token.1, entry.id_token.2.1⟩,
    dictionary_tokens_cons ⟨entry.type_token.1, entry.type_token.2.1⟩,
    dictionary_tokens_cons ⟨entry.word_token.1, entry.word_token.2.1⟩]
  refine ⟨rfl, ?_⟩
  show (dictionaryTokens (fuel + 1) (entry.definition ++ tail))[0]? = _
  rw [dictionaryTokens, fourthToken]
  show _ = (strtok (· = 58) (entry.definition ++ tail)).map Prod.fst
  cases strtok (· = 58) (entry.definition ++ tail) with
  | none => rfl
  | some found => rfl

/-- The first line with the word decides. -/
theorem find_definition_eq (hbefore : ∀ other ∈ before, other.word ≠ entry.word) :
    findDefinition entry.word (dictionaryLines ended (before ++ entry :: after)) =
      fourthToken entry (lineEnd ended after) := by
  induction before with
  | nil =>
      obtain ⟨hword, hdefinition⟩ := @tokens_of_line entry (lineEnd ended after)
      rw [List.nil_append, dictionaryLines, findDefinition, if_pos hword, hdefinition]
  | cons other before ih =>
      have hword := (@tokens_of_line other (lineEnd ended (before ++ entry :: after))).1
      have hother : ¬ some other.word = some entry.word := by
        simpa using hbefore other (by simp)
      rw [List.cons_append, dictionaryLines, findDefinition, hword, if_neg hother]
      exact ih fun third hthird => hbefore third (List.mem_cons_of_mem _ hthird)

/-- The answer to a word of the dictionary. -/
theorem find_dictionary_entry_eq
    (hfile : env.dictionary = some (dictionaryText ended (before ++ entry :: after)))
    (hbefore : ∀ other ∈ before, other.word ≠ entry.word) :
    cmdFindDictionaryEntry env entry.word =
      match fourthToken entry (lineEnd ended after) with
      | some definition => definitionPieces definition
      | none => [sprintf "I don't know what '%s' means :(\n" [entry.word]] := by
  rw [cmdFindDictionaryEntry, hfile]
  show (match findDefinition entry.word (fgetsLines 32767 []
    (dictionaryText ended (before ++ entry :: after))) with
    | some definition => definitionPieces definition
    | none => _) = _
  rw [fgets_lines_dictionary, find_definition_eq hbefore]

end Tokens

/-! ## The parts -/

section Parts

variable {text : List UInt8}

theorem part_text_of_not_mem (h : 0 ∉ text) : partText text = text := take_while_eq_self h

/-- The parts make up the text again. -/
theorem flat_map_definition_pieces (h : 0 ∉ text) :
    (definitionPieces text).flatMap partText = text := by
  fun_induction definitionPieces text with
  | case1 text hlong ih =>
      have hfirst : partText (text.take 159 ++ [0]) = text.take 159 := by
        rw [partText, take_while_append fun hmem => h (List.mem_of_mem_take hmem)]
        simp
      rw [List.flatMap_cons, hfirst, ih fun hmem => h (List.mem_of_mem_drop hmem),
        List.take_append_drop]
  | case2 => rfl
  | case3 text hshort hnonempty =>
      rw [List.flatMap_cons, List.flatMap_nil, List.append_nil, part_text_of_not_mem h]

theorem definition_pieces_lengths (text : List UInt8) :
    ∀ part ∈ definitionPieces text, 1 ≤ part.length ∧ part.length ≤ maxMessageSize := by
  intro part hpart
  refine ⟨?_, definition_pieces_fit text part hpart⟩
  fun_induction definitionPieces text with
  | case1 text hlong ih =>
      rcases List.mem_cons.1 hpart with rfl | hrest
      · simp
      · exact ih hrest
  | case2 => cases hpart
  | case3 text hshort hnonempty =>
      rw [List.mem_singleton.1 hpart]
      exact List.length_pos_iff.2 hnonempty

theorem definition_pieces_short (hnonempty : text ≠ []) (hshort : text.length ≤ maxMessageSize) :
    definitionPieces text = [text] := by
  rw [definitionPieces, if_neg (Nat.not_lt.2 hshort), if_neg hnonempty]

end Parts

/-! ## The new entries of the queue -/

section Queue

variable {s next : SmsRuntime} {reply : Reply} {replies : List Reply}

/-- A reply becomes the last entry, and the others stay. -/
theorem add_message_queued (hpos : -1 ≤ s.queuePos) (hroom : s.queuePos + 1 < queueSize)
    (hlength : 1 ≤ reply.length ∧ reply.length ≤ maxMessageSize) :
    ∃ next, addMessageToQueue false reply s = .ok next ∧ next.queuePos = s.queuePos + 1 ∧
      Holds (next.msg (s.queuePos + 1).toNat).pkt 0 reply ∧
      ∀ i : Nat, (i : Int) ≠ s.queuePos + 1 → next.msg i = s.msg i := by
  have hindex : index (s.queuePos + 1) = .ok (s.queuePos + 1).toNat :=
    index_eq_ok.2 ⟨by omega, by omega⟩
  have hnotfull : ¬ s.queuePos > (queueSize : Int) - 2 := by omega
  have hnonempty : reply.length ≠ 0 := by omega
  have hpositive : reply.length > 0 := hlength.1
  have hshort : ¬ reply.length > maxMessageSize := by omega
  simp only [addMessageToQueue, if_neg hnonempty, addSmsToQueue, addToQueue, if_neg hnotfull,
    if_pos hpositive, hindex, if_neg hshort, Bool.false_eq_true, if_false]
  refine ⟨_, rfl, rfl, ?_, ?_⟩
  · intro k hk
    show (Function.update s.msg _ _ (s.queuePos + 1).toNat).pkt (0 + k) = _
    rw [Function.update_self, Nat.zero_add]
    exact dif_pos hk
  · intro i hi
    exact Function.update_of_ne (by omega) _ _

/-- All replies become entries if there is room for them. -/
theorem queue_replies_queued (hpos : -1 ≤ s.queuePos)
    (hroom : s.queuePos + replies.length < queueSize)
    (hlengths : ∀ reply ∈ replies, 1 ≤ reply.length ∧ reply.length ≤ maxMessageSize) :
    ∃ next, queueReplies replies s = .ok next ∧ Queued replies s next ∧
      ∀ i : Nat, (i : Int) ≤ s.queuePos → next.msg i = s.msg i := by
  induction replies generalizing s with
  | nil => exact ⟨s, rfl, ⟨by simp, by simp⟩, fun _ _ => rfl⟩
  | cons reply replies ih =>
      rw [List.length_cons] at hroom
      obtain ⟨middle, hadd, hmiddle, hpkt, hothers⟩ :=
        add_message_queued hpos (by omega) (hlengths reply (by simp))
      obtain ⟨next, hrest, hqueued, hkept⟩ := ih (by omega : -1 ≤ middle.queuePos) (by omega)
        fun other hother => hlengths other (List.mem_cons_of_mem _ hother)
      refine ⟨next, ?_, ⟨?_, ?_⟩, ?_⟩
      · rw [queueReplies, List.foldlM_cons, hadd]
        exact hrest
      · rw [hqueued.queuePos, hmiddle, List.length_cons]
        omega
      · intro k other hk
        cases k with
        | zero =>
            obtain rfl : reply = other := by simpa using hk
            have hlast : next.msg (s.queuePos + 1).toNat = middle.msg (s.queuePos + 1).toNat :=
              hkept _ (by omega)
            simpa [hlast] using hpkt
        | succ k =>
            have hplace : (s.queuePos + 1 + (k + 1 : Nat)).toNat =
                (middle.queuePos + 1 + k).toNat := by
              rw [hmiddle]
              omega
            rw [hplace]
            exact hqueued.pkt k other (by simpa using hk)
      · intro i hi
        rw [hkept i (by omega), hothers i (by omega)]

end Queue

/-! ## Complete answers -/

section Answers

variable {env : ChatEnv} {entry : DictionaryEntry} {before after : List DictionaryEntry}
  {ended : Bool} {s : SmsRuntime} {tail extra : List UInt8}

theorem line_end_clean (ended : Bool) (after : List DictionaryEntry) :
    colon ∉ lineEnd ended after ∧ 0 ∉ lineEnd ended after := by
  unfold lineEnd lastEnd
  split_ifs <;> decide

theorem line_end_eq_nil : lineEnd ended after = [] ↔ after = [] ∧ ended = false := by
  unfold lineEnd lastEnd
  split_ifs <;> simp_all

theorem line_end_eq_newline :
    lineEnd ended after = [newline] ↔ ¬ (after = [] ∧ ended = false) := by
  unfold lineEnd lastEnd
  split_ifs <;> simp_all

/-- A definition without a colon is found whole, and the end of the line with it. -/
theorem fourth_token_whole (hcolon : colon ∉ entry.definition) (htail : colon ∉ tail) :
    fourthToken entry tail = some (entry.definition ++ tail) := by
  have hclean : ∀ b ∈ entry.definition ++ tail, decide (b = colon) = false := by
    intro b hb
    simp only [decide_eq_false_iff_not]
    rintro rfl
    exact (List.mem_append.1 hb).elim hcolon htail
  have hnonempty : entry.definition ++ tail ≠ [] := by
    simp [entry.definition_text.1]
  rw [fourthToken, strtok_whole hnonempty hclean, Option.map_some]

/-- There is no colon in the token that is found. -/
theorem colon_not_mem_fourth_token {token : List UInt8} (h : fourthToken entry tail = some token) :
    colon ∉ token := by
  obtain ⟨⟨found, rest⟩, hcut, rfl⟩ := Option.map_eq_some_iff.1 h
  intro hmem
  simpa using (strtok_token hcut).2 colon hmem

theorem zero_not_mem_fourth_token {token : List UInt8} (h : fourthToken entry tail = some token)
    (htail : 0 ∉ tail) : 0 ∉ token := by
  obtain ⟨⟨found, rest⟩, hcut, rfl⟩ := Option.map_eq_some_iff.1 h
  intro hmem
  exact (List.mem_append.1 ((strtok_mem hcut).1 0 hmem)).elim entry.definition_text.2.2 htail

/-- The answer to an unknown word starts with an `I`. -/
theorem head_unknown_answer (word : List UInt8) :
    ([sprintf "I don't know what '%s' means :(\n" [word]].flatMap partText).head? = some 73 := by
  obtain ⟨rest, hrest⟩ : ∃ rest, sprintf "I don't know what '%s' means :(\n" [word] = 73 :: rest :=
    ⟨_, rfl⟩
  rw [List.flatMap_singleton, hrest, partText, List.takeWhile_cons_of_pos (by decide)]
  rfl

/-- If no token is found, the definition starts with a colon. -/
theorem head_definition_of_none (h : fourthToken entry tail = none) :
    entry.definition.head? = some colon := by
  obtain ⟨first, rest, hdefinition⟩ := List.exists_cons_of_ne_nil entry.definition_text.1
  have hall := strtok_eq_none_iff.1 (Option.map_eq_none_iff.1 h)
  have hfirst := hall first (by rw [hdefinition]; simp)
  rw [hdefinition, List.head?_cons]
  simpa using hfirst

/-- The texts of the answer are the definition with this at its end exactly if there is no colon in
the definition and this is the end of the line. -/
theorem answer_texts_iff
    (hfile : env.dictionary = some (dictionaryText ended (before ++ entry :: after)))
    (hbefore : ∀ other ∈ before, other.word ≠ entry.word) :
    (cmdFindDictionaryEntry env entry.word).flatMap partText = entry.definition ++ extra ↔
      colon ∉ entry.definition ∧ lineEnd ended after = extra := by
  obtain ⟨hcolon, hzero⟩ := line_end_clean ended after
  rw [find_dictionary_entry_eq hfile hbefore]
  by_cases hclean : colon ∈ entry.definition
  · refine iff_of_false ?_ fun h => h.1 hclean
    cases htoken : fourthToken entry (lineEnd ended after) with
    | some token =>
        intro htexts
        have hnul : 0 ∉ token := zero_not_mem_fourth_token htoken hzero
        have hsame : token = entry.definition ++ extra :=
          (flat_map_definition_pieces hnul).symm.trans htexts
        refine colon_not_mem_fourth_token htoken ?_
        rw [hsame]
        exact List.mem_append_left _ hclean
    | none =>
        intro htexts
        have hhead : (entry.definition ++ extra).head? = some colon := by
          rw [List.head?_append, head_definition_of_none htoken]
          rfl
        rw [← htexts] at hhead
        exact absurd hhead (by rw [head_unknown_answer]; decide)
  · rw [fourth_token_whole hclean hcolon]
    have hnul : 0 ∉ entry.definition ++ lineEnd ended after := by
      rw [List.mem_append]
      exact fun h => h.elim entry.definition_text.2.2 hzero
    show (definitionPieces _).flatMap partText = _ ↔ _
    rw [flat_map_definition_pieces hnul]
    simp [hclean]

/-- With room in the queue, an answer is queued if its parts have the right lengths. -/
theorem answered_by_iff
    (hfile : env.dictionary = some (dictionaryText ended (before ++ entry :: after)))
    (hbefore : ∀ other ∈ before, other.word ≠ entry.word) (hpos : -1 ≤ s.queuePos)
    (hroom : s.queuePos + (cmdFindDictionaryEntry env entry.word).length < queueSize) :
    AnsweredBy env entry.word s (entry.definition ++ extra) ↔
      colon ∉ entry.definition ∧ lineEnd ended after = extra := by
  refine ⟨fun h => (answer_texts_iff hfile hbefore).1 h.texts, fun h => ?_⟩
  have hlengths : ∀ part ∈ cmdFindDictionaryEntry env entry.word,
      1 ≤ part.length ∧ part.length ≤ maxMessageSize := by
    rw [find_dictionary_entry_eq hfile hbefore,
      fourth_token_whole h.1 (line_end_clean ended after).1]
    exact definition_pieces_lengths _
  obtain ⟨next, hnext, hqueued, -⟩ := queue_replies_queued hpos hroom hlengths
  exact ⟨⟨next, hnext, hqueued⟩, (answer_texts_iff hfile hbefore).2 h, hlengths⟩

/-- For every dictionary, every word in it and every queue with room: the answer is the definition
exactly if the definition has no colon and the file ends with it, and the definition with a newline
exactly if it has no colon and the file does not end with it. -/
theorem dictionary_answer_iff
    (hfile : env.dictionary = some (dictionaryText ended (before ++ entry :: after)))
    (hbefore : ∀ other ∈ before, other.word ≠ entry.word) (hpos : -1 ≤ s.queuePos)
    (hroom : s.queuePos + (cmdFindDictionaryEntry env entry.word).length < queueSize) :
    (AnsweredBy env entry.word s entry.definition ↔
        colon ∉ entry.definition ∧ after = [] ∧ ended = false) ∧
      (AnsweredBy env entry.word s (entry.definition ++ [newline]) ↔
        colon ∉ entry.definition ∧ ¬ (after = [] ∧ ended = false)) := by
  constructor
  · rw [← line_end_eq_nil]
    simpa using @answered_by_iff env entry before after ended s [] hfile hbefore hpos hroom
  · rw [← line_end_eq_newline]
    exact answered_by_iff hfile hbefore hpos hroom

end Answers

/-- `1:4:so:` and a definition. -/
def soEntry (definition : List UInt8) (htext : definition ≠ [] ∧ OneLine definition)
    (hshort : definition.length < 32000) : DictionaryEntry where
  id := ascii "1"
  type := ascii "4"
  word := ascii "so"
  definition := definition
  id_token := by unfold OneLine; decide
  type_token := by unfold OneLine; decide
  word_token := by unfold OneLine; decide
  type_known := by decide
  definition_text := htext
  short := by
    have hfields : (ascii "1").length + (ascii "4").length + (ascii "so").length = 4 := by decide
    omega

/-- A modem with this dictionary. -/
def dictionaryEnv (ended : Bool) (entry : DictionaryEntry) : ChatEnv :=
  { freshEnv with dictionary := some (dictionaryText ended [entry]) }

/-- An entry of two senses. -/
def twoSenses : DictionaryEntry :=
  soEntry (ascii "Thus:Very") (by unfold OneLine; decide) (by decide)

def oneSense : DictionaryEntry :=
  soEntry (ascii "Thus") (by unfold OneLine; decide) (by decide)

/-- Only one message is queued for a short definition. -/
theorem length_short_answer {env : ChatEnv} {entry : DictionaryEntry} {ended : Bool}
    (hfile : env.dictionary = some (dictionaryText ended [entry])) (token : List UInt8)
    (htoken : fourthToken entry (lineEnd ended []) = some token) (hnonempty : token ≠ [])
    (hshort : token.length ≤ maxMessageSize) :
    (cmdFindDictionaryEntry env entry.word).length = 1 := by
  have hfound := @find_dictionary_entry_eq env entry [] [] ended hfile (by simp)
  rw [hfound, htoken]
  show (definitionPieces token).length = 1
  rw [definition_pieces_short hnonempty hshort]
  rfl

/-- The second sense is lost. -/
theorem definition_cut_at_colon :
    ¬ ∀ (env : ChatEnv) (before after : List DictionaryEntry) (entry : DictionaryEntry)
      (ended : Bool) (s : SmsRuntime),
      env.dictionary = some (dictionaryText ended (before ++ entry :: after)) →
      (∀ other ∈ before, other.word ≠ entry.word) → -1 ≤ s.queuePos →
      s.queuePos + (cmdFindDictionaryEntry env entry.word).length < queueSize →
      AnsweredBy env entry.word s entry.definition := by
  intro h
  have hfile : (dictionaryEnv true twoSenses).dictionary =
    some (dictionaryText true ([] ++ twoSenses :: [])) := rfl
  have hroom : start.queuePos +
      (cmdFindDictionaryEntry (dictionaryEnv true twoSenses) twoSenses.word).length <
        queueSize := by
    rw [length_short_answer hfile (ascii "Thus") rfl (by decide) (by decide)]
    decide
  have hanswered := h _ [] [] twoSenses true start hfile (by simp) (by decide) hroom
  have hclean := (@answer_texts_iff _ twoSenses [] [] true [] hfile (by simp)).1
    (by simpa using hanswered.texts)
  exact hclean.1 (by decide)

/-- The only line of a file that does not end with a newline. -/
theorem last_definition_answered :
    ∃ env : ChatEnv, env.dictionary = some (dictionaryText false [oneSense]) ∧
      AnsweredBy env oneSense.word start oneSense.definition := by
  have hfile : (dictionaryEnv false oneSense).dictionary =
    some (dictionaryText false ([] ++ oneSense :: [])) := rfl
  have hroom : start.queuePos +
      (cmdFindDictionaryEntry (dictionaryEnv false oneSense) oneSense.word).length <
        queueSize := by
    rw [length_short_answer hfile (ascii "Thus") rfl (by decide) (by decide)]
    decide
  refine ⟨dictionaryEnv false oneSense, hfile, ?_⟩
  exact (dictionary_answer_iff hfile (by simp) (by decide) hroom).1.2 ⟨by decide, rfl, rfl⟩

end OpenQti.Chat
