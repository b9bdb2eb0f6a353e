import Mathlib.Algebra.Group.Nat.Defs
import Mathlib.Data.List.Basic
import Mathlib.Data.List.TakeWhile

/-!
# Texts of C

A text is the list of the bytes before its terminator. The functions follow those of the standard
library: `strtok`, `strstr`, `atoi`, `sprintf`, and the lines that a loop of `fgets` reads. Two
facts about each reader are what its users need: what it reads from a text that was written to be
read, and what it can never read. Of what `sprintf` writes they need the length.
-/

namespace Text

/-- The bytes of a literal. -/
def ascii (literal : String) : List UInt8 := literal.toList.map fun c => UInt8.ofNat c.toNat

/-- A literal is `String.ofList` of its characters by definition, so the equation also serves where
a literal stands. -/
theorem ascii_of_list (chars : List Char) :
    ascii (String.ofList chars) = chars.map fun c => UInt8.ofNat c.toNat := by
  simp [ascii]

theorem length_ascii (chars : List Char) : (ascii (String.ofList chars)).length = chars.length := by
  rw [ascii_of_list, List.length_map]

/-- `'\n'`. -/
def newline : UInt8 := 10

/-! ## Terminators -/

theorem zero_not_mem_take_while (bytes : List UInt8) : 0 ∉ bytes.takeWhile (· ≠ 0) := by
  intro hzero
  simpa using List.mem_takeWhile_imp hzero

/-- A text that is not terminated is read together with what follows it. -/
theorem take_while_append {text : List UInt8} (h : 0 ∉ text) (rest : List UInt8) :
    (text ++ rest).takeWhile (· ≠ 0) = text ++ rest.takeWhile (· ≠ 0) :=
  List.takeWhile_append_of_pos fun _ hc => decide_eq_true fun heq => h (heq ▸ hc)

theorem take_while_eq_self {text : List UInt8} (h : 0 ∉ text) : text.takeWhile (· ≠ 0) = text :=
  List.takeWhile_eq_self_iff.2 fun _ hc => decide_eq_true fun heq => h (heq ▸ hc)

/-! ## Numbers -/

/-- The conversion `%u`. -/
def decimal (n : Nat) : List UInt8 := (Nat.toDigits 10 n).map fun c => UInt8.ofNat c.toNat

/-- The conversion `%i`. -/
def signed (i : Int) : List UInt8 := if i < 0 then 45 :: decimal (-i).toNat else decimal i.toNat

/-- The conversion `%x`. -/
def hexadecimal (n : Nat) : List UInt8 := (Nat.toDigits 16 n).map fun c => UInt8.ofNat c.toNat

/-- A conversion with a minimal width. -/
def padded (width : Nat) (fill : UInt8) (text : List UInt8) : List UInt8 :=
  List.replicate (width - text.length) fill ++ text

@[simp]
theorem length_padded (width : Nat) (fill : UInt8) (text : List UInt8) :
    (padded width fill text).length = max width text.length := by
  simp only [padded, List.length_append, List.length_replicate]
  omega

theorem length_decimal_pos (n : Nat) : 0 < (decimal n).length := by
  rw [decimal, List.length_map]
  exact Nat.length_toDigits_pos

theorem length_decimal_le {n k : Nat} (hk : 0 < k) (h : n < 10 ^ k) : (decimal n).length ≤ k := by
  rw [decimal, List.length_map]
  exact (Nat.length_toDigits_le_iff (by decide) hk).2 h

theorem length_hexadecimal_le {n k : Nat} (hk : 0 < k) (h : n < 16 ^ k) :
    (hexadecimal n).length ≤ k := by
  rw [hexadecimal, List.length_map]
  exact (Nat.length_toDigits_le_iff (by decide) hk).2 h

theorem length_signed_le {i : Int} {k : Nat} (hk : 0 < k) (hlow : (-i).toNat < 10 ^ k)
    (hhigh : i.toNat < 10 ^ k) : (signed i).length ≤ k + 1 := by
  unfold signed
  split
  · exact Nat.succ_le_succ (length_decimal_le hk hlow)
  · exact (length_decimal_le hk hhigh).trans (Nat.le_succ k)

theorem length_decimal_uint8 (n : UInt8) : (decimal n.toNat).length ≤ 3 := by
  have hn := n.toNat_lt
  exact length_decimal_le (by decide) (by omega)

theorem length_decimal_uint16 (n : UInt16) : (decimal n.toNat).length ≤ 5 := by
  have hn := n.toNat_lt
  exact length_decimal_le (by decide) (by omega)

theorem length_decimal_uint32 (n : UInt32) : (decimal n.toNat).length ≤ 10 := by
  have hn := n.toNat_lt
  exact length_decimal_le (by decide) (by omega)

theorem length_signed_int32 (i : Int32) : (signed i.toInt).length ≤ 11 := by
  have hlow := i.le_toInt
  have hhigh := i.toInt_lt
  exact length_signed_le (by decide) (by omega) (by omega)

/-- `isspace(c)`. -/
def isSpace (c : UInt8) : Bool := c = 32 ∨ (9 ≤ c ∧ c ≤ 13)

/-- `isdigit(c)`. -/
def isDigit (c : UInt8) : Bool := 48 ≤ c ∧ c ≤ 57

/-- The value of the digits that a text starts with. -/
def digits (text : List UInt8) : Nat :=
  (text.takeWhile isDigit).foldl (fun n c => 10 * n + (c.toNat - 48)) 0

/-- `atoi(text)`, which keeps to the range of a 32-bit `long` as `strtol` does. -/
def atoi (text : List UInt8) : Int :=
  let text := text.dropWhile isSpace
  let value : Int :=
    match text with
    | 45 :: rest => -(digits rest : Int)
    | 43 :: rest => digits rest
    | _ => digits text
  max (-2147483648) (min value 2147483647)

theorem to_nat_digit {n : Nat} {c : Char} (hc : c ∈ Nat.toDigits 10 n) :
    48 ≤ c.toNat ∧ c.toNat ≤ 57 := by
  have hdigit := Nat.isDigit_of_mem_toDigits (by decide) (by decide) hc
  simp only [Char.isDigit, ge_iff_le, Bool.and_eq_true, decide_eq_true_eq,
    UInt32.le_iff_toNat_le] at hdigit
  exact hdigit

theorem is_digit_of_mem_decimal {n : Nat} {c : UInt8} (hc : c ∈ decimal n) : isDigit c = true := by
  obtain ⟨d, hd, rfl⟩ := List.mem_map.1 hc
  have hdigit := to_nat_digit hd
  simp only [isDigit, decide_eq_true_eq, UInt8.le_iff_toNat_le, UInt8.toNat_ofNat']
  simp only [UInt8.reduceToNat]
  omega

/-- The digits that are printed are read back. -/
theorem digits_decimal (n : Nat) : digits (decimal n) = n := by
  have htake : (decimal n).takeWhile isDigit = decimal n :=
    List.takeWhile_eq_self_iff.2 fun c hc => is_digit_of_mem_decimal hc
  rw [digits, htake, decimal, List.foldl_map]
  calc _ = Nat.ofDigitChars 10 (Nat.toDigits 10 n) 0 := by
        refine List.foldl_ext _ _ _ fun value c hc => ?_
        have hdigit := to_nat_digit hc
        have hzero : '0'.toNat = 48 := rfl
        simp only [UInt8.toNat_ofNat', hzero]
        omega
    _ = n := Nat.ofDigitChars_ten_toDigits

theorem is_digit_cases {c : UInt8} (h : isDigit c = true) :
    isSpace c = false ∧ c ≠ 45 ∧ c ≠ 43 := by
  simp only [isDigit, decide_eq_true_eq, UInt8.le_iff_toNat_le, UInt8.reduceToNat] at h
  simp only [isSpace, decide_eq_false_iff_not, ne_eq, ← UInt8.toNat_inj, UInt8.le_iff_toNat_le,
    UInt8.reduceToNat]
  omega

/-- A number that begins with a digit. -/
theorem atoi_of_digit {c : UInt8} {rest : List UInt8} (h : isDigit c = true) :
    atoi (c :: rest) = min (digits (c :: rest) : Int) 2147483647 := by
  obtain ⟨hspace, hminus, hplus⟩ := is_digit_cases h
  have hpos := Int.natCast_nonneg (digits (c :: rest))
  simp only [atoi, List.dropWhile_cons_of_neg (show ¬ isSpace c = true by simp [hspace])]
  split
  · next heq => exact absurd (List.cons.inj heq).1 hminus
  · next heq => exact absurd (List.cons.inj heq).1 hplus
  · omega

/-- A number with a sign. -/
theorem atoi_minus (rest : List UInt8) :
    atoi (45 :: rest) = max (-2147483648) (-(digits rest : Int)) := by
  have hpos := Int.natCast_nonneg (digits rest)
  show max (-2147483648) (min (-(digits rest : Int)) 2147483647) = _
  omega

theorem atoi_plus (rest : List UInt8) :
    atoi (43 :: rest) = min (digits rest : Int) 2147483647 := by
  have hpos := Int.natCast_nonneg (digits rest)
  show max (-2147483648) (min (digits rest : Int) 2147483647) = _
  omega

theorem atoi_decimal {n : Nat} (hn : n ≤ 2147483647) : atoi (decimal n) = n := by
  have hdigits := digits_decimal n
  cases htext : decimal n with
  | nil => exact absurd (congrArg List.length htext) (length_decimal_pos n).ne'
  | cons c rest =>
      have hc : isDigit c = true := by
        refine is_digit_of_mem_decimal (n := n) ?_
        rw [htext]
        exact List.mem_cons_self
      rw [htext] at hdigits
      rw [atoi_of_digit hc, hdigits]
      omega

/-- Blanks in front of a number are skipped. -/
theorem atoi_append {blanks : List UInt8} (h : ∀ b ∈ blanks, isSpace b = true)
    (text : List UInt8) : atoi (blanks ++ text) = atoi text := by
  simp only [atoi, List.dropWhile_append_of_pos h]

/-- Digits are taken up from the left. -/
theorem foldl_digits (text : List UInt8) (n : Nat) :
    text.foldl (fun n c => 10 * n + (c.toNat - 48)) n =
      n * 10 ^ text.length + text.foldl (fun n c => 10 * n + (c.toNat - 48)) 0 := by
  induction text generalizing n with
  | nil => simp
  | cons c text ih =>
      rw [List.foldl_cons, List.foldl_cons, ih, ih (10 * 0 + _), List.length_cons, Nat.pow_succ]
      grind

/-- A number is continued by the digits behind it. -/
theorem digits_append_digits {text : List UInt8} (htext : ∀ c ∈ text, isDigit c = true)
    (rest : List UInt8) :
    digits (text ++ rest) = digits text * 10 ^ (rest.takeWhile isDigit).length + digits rest := by
  rw [digits, digits, digits, List.takeWhile_append_of_pos htext, List.foldl_append, foldl_digits,
    List.takeWhile_eq_self_iff.2 htext]

theorem digits_of_not_digit {text : List UInt8} (h : ∀ c ∈ text.head?, isDigit c = false) :
    text.takeWhile isDigit = [] ∧ digits text = 0 := by
  have hstop : text.takeWhile isDigit = [] := by
    cases text with
    | nil => rfl
    | cons c rest => rw [List.takeWhile_cons_of_neg (by simp [h c rfl])]
  refine ⟨hstop, ?_⟩
  rw [digits, hstop]
  rfl

/-- A text that does not begin with a number. -/
theorem atoi_of_not_digit {c : UInt8} {rest : List UInt8} (hspace : ¬ isSpace c = true)
    (hminus : c ≠ 45) (hplus : c ≠ 43) (hdigit : ¬ isDigit c = true) : atoi (c :: rest) = 0 := by
  have hzero : digits (c :: rest) = 0 := by
    refine (digits_of_not_digit fun b hb => ?_).2
    cases hb
    simpa using hdigit
  simp only [atoi, List.dropWhile_cons_of_neg hspace]
  split
  · next heq => exact absurd (List.cons.inj heq).1 hminus
  · next heq => exact absurd (List.cons.inj heq).1 hplus
  · rw [hzero]
    rfl

/-- Only the digits that a text begins with are read. -/
theorem digits_append {text rest : List UInt8} (htext : ∀ c ∈ text, isDigit c = true)
    (hrest : ∀ c ∈ rest.head?, isDigit c = false) : digits (text ++ rest) = digits text := by
  obtain ⟨hstop, hzero⟩ := digits_of_not_digit hrest
  rw [digits_append_digits htext, hstop, hzero]
  simp

theorem digits_lt (text : List UInt8) : digits text < 10 ^ text.length := by
  induction text with
  | nil => decide
  | cons c text ih =>
      by_cases hc : isDigit c = true
      · have hdigit : digits [c] ≤ 9 := by
          simp only [isDigit, decide_eq_true_eq, UInt8.le_iff_toNat_le, UInt8.reduceToNat] at hc
          simp only [digits, isDigit, UInt8.le_iff_toNat_le, UInt8.reduceToNat, hc,
            List.takeWhile_cons, and_self, decide_true, if_true, List.takeWhile_nil,
            List.foldl_cons, List.foldl_nil]
          omega
        have hlength : 10 ^ (text.takeWhile isDigit).length ≤ 10 ^ text.length :=
          Nat.pow_le_pow_right (by decide) (List.takeWhile_sublist _).length_le
        have hfirst : digits [c] * 10 ^ (text.takeWhile isDigit).length ≤ 9 * 10 ^ text.length :=
          Nat.mul_le_mul hdigit hlength
        rw [← List.singleton_append, digits_append_digits (by simpa using hc), List.length_append,
          List.length_singleton, Nat.pow_add]
        omega
      · rw [digits, List.takeWhile_cons_of_neg hc]
        exact Nat.pow_pos (by decide)

theorem digits_lt_of_length {text : List UInt8} {k : Nat} (h : text.length ≤ k) :
    digits text < 10 ^ k :=
  (digits_lt text).trans_le (Nat.pow_le_pow_right (by decide) h)

/-- A number has no more digits than the text it is read from has characters. -/
theorem atoi_bounds {text : List UInt8} {k : Nat} (h : text.length ≤ k) :
    -((10 ^ k : Nat) : Int) < atoi text ∧ atoi text < ((10 ^ k : Nat) : Int) := by
  have hskip : (text.dropWhile isSpace).length ≤ k :=
    (List.dropWhile_sublist _).length_le.trans h
  have htail : ∀ c rest, text.dropWhile isSpace = c :: rest → digits rest < 10 ^ k := by
    intro c rest heq
    rw [heq, List.length_cons] at hskip
    exact digits_lt_of_length (by omega)
  simp only [atoi]
  split
  · next rest heq =>
      have hrest := htail _ _ heq
      omega
  · next rest heq =>
      have hrest := htail _ _ heq
      omega
  · have hdigits := digits_lt_of_length hskip
    omega

/-- A number that is kept in a byte. -/
theorem to_nat_of_int (value : Int) : ((UInt8.ofInt value).toNat : Int) = value % 256 := by
  have hpos := Int.emod_nonneg value (show (256 : Int) ≠ 0 by decide)
  have hlt := Int.emod_lt_of_pos value (show (0 : Int) < 256 by decide)
  rw [UInt8.ofInt, UInt8.toNat_ofNat']
  omega

/-- The text is a number and nothing else: digits, perhaps with a sign, and blanks around them. -/
def Denotes (text : List UInt8) (value : Int) : Prop :=
  ∃ blanks sign number trailing : List UInt8, text = blanks ++ (sign ++ (number ++ trailing)) ∧
    (∀ b ∈ blanks, isSpace b = true) ∧ (∀ b ∈ trailing, isSpace b = true) ∧
    number ≠ [] ∧ (∀ c ∈ number, isDigit c = true) ∧
    (sign = [45] ∧ value = -(digits number : Int) ∨
      (sign = [] ∨ sign = [43]) ∧ value = digits number)

/-- The value of a number is read, as far as it is in the range. -/
theorem atoi_of_denotes {text : List UInt8} {value : Int} (h : Denotes text value) :
    atoi text = max (-2147483648) (min value 2147483647) := by
  obtain ⟨blanks, sign, number, trailing, rfl, hblanks, htrailing, hnonempty, hnumber, hvalue⟩ := h
  have hdigits : digits (number ++ trailing) = digits number := by
    refine digits_append hnumber fun c hc => ?_
    have hspace := htrailing c (List.mem_of_mem_head? hc)
    by_contra hdigit
    rw [(is_digit_cases (Bool.not_eq_false _ ▸ hdigit)).1] at hspace
    cases hspace
  rw [atoi_append hblanks]
  obtain ⟨rfl, rfl⟩ | ⟨rfl | rfl, rfl⟩ := hvalue
  · rw [← hdigits]
    rfl
  · obtain ⟨c, rest, rfl⟩ := List.exists_cons_of_ne_nil hnonempty
    rw [List.nil_append, List.cons_append, atoi_of_digit (hnumber c List.mem_cons_self),
      ← List.cons_append, hdigits]
    omega
  · rw [← hdigits]
    rfl

theorem length_signed_atoi (text : List UInt8) : (signed (atoi text)).length ≤ 11 := by
  have hlow : -2147483648 ≤ atoi text := Int.le_max_left ..
  have hhigh : atoi text ≤ 2147483647 :=
    Int.max_le.2 ⟨by decide, Int.min_le_right ..⟩
  exact length_signed_le (by decide) (by omega) (by omega)

/-! ## Formats -/

/-- The letters that end a conversion. -/
def isConversion (c : Char) : Bool := c = 's' ∨ c = 'i' ∨ c = 'd' ∨ c = 'u' ∨ c = 'x'

/-- What `printf` writes, from some place in the format on; `inside` is true in a conversion. Each
conversion is replaced by the next argument, which is given as it is to be printed. -/
def printfFrom : Bool → List Char → List (List UInt8) → List UInt8
  | _, [], _ => []
  | false, c :: chars, args =>
      if c = '%' then printfFrom true chars args
      else UInt8.ofNat c.toNat :: printfFrom false chars args
  | true, c :: chars, args =>
      if isConversion c then args.headD [] ++ printfFrom false chars args.tail
      else printfFrom true chars args

/-- The text that `snprintf` is asked for. What it returns is the length of this text, whatever the
size of the buffer. -/
def sprintf (format : String) (args : List (List UInt8)) : List UInt8 :=
  printfFrom false format.toList args

/-- The characters of a format that are printed as they are. -/
def fixedLength : Bool → List Char → Nat
  | _, [] => 0
  | false, c :: chars => if c = '%' then fixedLength true chars else fixedLength false chars + 1
  | true, c :: chars => if isConversion c then fixedLength false chars else fixedLength true chars

/-- The number of arguments that a format takes. -/
def conversions : Bool → List Char → Nat
  | _, [] => 0
  | false, c :: chars => if c = '%' then conversions true chars else conversions false chars
  | true, c :: chars =>
      if isConversion c then conversions false chars + 1 else conversions true chars

/-- The length of all arguments together. -/
def totalLength (args : List (List UInt8)) : Nat := args.foldr (fun arg n => arg.length + n) 0

theorem length_printf_from (inside : Bool) (chars : List Char) (args : List (List UInt8)) :
    (printfFrom inside chars args).length =
      fixedLength inside chars + totalLength (args.take (conversions inside chars)) := by
  induction chars generalizing inside args with
  | nil => cases inside <;> rfl
  | cons c chars ih =>
      cases inside with
      | false =>
          simp only [printfFrom, fixedLength, conversions]
          split
          · exact ih true args
          · rw [List.length_cons, ih false args]
            omega
      | true =>
          simp only [printfFrom, fixedLength, conversions]
          split
          · rw [List.length_append, ih false args.tail]
            cases args with
            | nil => simp
            | cons arg args =>
                simp only [List.headD_cons, List.tail_cons, List.take_succ_cons, totalLength,
                  List.foldr_cons]
                omega
          · exact ih true args

/-- The value that `snprintf` returns. -/
theorem length_sprintf (chars : List Char) (args : List (List UInt8))
    (h : conversions false chars = args.length) :
    (sprintf (String.ofList chars) args).length =
      fixedLength false chars + totalLength args := by
  rw [sprintf, String.toList_ofList, length_printf_from, h, List.take_length]

/-- A format whose arguments have a common bound. -/
theorem length_sprintf_le {chars : List Char} {args : List (List UInt8)} {bound : Nat} (k : Nat)
    (hargs : ∀ arg ∈ args, arg.length ≤ k) (hcount : conversions false chars = args.length)
    (hle : fixedLength false chars + conversions false chars * k ≤ bound) :
    (sprintf (String.ofList chars) args).length ≤ bound := by
  have hsum : totalLength args ≤ args.length * k := by
    clear hcount hle
    induction args with
    | nil => exact Nat.zero_le _
    | cons arg args ih =>
        have harg := hargs arg (by simp)
        have hrest := ih fun other hother => hargs other (by simp [hother])
        have htotal : totalLength (arg :: args) = arg.length + totalLength args := rfl
        rw [htotal, List.length_cons, Nat.succ_mul]
        omega
  rw [hcount] at hle
  rw [length_sprintf chars args hcount]
  omega

/-- A format is printed in full. -/
theorem le_length_sprintf {chars : List Char} {args : List (List UInt8)} {bound : Nat}
    (hcount : conversions false chars = args.length)
    (hle : bound ≤ fixedLength false chars + totalLength args) :
    bound ≤ (sprintf (String.ofList chars) args).length := by
  rw [length_sprintf chars args hcount]
  exact hle

/-- A format without conversions. -/
theorem length_sprintf_nil_le {chars : List Char} {bound : Nat} (hnone : conversions false chars = 0)
    (hle : fixedLength false chars ≤ bound) :
    (sprintf (String.ofList chars) []).length ≤ bound :=
  length_sprintf_le 0 (by simp) hnone (by simpa using hle)

/-! ## Tokens -/

/-- `strtok(text, separators)`: the first token, and the text after the separator that ends it. The
next token is the first one of that text. -/
def strtok (separator : UInt8 → Bool) (text : List UInt8) : Option (List UInt8 × List UInt8) :=
  let start := text.dropWhile separator
  if start = [] then none
  else some (start.takeWhile (!separator ·), (start.dropWhile (!separator ·)).tail)

variable {separator : UInt8 → Bool} {token rest text : List UInt8} {c : UInt8}

/-- A token is not empty, and no separator is in it. -/
theorem strtok_token (h : strtok separator text = some (token, rest)) :
    token ≠ [] ∧ ∀ b ∈ token, separator b = false := by
  simp only [strtok] at h
  cases hskip : text.dropWhile separator with
  | nil => simp [hskip] at h
  | cons b tail =>
      have hb : separator b = false := by
        have hhead := List.head?_dropWhile_not separator text
        simpa [hskip] using hhead
      rw [hskip, if_neg (by simp), Option.some.injEq, Prod.mk.injEq] at h
      rw [← h.1]
      constructor
      · simp [hb]
      · intro d hd
        simpa using List.mem_takeWhile_imp hd

/-- A token and what follows it are parts of the text. -/
theorem strtok_mem (h : strtok separator text = some (token, rest)) :
    (∀ b ∈ token, b ∈ text) ∧ ∀ b ∈ rest, b ∈ text := by
  simp only [strtok] at h
  split_ifs at h
  rw [Option.some.injEq, Prod.mk.injEq] at h
  obtain ⟨rfl, rfl⟩ := h
  constructor
  · intro b hb
    exact (List.dropWhile_sublist _).mem ((List.takeWhile_sublist _).mem hb)
  · intro b hb
    exact (List.dropWhile_sublist _).mem ((List.dropWhile_sublist _).mem (List.mem_of_mem_tail hb))

/-- A token that was written with a separator after it. -/
theorem strtok_cons (hnonempty : token ≠ []) (htoken : ∀ b ∈ token, separator b = false)
    (hc : separator c = true) : strtok separator (token ++ c :: rest) = some (token, rest) := by
  have hskip : (token ++ c :: rest).dropWhile separator = token ++ c :: rest := by
    cases token with
    | nil => exact absurd rfl hnonempty
    | cons b tail => simp [htoken b (by simp)]
  have htake : (token ++ c :: rest).takeWhile (!separator ·) = token := by
    rw [List.takeWhile_append_of_pos (by simpa using htoken)]
    simp [hc]
  have hdrop : (token ++ c :: rest).dropWhile (!separator ·) = c :: rest := by
    rw [List.dropWhile_append_of_pos (by simpa using htoken)]
    simp [hc]
  simp only [strtok]
  rw [hskip, if_neg (by simp), htake, hdrop, List.tail_cons]

/-- A text without a separator is its own token. -/
theorem strtok_whole (hnonempty : text ≠ []) (htext : ∀ b ∈ text, separator b = false) :
    strtok separator text = some (text, []) := by
  have hskip : text.dropWhile separator = text := by
    cases text with
    | nil => rfl
    | cons b tail => simp [htext b (by simp)]
  have htake : text.takeWhile (!separator ·) = text :=
    List.takeWhile_eq_self_iff.2 (by simpa using htext)
  have hdrop : text.dropWhile (!separator ·) = [] :=
    List.dropWhile_eq_nil_iff.2 (by simpa using htext)
  simp only [strtok]
  rw [hskip, if_neg hnonempty, htake, hdrop, List.tail_nil]

/-- There is no token exactly if there is nothing but separators. -/
theorem strtok_eq_none_iff : strtok separator text = none ↔ ∀ b ∈ text, separator b = true := by
  rw [← List.dropWhile_eq_nil_iff]
  simp [strtok]

theorem strtok_none (htext : ∀ b ∈ text, separator b = true) : strtok separator text = none :=
  strtok_eq_none_iff.2 htext

/-! ## Words -/

/-- The words of a text: what stands between separators, without what is empty. -/
def words (separator : UInt8 → Bool) (text : List UInt8) : List (List UInt8) :=
  (text.splitOnP separator).filter (· ≠ [])

theorem words_of_not_mem (h : ∀ b ∈ text, separator b = false) :
    words separator text = if text = [] then [] else [text] := by
  rw [words, List.splitOnP_eq_singleton h]
  split <;> simp [*]

theorem words_append_cons (h : ∀ b ∈ text, separator b = false) (hc : separator c = true)
    (rest : List UInt8) :
    words separator (text ++ c :: rest) =
      if text = [] then words separator rest else text :: words separator rest := by
  rw [words, List.splitOnP_append_cons_of_forall_mem h c hc, List.filter_cons]
  split <;> simp_all [words]

/-! ## Substrings -/

/-- `strstr(text, needle) - text`, or `none` for a null pointer. -/
def strstr (needle : List UInt8) : List UInt8 → Option Nat
  | [] => if needle.isPrefixOf [] then some 0 else none
  | c :: text =>
      if needle.isPrefixOf (c :: text) then some 0 else (strstr needle text).map (· + 1)

/-- `strstr(text, needle) != NULL`. -/
def contains (needle text : List UInt8) : Bool := (strstr needle text).isSome

theorem contains_iff {needle text : List UInt8} : contains needle text = true ↔ needle <:+: text := by
  unfold contains
  induction text with
  | nil => simp [strstr, List.isPrefixOf_iff_prefix]
  | cons c text ih =>
      rw [List.infix_cons_iff, ← ih, strstr]
      by_cases hstarts : needle.isPrefixOf (c :: text) = true
      · simp [hstarts, List.isPrefixOf_iff_prefix.1 hstarts]
      · have hother : ¬ needle <+: c :: text := fun h => hstarts (List.isPrefixOf_iff_prefix.2 h)
        simp [hstarts, hother]

/-- A text that begins with the needle. -/
theorem strstr_append (needle rest : List UInt8) : strstr needle (needle ++ rest) = some 0 := by
  have hstarts : needle.isPrefixOf (needle ++ rest) = true :=
    List.isPrefixOf_iff_prefix.2 (List.prefix_append needle rest)
  cases htext : needle ++ rest with
  | nil =>
      rw [htext] at hstarts
      rw [strstr, if_pos hstarts]
  | cons c text =>
      rw [htext] at hstarts
      rw [strstr, if_pos hstarts]

/-- The lines that `while (fgets(buf, size, fp))` reads, with `room` for `size - 1` bytes; `line` has
been read already. -/
def fgetsLines (room : Nat) (line : List UInt8) : List UInt8 → List (List UInt8)
  | [] => if line = [] then [] else [line]
  | c :: file =>
      if c = newline ∨ line.length + 1 = room then (line ++ [c]) :: fgetsLines room [] file
      else fgetsLines room (line ++ [c]) file

/-- A line that fits is read as it was written. -/
theorem fgets_lines_append {room : Nat} {read : List UInt8} (line file : List UInt8)
    (hline : ∀ b ∈ line, b ≠ newline) (hroom : read.length + line.length < room) :
    fgetsLines room read (line ++ newline :: file) =
      (read ++ line ++ [newline]) :: fgetsLines room [] file := by
  induction line generalizing read with
  | nil => simp [fgetsLines]
  | cons b line ih =>
      have hb : b ≠ newline := hline b (by simp)
      rw [List.length_cons] at hroom
      rw [List.cons_append, fgetsLines, if_neg (by rintro (heq | hfull) <;> [exact hb heq; omega])]
      rw [ih (fun d hd => hline d (by simp [hd])) (by simp; omega)]
      simp

/-- A line at the end of the file, without a newline. -/
theorem fgets_lines_last {room : Nat} {read : List UInt8} (line : List UInt8)
    (hline : ∀ b ∈ line, b ≠ newline) (hroom : read.length + line.length < room)
    (hnonempty : read ++ line ≠ []) : fgetsLines room read line = [read ++ line] := by
  induction line generalizing read with
  | nil =>
      rw [List.append_nil] at hnonempty ⊢
      rw [fgetsLines, if_neg hnonempty]
  | cons b line ih =>
      have hb : b ≠ newline := hline b (by simp)
      rw [List.length_cons] at hroom
      rw [fgetsLines, if_neg (by rintro (heq | hfull) <;> [exact hb heq; omega])]
      rw [ih (fun d hd => hline d (by simp [hd])) (by simp; omega) (by simp)]
      simp

/-- A file of lines that fit is read line by line. -/
theorem fgets_lines_flat_map {room : Nat} {lines : List (List UInt8)}
    (hlines : ∀ line ∈ lines, (∀ b ∈ line, b ≠ newline) ∧ line.length < room) :
    fgetsLines room [] (lines.flatMap (· ++ [newline])) = lines.map (· ++ [newline]) := by
  induction lines with
  | nil => rfl
  | cons line lines ih =>
      obtain ⟨hclean, hfits⟩ := hlines line (by simp)
      rw [List.flatMap_cons, List.append_assoc, List.singleton_append,
        fgets_lines_append line _ hclean (by simpa using hfits),
        ih fun other hother => hlines other (by simp [hother])]
      rfl

end Text
