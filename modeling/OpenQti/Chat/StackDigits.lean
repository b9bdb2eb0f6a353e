import OpenQti.Chat.Schedule

/-!
# Digits behind the buffer of a number

`get_int_from_str` copies two bytes into a buffer and reads a number from it without a terminator.
Where a number begins in these bytes, the digits that follow on the stack belong to it. With seven
of them the number is below the largest `long`, and every byte can be made of it.
-/

namespace OpenQti.Chat

open Text

variable {str : List UInt8} {offset : Nat} {tail : List UInt8} {sign : Int}

/-- There is a number of seven digits behind the buffer. -/
structure SevenDigits (tail : List UInt8) : Prop where
  length : tail.length = 7
  digits : tail.all isDigit = true

/-- The number that is read goes on with the digits behind the buffer. -/
def ReadsOn (sign : Int) (str : List UInt8) (offset : Nat) : Prop :=
  ∃ n < 100, ∀ tail, SevenDigits tail →
    getIntFromStr tail str offset = sign * ((n * 10 ^ 7 + digits tail : Nat) : Int)

theorem SevenDigits.digits_append (h : SevenDigits tail) {text : List UInt8}
    (htext : ∀ c ∈ text, isDigit c = true) :
    Text.digits (text ++ tail) = Text.digits text * 10 ^ 7 + Text.digits tail := by
  rw [digits_append_digits htext, List.takeWhile_eq_self_iff.2 (List.all_eq_true.1 h.digits),
    h.length]

theorem digits_lt_hundred {text : List UInt8} (h : text.length ≤ 2) : digits text < 100 := by
  have hlt := digits_lt_of_length h
  omega

theorem SevenDigits.digits_lt (h : SevenDigits tail) : Text.digits tail < 10 ^ 7 := by
  have hlt := Text.digits_lt tail
  rwa [h.length] at hlt

/-- A number that begins with a digit. -/
theorem SevenDigits.atoi (h : SevenDigits tail) (c : UInt8) (rest : List UInt8)
    (htext : ∀ b ∈ c :: rest, isDigit b = true) (hshort : (c :: rest).length ≤ 2) :
    Text.atoi (c :: (rest ++ tail)) =
      ((Text.digits (c :: rest) * 10 ^ 7 + Text.digits tail : Nat) : Int) := by
  have hvalue := h.digits_append htext
  have htail := h.digits_lt
  have hfront := digits_lt_hundred hshort
  rw [List.cons_append] at hvalue
  rw [atoi_of_digit (htext c List.mem_cons_self), hvalue]
  omega

/-- The digits behind a number that begins with a digit belong to it. -/
theorem get_int_from_str_digit (h : isDigit (str.getD offset 0) = true) :
    ReadsOn 1 str offset := by
  by_cases hsecond : isDigit (str.getD (offset + 1) 0) = true
  · refine ⟨digits [str.getD offset 0, str.getD (offset + 1) 0], digits_lt_hundred (by simp), ?_⟩
    intro tail htail
    rw [getIntFromStr, if_pos hsecond, Int.one_mul]
    exact htail.atoi _ [_] (List.forall_mem_cons.2 ⟨h, by simpa using hsecond⟩) (by simp)
  · refine ⟨digits [48, str.getD offset 0], digits_lt_hundred (by simp), ?_⟩
    intro tail htail
    rw [getIntFromStr, if_neg hsecond, Int.one_mul]
    exact htail.atoi _ [_] (List.forall_mem_cons.2 ⟨rfl, by simpa using h⟩) (by simp)

/-- Either no number is read, or it goes on behind the buffer. -/
theorem get_int_from_str_cases (str : List UInt8) (offset : Nat) :
    (∀ tail, getIntFromStr tail str offset = 0) ∨
      ReadsOn 1 str offset ∨ ReadsOn (-1) str offset := by
  by_cases hfirst : isDigit (str.getD offset 0) = true
  · exact .inr (.inl (get_int_from_str_digit hfirst))
  by_cases hsecond : isDigit (str.getD (offset + 1) 0) = true
  · -- The first byte may be skipped, or be a sign.
    have hone : ∀ b ∈ [str.getD (offset + 1) 0], isDigit b = true := by simpa using hsecond
    have hlt : digits [str.getD (offset + 1) 0] < 100 := digits_lt_hundred (by simp)
    by_cases hspace : isSpace (str.getD offset 0) = true
    · refine .inr (.inl ⟨_, hlt, fun tail htail => ?_⟩)
      rw [getIntFromStr, if_pos hsecond, Int.one_mul, ← List.singleton_append,
        atoi_append (by simpa using hspace)]
      exact htail.atoi _ [] hone (by simp)
    by_cases hminus : str.getD offset 0 = 45
    · refine .inr (.inr ⟨_, hlt, fun tail htail => ?_⟩)
      have hvalue := htail.digits_append hone
      have hrange := htail.digits_lt
      rw [List.singleton_append] at hvalue
      rw [getIntFromStr, if_pos hsecond, hminus, atoi_minus, hvalue]
      omega
    by_cases hplus : str.getD offset 0 = 43
    · refine .inr (.inl ⟨_, hlt, fun tail htail => ?_⟩)
      have hvalue := htail.digits_append hone
      have hrange := htail.digits_lt
      rw [List.singleton_append] at hvalue
      rw [getIntFromStr, if_pos hsecond, hplus, atoi_plus, hvalue]
      omega
    · refine .inl fun tail => ?_
      rw [getIntFromStr, if_pos hsecond]
      exact atoi_of_not_digit hspace hminus hplus hfirst
  · refine .inl fun tail => ?_
    have hzero : digits ([48] ++ str.getD offset 0 :: tail) = digits [48] := by
      refine digits_append (List.forall_mem_singleton.2 rfl) fun b hb => ?_
      cases hb
      simpa using hfirst
    rw [List.singleton_append] at hzero
    rw [getIntFromStr, if_neg hsecond, atoi_of_digit rfl, hzero]
    rfl

/-- The hours or minutes that are read with some bytes behind the buffer. -/
def byteRead (tail str : List UInt8) (offset : Nat) : UInt8 :=
  UInt8.ofInt (getIntFromStr tail str offset)

theorem ReadsOn.byte (h : ReadsOn sign str offset) : ∃ n : Nat, n < 100 ∧ ∀ tail,
    SevenDigits tail →
      ((byteRead tail str offset).toNat : Int) =
        sign * ((n * 10 ^ 7 + digits tail : Nat) : Int) % 256 := by
  obtain ⟨n, hn, hread⟩ := h
  refine ⟨n, hn, fun tail htail => ?_⟩
  rw [byteRead, to_nat_of_int, hread tail htail]

/-- The byte with either sign. -/
theorem ReadsOn.signed_byte (h : ReadsOn 1 str offset ∨ ReadsOn (-1) str offset) :
    ∃ n : Nat, ∀ tail, SevenDigits tail →
      (byteRead tail str offset).toNat = (n * 10 ^ 7 + digits tail) % 256 ∨
        ((byteRead tail str offset).toNat + (n * 10 ^ 7 + digits tail)) % 256 = 0 := by
  rcases h with h | h
  · obtain ⟨n, hn, hbyte⟩ := h.byte
    refine ⟨n, fun tail htail => .inl ?_⟩
    have hread := hbyte tail htail
    omega
  · obtain ⟨n, hn, hbyte⟩ := h.byte
    refine ⟨n, fun tail htail => .inr ?_⟩
    have hread := hbyte tail htail
    omega

/-- With 64 behind the buffer the number is no hour and no minute: 10000000 is 128 for a byte. -/
theorem ReadsOn.out_of_range (h : ReadsOn 1 str offset ∨ ReadsOn (-1) str offset) :
    60 ≤ (byteRead [48, 48, 48, 48, 48, 54, 52] str offset).toNat := by
  have hvalue : digits [48, 48, 48, 48, 48, 54, 52] = 64 := rfl
  obtain ⟨n, hbyte⟩ := ReadsOn.signed_byte h
  have hread := hbyte [48, 48, 48, 48, 48, 54, 52] ⟨rfl, rfl⟩
  rw [hvalue] at hread
  omega

/-- There are digits that make 0 of the number, and others that make 1 of it. -/
theorem exists_seven_digits (n : Nat) : ∃ zero one, SevenDigits zero ∧ SevenDigits one ∧
    (n * 10 ^ 7 + digits zero) % 256 = 0 ∧ (n * 10 ^ 7 + digits one) % 256 = 1 := by
  rcases Nat.mod_two_eq_zero_or_one n with heven | hodd
  · have hzero : digits [48, 48, 48, 48, 48, 48, 48] = 0 := rfl
    have hone : digits [48, 48, 48, 48, 48, 48, 49] = 1 := rfl
    refine ⟨[48, 48, 48, 48, 48, 48, 48], [48, 48, 48, 48, 48, 48, 49], ⟨rfl, rfl⟩, ⟨rfl, rfl⟩,
      ?_, ?_⟩
    · omega
    · omega
  · have hzero : digits [48, 48, 48, 48, 49, 50, 56] = 128 := rfl
    have hone : digits [48, 48, 48, 48, 49, 50, 57] = 129 := rfl
    refine ⟨[48, 48, 48, 48, 49, 50, 56], [48, 48, 48, 48, 49, 50, 57], ⟨rfl, rfl⟩, ⟨rfl, rfl⟩,
      ?_, ?_⟩
    · omega
    · omega

theorem ReadsOn.zero (h : ReadsOn 1 str offset ∨ ReadsOn (-1) str offset) :
    ∃ tail, (byteRead tail str offset).toNat = 0 := by
  obtain ⟨n, hbyte⟩ := ReadsOn.signed_byte h
  obtain ⟨tail, _, htail, _, hzero, _⟩ := exists_seven_digits n
  have hread := hbyte tail htail
  have hlt := (byteRead tail str offset).toNat_lt
  exact ⟨tail, by omega⟩

theorem ReadsOn.one (h : ReadsOn 1 str offset) : ∃ tail, (byteRead tail str offset).toNat = 1 := by
  obtain ⟨n, hn, hbyte⟩ := h.byte
  obtain ⟨_, tail, _, htail, _, hone⟩ := exists_seven_digits n
  have hread := hbyte tail htail
  exact ⟨tail, by omega⟩

theorem byte_read_zero (h : ∀ tail, getIntFromStr tail str offset = 0) (tail : List UInt8) :
    (byteRead tail str offset).toNat = 0 := by
  rw [byteRead, h]
  rfl

end OpenQti.Chat
