import OpenQti.Lib.Buffer
import OpenQti.Lib.Ensures
import OpenQti.Lib.LittleEndian
import OpenQti.Sms.Contents
import OpenQti.Sms.PduSafety

/-!
# Packing of seven-bit characters

`ascii_to_gsm7` translates a text by a table to seven-bit characters, some of them after an
escape character, and packs these into bytes; `gsm7_to_ascii` takes seven-bit characters out
of bytes, without a translation. A number says what both do: the bytes are its digits to the
base 256, and the characters those to the base 128. `pack_septets_ok` is the packing,
`septet_value` the unpacking, and `gsm7_packing_exact` puts them together.
-/

namespace OpenQti.Sms

open Buffer Except

/-! ## The table -/

/-- The table `Ascii8to7`. A value from 128 on stands for the escape character and the value
without its highest bit. -/
def ascii8to7Table : List UInt8 :=
  [63, 63, 63, 63, 63, 63, 63, 63, 63, 63, 10, 63, 138, 13, 63, 63,
    63, 63, 63, 63, 63, 63, 63, 63, 63, 63, 63, 63, 63, 63, 63, 63,
    32, 33, 34, 35, 2, 37, 38, 39, 40, 41, 42, 43, 44, 45, 46, 47,
    48, 49, 50, 51, 52, 53, 54, 55, 56, 57, 58, 59, 60, 61, 62, 63,
    0, 65, 66, 67, 68, 69, 70, 71, 72, 73, 74, 75, 76, 77, 78, 79,
    80, 81, 82, 83, 84, 85, 86, 87, 88, 89, 90, 188, 175, 190, 148, 17,
    217, 97, 98, 99, 100, 101, 102, 103, 104, 105, 106, 107, 108, 109, 110, 111,
    112, 113, 114, 115, 116, 117, 118, 119, 120, 121, 122, 168, 192, 169, 189, 63,
    63, 63, 39, 102, 34, 63, 63, 63, 63, 63, 83, 39, 214, 63, 63, 63,
    63, 39, 39, 34, 34, 42, 45, 45, 39, 63, 115, 39, 111, 63, 63, 89,
    32, 64, 99, 1, 36, 3, 33, 95, 34, 63, 63, 60, 63, 45, 63, 63,
    63, 63, 50, 51, 39, 117, 63, 63, 63, 49, 63, 62, 63, 63, 63, 96,
    65, 65, 65, 65, 91, 14, 28, 9, 31, 31, 31, 31, 73, 73, 73, 73,
    68, 93, 79, 79, 79, 79, 92, 42, 11, 85, 85, 85, 94, 89, 63, 30,
    127, 97, 97, 97, 123, 15, 29, 9, 4, 5, 101, 101, 7, 7, 105, 105,
    63, 125, 8, 111, 111, 111, 24, 47, 12, 6, 117, 117, 126, 121, 63, 121]

/-- `Ascii8to7[byte]`. -/
def ascii8to7 (byte : UInt8) : UInt8 := ascii8to7Table.getD byte.toNat 0

/-- The seven-bit characters of a byte. -/
def byteSeptets (byte : UInt8) : List UInt8 :=
  if ascii8to7 byte ≥ 128 then [0x1B, ascii8to7 byte - 128] else [ascii8to7 byte]

/-- The seven-bit characters of a text. -/
def septets (text : List UInt8) : List UInt8 := text.flatMap byteSeptets

/-! ## The code -/

/-- `Write7Bits(bufferPtr, val, pos)`, for an array of this capacity. -/
def write7Bits (capacity : Nat) (buffer : Bytes) (val : UInt8) (pos : Nat) :
    Except Overflow Bytes :=
  let val := val &&& 0x7F
  let idx := pos / 8 % 256
  if pos % 8 = 0 then put capacity buffer idx val
  else if pos % 8 = 1 then put capacity buffer idx (buffer idx ||| (val <<< 1))
  else do
    let buffer ← put capacity buffer idx (buffer idx ||| (val <<< (pos % 8).toUInt8))
    put capacity buffer (idx + 1) (val >>> (8 - pos % 8).toUInt8)

/-- One round of the loop in `ascii_to_gsm7`: the buffer and `write`. -/
def packByte (capacity : Nat) (state : Bytes × Nat) (byte : UInt8) :
    Except Overflow (Bytes × Nat) := do
  let byte := ascii8to7 byte
  if byte ≥ 128 then do
    let buffer ← write7Bits capacity state.1 0x1B (state.2 * 7)
    let buffer ← write7Bits capacity buffer (byte - 128) ((state.2 + 1) * 7)
    .ok (buffer, state.2 + 2)
  else do
    let buffer ← write7Bits capacity state.1 byte (state.2 * 7)
    .ok (buffer, state.2 + 1)

/-- `ascii_to_gsm7(a8bitPtr, a7bitPtr)`: the buffer, and the value returned. -/
def asciiToGsm7 (capacity : Nat) (text : List UInt8) (buffer : Bytes) :
    Except Overflow (Bytes × Nat) :=
  (text.foldlM (packByte capacity) (buffer, 0)).map fun state => (state.1, state.2 % 256)

/-! ## One character -/

variable {capacity : Nat} {buffer : Bytes}

theorem to_nat_seven_bits (v : UInt8) : (v &&& 0x7F).toNat = v.toNat % 128 := by
  rw [UInt8.toNat_and]
  exact Nat.and_two_pow_sub_one_eq_mod v.toNat 7

/-- Bits above those of a byte are added to it by a bitwise or. -/
theorem to_nat_or_shift_left {b : UInt8} (v : UInt8) {r : Nat} (hr : r < 8)
    (hb : b.toNat < 2 ^ r) :
    (b ||| (v <<< r.toUInt8)).toNat = b.toNat + v.toNat * 2 ^ r % 256 := by
  have hshift : r.toUInt8.toNat % 8 = r := by
    simp only [Nat.toUInt8, UInt8.toNat_ofNat']
    omega
  have hpow : 2 ^ 8 = 2 ^ r * 2 ^ (8 - r) := by
    rw [← Nat.pow_add, Nat.add_sub_cancel' (Nat.le_of_lt hr)]
  have hproduct : v.toNat * 2 ^ r % 256 = 2 ^ r * (v.toNat % 2 ^ (8 - r)) := by
    rw [show 256 = 2 ^ 8 from rfl, hpow, Nat.mul_comm v.toNat, Nat.mul_mod_mul_left]
  rw [UInt8.toNat_or, UInt8.toNat_shiftLeft, hshift, Nat.shiftLeft_eq,
    show 2 ^ 8 = 256 from rfl, hproduct, Nat.or_comm, ← Nat.two_pow_add_eq_or_of_lt hb,
    Nat.add_comm]

/-- The bits that do not fit a byte. -/
theorem to_nat_shift_right (v : UInt8) {r : Nat} (hpos : 0 < r) (hr : r < 8) :
    (v >>> (8 - r).toUInt8).toNat = v.toNat * 2 ^ r / 256 := by
  have hshift : (8 - r).toUInt8.toNat % 8 = 8 - r := by
    simp only [Nat.toUInt8, UInt8.toNat_ofNat']
    omega
  have hpow : 256 = 2 ^ (8 - r) * 2 ^ r := by
    rw [← Nat.pow_add, Nat.sub_add_cancel (Nat.le_of_lt hr)]
  rw [UInt8.toNat_shiftRight, hshift, Nat.shiftRight_eq_div_pow, hpow,
    Nat.mul_div_mul_right _ _ (Nat.pow_pos (by decide))]

/-- The bytes that a number of seven-bit characters take. -/
def packedSize (count : Nat) : Nat := (7 * count + 7) / 8

/-- The buffer holds these characters, with no other bits in their bytes. -/
def Packed (characters : List UInt8) (buffer : Bytes) : Prop :=
  buffer.value (packedSize characters.length) = Nat.ofDigits 128 (characters.map UInt8.toNat)

instance (characters : List UInt8) (buffer : Bytes) : Decidable (Packed characters buffer) :=
  inferInstanceAs (Decidable (buffer.value (packedSize characters.length) =
    Nat.ofDigits 128 (characters.map UInt8.toNat)))

/-- What `Write7Bits` stores in the byte in which the character begins and in the next one. The
other bytes are left alone. -/
structure SeptetStored (pos : Nat) (v : UInt8) (before after : Bytes) : Prop where
  low : (after (pos / 8)).toNat =
    (if pos % 8 = 0 then 0 else (before (pos / 8)).toNat) + v.toNat % 128 * 2 ^ (pos % 8) % 256
  high : 8 < pos % 8 + 7 → (after (pos / 8 + 1)).toNat = v.toNat % 128 * 2 ^ (pos % 8) / 256
  frame : ∀ i, i < pos / 8 ∨ (pos + 7 + 7) / 8 ≤ i → after i = before i

/-- A character is stored if there is room for it. -/
theorem write_7_bits_ok {pos : Nat} (v : UInt8) (hroom : (pos + 7 + 7) / 8 ≤ capacity)
    (hcapacity : capacity ≤ 256)
    (hlast : pos % 8 ≠ 0 → (buffer (pos / 8)).toNat < 2 ^ (pos % 8)) :
    (write7Bits capacity buffer v pos).Ensures fun after => SeptetStored pos v buffer after := by
  have hidx : pos / 8 % 256 = pos / 8 := by omega
  have hput : pos / 8 < capacity := by omega
  have hv := to_nat_seven_bits v
  unfold write7Bits put
  simp only [hidx, if_pos hput]
  by_cases hzero : pos % 8 = 0
  · rw [if_pos hzero]
    refine ⟨_, rfl, ?_, by omega, ?_⟩
    · rw [Function.update_self, hv, hzero, if_pos rfl]
      omega
    · intro i hi
      exact Function.update_of_ne (by omega) _ _
  have hlow : ((buffer (pos / 8)) ||| ((v &&& 0x7F) <<< (pos % 8).toUInt8)).toNat =
      (buffer (pos / 8)).toNat + v.toNat % 128 * 2 ^ (pos % 8) % 256 := by
    rw [to_nat_or_shift_left _ (Nat.mod_lt _ (by decide)) (hlast hzero), hv]
  rw [if_neg hzero]
  by_cases hone : pos % 8 = 1
  · rw [hone] at hlow
    rw [if_pos hone]
    refine ⟨_, rfl, ?_, by omega, ?_⟩
    · rw [Function.update_self, if_neg hzero, hone]
      exact hlow
    · intro i hi
      exact Function.update_of_ne (by omega) _ _
  · have hnext : pos / 8 + 1 < capacity := by omega
    rw [if_neg hone]
    simp only [bind, Except.bind, if_pos hnext]
    refine ⟨_, rfl, ?_, fun _ => ?_, ?_⟩
    · rw [Function.update_of_ne (by omega), Function.update_self, if_neg hzero, hlow]
    · rw [Function.update_self, to_nat_shift_right _ (by omega) (Nat.mod_lt _ (by decide)), hv]
    · intro i hi
      rw [Function.update_of_ne (by omega), Function.update_of_ne (by omega)]

/-- A character for which there is no room is stored past the end. -/
theorem write_7_bits_overflow {pos : Nat} (v : UInt8) (hbefore : (pos + 7) / 8 ≤ capacity)
    (hcapacity : capacity < 255) (hroom : capacity < (pos + 7 + 7) / 8) (post : Bytes → Prop) :
    ¬ (write7Bits capacity buffer v pos).Ensures post := by
  have hidx : pos / 8 % 256 = pos / 8 := by omega
  unfold write7Bits put
  simp only [hidx]
  by_cases hzero : pos % 8 = 0
  · rw [if_pos hzero, if_neg (by omega), ensures_error]
    exact id
  · rw [if_neg hzero, if_neg (by omega)]
    by_cases hput : pos / 8 < capacity
    · simp only [if_pos hput, bind, Except.bind]
      rw [if_neg (by omega), ensures_error]
      exact id
    · simp only [if_neg hput, bind, Except.bind, ensures_error]
      exact id

/-! ## A text -/

/-- The characters are of seven bits. -/
def SevenBit (characters : List UInt8) : Prop := ∀ c ∈ characters, c.toNat < 128

theorem pow_128 (n : Nat) : 128 ^ n = 2 ^ (7 * n) := by
  rw [Nat.pow_mul]

/-- The number of some characters has seven bits for each. -/
theorem of_digits_lt {characters : List UInt8} (h : SevenBit characters) :
    Nat.ofDigits 128 (characters.map UInt8.toNat) < 2 ^ (7 * characters.length) := by
  rw [← pow_128, ← List.length_map UInt8.toNat]
  refine Nat.ofDigits_lt_base_pow_length (by decide) fun digit hdigit => ?_
  obtain ⟨c, hc, rfl⟩ := List.mem_map.1 hdigit
  exact h c hc

/-- The byte that the next character begins in has no bits of its own yet. -/
theorem Packed.last_byte_lt {characters : List UInt8} (h : Packed characters buffer)
    (hbits : SevenBit characters) (hinside : 7 * characters.length % 8 ≠ 0) :
    (buffer (7 * characters.length / 8)).toNat < 2 ^ (7 * characters.length % 8) := by
  refine Bytes.last_byte_lt ?_
  have hsize : packedSize characters.length = 7 * characters.length / 8 + 1 := by
    unfold packedSize
    omega
  rw [← hsize, h]
  exact of_digits_lt hbits

/-- One more character. -/
theorem Packed.append {characters : List UInt8} {c : UInt8} {after : Bytes}
    (h : Packed characters buffer) (hc : c.toNat < 128)
    (hstored : SeptetStored (7 * characters.length) c buffer after) :
    Packed (characters ++ [c]) after := by
  have hmod : c.toNat % 128 = c.toNat := Nat.mod_eq_of_lt hc
  obtain ⟨hlow, hhigh, hframe⟩ := hstored
  rw [hmod] at hlow hhigh
  have hvalue := Bytes.value_append (by decide) (by decide) hc
    (fun i hi => hframe i (.inl hi)) hlow hhigh
  unfold Packed packedSize at *
  rw [List.length_append, List.length_singleton, Nat.mul_add, Nat.mul_one, hvalue, h,
    List.map_append, List.map_singleton, Nat.ofDigits_append, Nat.ofDigits_singleton,
    List.length_map, pow_128, Nat.mul_comm (2 ^ _)]

/-- The characters one after the other, the first of them behind `write` others. -/
def packSeptets (capacity : Nat) : List UInt8 → Nat → Bytes → Except Overflow Bytes
  | [], _, buffer => .ok buffer
  | c :: rest, write, buffer => do
      let buffer ← write7Bits capacity buffer c (write * 7)
      packSeptets capacity rest (write + 1) buffer

theorem pack_septets_append (first rest : List UInt8) (write : Nat) (buffer : Bytes) :
    packSeptets capacity (first ++ rest) write buffer =
      packSeptets capacity first write buffer >>=
        packSeptets capacity rest (write + first.length) := by
  induction first generalizing write buffer with
  | nil => rfl
  | cons c first ih =>
      rw [List.cons_append, packSeptets, packSeptets]
      cases write7Bits capacity buffer c (write * 7) with
      | error fault => rfl
      | ok next =>
          simp only [bind, Except.bind]
          rw [ih, List.length_cons, Nat.add_right_comm, ← Nat.add_assoc]
          rfl

/-- A round of `ascii_to_gsm7` writes the characters of its byte. -/
theorem pack_byte_eq (byte : UInt8) (write : Nat) (buffer : Bytes) :
    packByte capacity (buffer, write) byte =
      (packSeptets capacity (byteSeptets byte) write buffer).map fun packed =>
        (packed, write + (byteSeptets byte).length) := by
  unfold packByte byteSeptets
  by_cases hescape : ascii8to7 byte ≥ 128
  · simp only [if_pos hescape, packSeptets, bind, Except.bind]
    cases write7Bits capacity buffer 0x1B (write * 7) with
    | error fault => rfl
    | ok escaped =>
        dsimp only
        cases write7Bits capacity escaped (ascii8to7 byte - 128) ((write + 1) * 7) <;> rfl
  · simp only [if_neg hescape, packSeptets, bind, Except.bind]
    cases write7Bits capacity buffer (ascii8to7 byte) (write * 7) <;> rfl

theorem septets_cons (byte : UInt8) (text : List UInt8) :
    septets (byte :: text) = byteSeptets byte ++ septets text := rfl

/-- `ascii_to_gsm7` writes the characters of the text and returns their number, modulo 256. -/
theorem ascii_to_gsm7_eq (text : List UInt8) (buffer : Bytes) :
    asciiToGsm7 capacity text buffer =
      (packSeptets capacity (septets text) 0 buffer).map fun packed =>
        (packed, (septets text).length % 256) := by
  have hloop : ∀ write, text.foldlM (packByte capacity) (buffer, write) =
      (packSeptets capacity (septets text) write buffer).map fun packed =>
        (packed, write + (septets text).length) := by
    induction text generalizing buffer with
    | nil =>
        intro write
        rfl
    | cons byte text ih =>
        intro write
        rw [List.foldlM_cons, pack_byte_eq, septets_cons, pack_septets_append]
        cases packSeptets capacity (byteSeptets byte) write buffer with
        | error fault => rfl
        | ok packed =>
            simp only [Except.map, bind, Except.bind]
            rw [ih, List.length_append, Nat.add_assoc]
            rfl
  unfold asciiToGsm7
  rw [hloop 0]
  cases packSeptets capacity (septets text) 0 buffer with
  | error fault => rfl
  | ok packed => simp only [Except.map, Nat.zero_add]

theorem ascii8to7_sub_lt (byte : UInt8) (h : ascii8to7 byte ≥ 128) :
    (ascii8to7 byte - 128).toNat < 128 := by
  have hlt := (ascii8to7 byte).toNat_lt
  rw [ge_iff_le, UInt8.le_iff_toNat_le] at h
  rw [UInt8.toNat_sub_of_le _ _ h]
  simp only [UInt8.reduceToNat] at h ⊢
  omega

theorem seven_bit_septets (text : List UInt8) : SevenBit (septets text) := by
  intro c hc
  obtain ⟨byte, -, hc⟩ := List.mem_flatMap.1 hc
  unfold byteSeptets at hc
  split_ifs at hc with hescape
  · simp only [List.mem_cons, List.not_mem_nil, or_false] at hc
    obtain rfl | rfl := hc
    · decide
    · exact ascii8to7_sub_lt byte hescape
  · obtain rfl := List.mem_singleton.1 hc
    rw [ge_iff_le, UInt8.le_iff_toNat_le] at hescape
    simp only [UInt8.reduceToNat] at hescape
    omega

/-- Characters are packed behind others, if there is room for them; the bytes behind them are left
alone. -/
theorem pack_septets_ok {before : List UInt8} (characters : List UInt8)
    (h : Packed before buffer) (hbefore : SevenBit before) (hbits : SevenBit characters)
    (hroom : packedSize (before.length + characters.length) ≤ capacity)
    (hcapacity : capacity ≤ 256) :
    (packSeptets capacity characters before.length buffer).Ensures fun packed =>
      Packed (before ++ characters) packed ∧
        ∀ i, packedSize (before.length + characters.length) ≤ i → packed i = buffer i := by
  induction characters generalizing before buffer with
  | nil => exact ⟨buffer, rfl, by rwa [List.append_nil], fun _ _ => rfl⟩
  | cons c rest ih =>
      have hc : c.toNat < 128 := hbits c (by simp)
      have hone : (7 * before.length + 7 + 7) / 8 ≤ packedSize (before.length + (c :: rest).length) := by
        unfold packedSize
        rw [List.length_cons]
        omega
      obtain ⟨next, hwrite, hstored⟩ :=
        write_7_bits_ok c (hone.trans hroom) hcapacity (h.last_byte_lt hbefore)
      have hlength : (before ++ [c]).length = before.length + 1 := by simp
      have hsame : before.length + (c :: rest).length = (before ++ [c]).length + rest.length := by
        simp
        omega
      rw [hsame] at hone hroom ⊢
      obtain ⟨packed, hrest, hpacked, hframe⟩ := ih (h.append hc hstored)
        (fun d hd => by
          obtain hd | hd := List.mem_append.1 hd
          · exact hbefore d hd
          · rwa [List.mem_singleton.1 hd])
        (fun d hd => hbits d (by simp [hd])) hroom
      refine ⟨packed, ?_, ?_, fun i hi => ?_⟩
      · rw [packSeptets, Nat.mul_comm, hwrite, ← hlength]
        exact hrest
      · rwa [List.append_assoc, List.singleton_append] at hpacked
      · rw [hframe i hi, hstored.frame i (.inr (hone.trans hi))]

/-- There is no fault exactly if there is room. -/
theorem ensures_pack_septets {post : Bytes → Prop} {characters : List UInt8} {write : Nat}
    (hbefore : packedSize write ≤ capacity) (hcapacity : capacity < 255)
    (h : (packSeptets capacity characters write buffer).Ensures post) :
    packedSize (write + characters.length) ≤ capacity := by
  induction characters generalizing write buffer with
  | nil => exact hbefore
  | cons c rest ih =>
      rw [packSeptets, ensures_bind] at h
      by_cases hroom : packedSize (write + 1) ≤ capacity
      · obtain ⟨next, -, hrest⟩ := h
        have hfits := ih hroom hrest
        rwa [Nat.add_assoc, Nat.add_comm 1] at hfits
      · unfold packedSize at hbefore hroom
        exact absurd h (write_7_bits_overflow c (by omega) hcapacity (by omega) _)

/-- `ascii_to_gsm7` packs a text of up to 182 characters into the array of 160 bytes, and returns
their number. The bytes behind them are left alone. -/
theorem ascii_to_gsm7_ok (text : List UInt8) (buffer : Bytes)
    (h : (septets text).length ≤ 182) :
    (asciiToGsm7 160 text buffer).Ensures fun result =>
      result.2 = (septets text).length ∧ Packed (septets text) result.1 ∧
        ∀ i, packedSize (septets text).length ≤ i → result.1 i = buffer i := by
  have hroom : packedSize (([] : List UInt8).length + (septets text).length) ≤ 160 := by
    rw [List.length_nil, Nat.zero_add]
    unfold packedSize
    omega
  have hempty : Packed [] buffer := rfl
  obtain ⟨packed, hpack, hpacked, hframe⟩ :=
    pack_septets_ok (septets text) hempty nofun (seven_bit_septets text) hroom (by decide)
  rw [List.length_nil] at hpack
  rw [List.length_nil, Nat.zero_add] at hframe
  rw [List.nil_append] at hpacked
  refine ⟨(packed, (septets text).length % 256), ?_, Nat.mod_eq_of_lt (by omega), hpacked, hframe⟩
  rw [ascii_to_gsm7_eq, hpack]
  rfl

/-! ## Unpacking -/

variable {p : Packet} {base : Nat}

/-- Seven bits of two bytes, as digits. -/
theorem to_nat_seven_bits_of (octet next : UInt8) {offset : Nat} (hoffset : offset < 8) :
    (sevenBits octet next offset).toNat =
      (octet.toNat + 256 * next.toNat) / 2 ^ offset % 128 := by
  have hoctet : octet.toNat < 2 ^ 8 := octet.toNat_lt
  have hnext := next.toNat_lt
  have hshift : offset.toUInt16.toNat % 16 = offset := by
    simp only [Nat.toUInt16, UInt16.toNat_ofNat']
    omega
  have hhigh : (next.toUInt16 <<< 8).toNat = 2 ^ 8 * next.toNat := by
    rw [UInt16.toNat_shiftLeft, UInt8.toNat_toUInt16, Nat.shiftLeft_eq, Nat.mul_comm]
    have hsmall : 2 ^ 8 * next.toNat < 2 ^ 16 := by omega
    exact Nat.mod_eq_of_lt hsmall
  have hword : (octet.toUInt16 ||| next.toUInt16 <<< 8).toNat =
      octet.toNat + 256 * next.toNat := by
    rw [UInt16.toNat_or, hhigh, UInt8.toNat_toUInt16, Nat.or_comm,
      ← Nat.two_pow_add_eq_or_of_lt hoctet]
    omega
  unfold sevenBits
  rw [to_nat_seven_bits, UInt16.toNat_toUInt8, UInt16.toNat_shiftRight, hshift, hword,
    Nat.shiftRight_eq_div_pow]
  exact Nat.mod_mod_of_dvd _ (by decide)

/-- A character in a buffer of `size` bytes, as a digit of the buffer. -/
theorem septet_value {size startBit : Nat} (h : startBit + 7 ≤ 8 * size) :
    (p.septet base startBit).toNat =
      Bytes.value (fun i => p.data (base + i)) size / 2 ^ startBit % 128 := by
  rw [Packet.septet, to_nat_seven_bits_of _ _ (Nat.mod_lt _ (by decide)),
    show 128 = 2 ^ 7 from rfl, Bytes.value_bits (by decide) h]

/-- A buffer of `size` bytes at `base` is in the packet. -/
def Packet.HasBuffer (p : Packet) (base size : Nat) : Prop := size = 0 ∨ p.Within (base + size - 1)

/-- `gsm7_to_ascii` takes the digits from a bit offset on. -/
theorem gsm7_to_ascii_value {size length bitOffset : Nat} (hbuffer : p.HasBuffer base size)
    (hfits : bitOffset + 7 * length ≤ 8 * size) (hcapacity : length ≤ capacity) (text : Bytes) :
    gsm7ToAscii p base length bitOffset capacity text = .ok fun i =>
      if i < length then
        UInt8.ofNat (Bytes.value (fun i => p.data (base + i)) size / 2 ^ (bitOffset + 7 * i) % 128)
      else text i := by
  have hin : Gsm7Fits p base length bitOffset capacity := by
    obtain hnone | hwithin := hbuffer
    · exact .inl (by omega)
    · by_cases hzero : length = 0
      · exact .inl hzero
      · exact .inr ⟨hwithin.mono (by omega), hcapacity⟩
  obtain ⟨filled, hfilled, -⟩ := (ensures_gsm7_to_ascii base length bitOffset capacity text).2 hin
  obtain ⟨-, hcharacters⟩ := gsm7_loop_ok hfilled (Nat.zero_le _)
  rw [hfilled]
  refine congrArg Except.ok (funext fun i => ?_)
  rw [hcharacters i]
  by_cases hi : i < length
  · rw [if_pos ⟨Nat.zero_le _, by omega⟩, if_pos hi, ← septet_value (by omega), UInt8.ofNat_toNat,
      Nat.mul_comm]
  · rw [if_neg (by omega), if_neg hi]

/-- The characters are the digits of their number. -/
theorem of_digits_div_mod {characters : List UInt8} (h : SevenBit characters) {i : Nat}
    (hi : i < characters.length) :
    Nat.ofDigits 128 (characters.map UInt8.toNat) / 2 ^ (7 * i) % 128 = (characters[i]).toNat := by
  rw [← pow_128, Nat.ofDigits_div_pow_eq_ofDigits_drop i (by decide) _ (by
    intro digit hdigit
    obtain ⟨c, hc, rfl⟩ := List.mem_map.1 hdigit
    exact h c hc), List.drop_eq_getElem_cons (by simpa using hi), Nat.ofDigits_cons]
  have hc := h _ (List.getElem_mem hi)
  simp only [List.getElem_map]
  omega

/-- Packed characters are taken out again. -/
theorem gsm7_to_ascii_packed {characters : List UInt8} {packed : Bytes}
    (h : Packed characters packed) (hbits : SevenBit characters)
    (hbuffer : p.HasBuffer base (packedSize characters.length))
    (hsame : ∀ i < packedSize characters.length, p.data (base + i) = packed i)
    (hcapacity : characters.length ≤ capacity) (text : Bytes) :
    gsm7ToAscii p base characters.length 0 capacity text =
      .ok fun i => if i < characters.length then characters.getD i 0 else text i := by
  have hfits : 0 + 7 * characters.length ≤ 8 * packedSize characters.length := by
    unfold packedSize
    omega
  rw [gsm7_to_ascii_value hbuffer hfits hcapacity, Bytes.value_congr hsame, h]
  refine congrArg Except.ok (funext fun i => ?_)
  by_cases hi : i < characters.length
  · rw [if_pos hi, if_pos hi, Nat.zero_add, of_digits_div_mod hbits hi, UInt8.ofNat_toNat]
    exact List.getElem_eq_getD 0
  · rw [if_neg hi, if_neg hi]

/-- For every text of up to 182 seven-bit characters and every contents of the array, packing
returns their number and leaves the bytes of the number whose digits they are; unpacking takes
the digits of any buffer from any bit on; and what has been packed is unpacked to the same
characters. -/
theorem gsm7_packing_exact :
    (∀ text buffer, (septets text).length ≤ 182 →
      (asciiToGsm7 160 text buffer).Ensures fun result =>
        result.2 = (septets text).length ∧
          result.1.value ((7 * (septets text).length + 7) / 8) =
            Nat.ofDigits (2 ^ 7) ((septets text).map UInt8.toNat) ∧
          ∀ (p : Packet) base capacity out,
            p.HasBuffer base ((7 * (septets text).length + 7) / 8) →
            (∀ i < (7 * (septets text).length + 7) / 8, p.data (base + i) = result.1 i) →
            (septets text).length ≤ capacity →
            gsm7ToAscii p base (septets text).length 0 capacity out = .ok fun i =>
              if i < (septets text).length then (septets text).getD i 0 else out i) ∧
    ∀ (p : Packet) base size, p.HasBuffer base size → ∀ bitOffset length capacity out,
      bitOffset ≤ 6 → bitOffset + 7 * length ≤ 8 * size → length ≤ capacity →
      gsm7ToAscii p base length bitOffset capacity out = .ok fun i =>
        if i < length then
          UInt8.ofNat ((Bytes.value (fun i => p.data (base + i)) size >>> (bitOffset + 7 * i)) % 128)
        else out i := by
  constructor
  · intro text buffer hlength
    obtain ⟨result, hresult, hcount, hpacked, -⟩ := ascii_to_gsm7_ok text buffer hlength
    refine ⟨result, hresult, hcount, hpacked, ?_⟩
    intro p base capacity out hbuffer hsame hcapacity
    exact gsm7_to_ascii_packed hpacked (seven_bit_septets text) hbuffer hsame hcapacity out
  · intro p base size hbuffer bitOffset length capacity out _ hfits hcapacity
    simp only [Nat.shiftRight_eq_div_pow]
    exact gsm7_to_ascii_value hbuffer hfits hcapacity out

/-- A text of three letters, two of them escaped, in an array that is not cleared. -/
theorem gsm7_packing_of_brackets :
    ((asciiToGsm7 160 [91, 97, 93] fun _ => 0xFF).Ensures fun result =>
      result.2 = 5 ∧ result.1.value 5 = Nat.ofDigits (2 ^ 7) [0x1B, 60, 97, 0x1B, 62]) ∧
      gsm7ToAscii (packetOf [0x1B, 0x5E]) 0 2 0 160 (fun _ => 0) = .ok fun i =>
        if i < 2 then
          UInt8.ofNat ((Bytes.value (fun i => (packetOf [0x1B, 0x5E]).data (0 + i)) 2 >>>
            (0 + 7 * i)) % 128)
        else 0 := by
  constructor
  · obtain ⟨result, hresult, hcount, hvalue, -⟩ :=
      gsm7_packing_exact.1 [91, 97, 93] (fun _ => 0xFF) (by decide)
    exact ⟨result, hresult, hcount, hvalue⟩
  · exact gsm7_packing_exact.2 (packetOf [0x1B, 0x5E]) 0 2 (.inr (by decide)) 0 2 160 (fun _ => 0)
      (by decide) (by decide) (by decide)

end OpenQti.Sms
