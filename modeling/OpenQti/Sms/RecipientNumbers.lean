import OpenQti.Lib.Buffer
import OpenQti.Sms.Pdu

/-!
# The number a message is sent to

`decode_phone_number` of `sms.c` turns the destination address of a message of the host into text,
for the log. The type of an international address is skipped in the first round, and then two
indices advance at different rates: every round takes a digit, and every second one an octet.
`decode_phone_number_international` says that this comes out right for every number of digits that
the array holds.
-/

namespace OpenQti.Sms

open Bytes Buffer

/-! ## The decoder -/

/-- An access to a buffer of this size. -/
def readOctet (size : Nat) (buffer : Bytes) (j : Nat) : Except PduFault UInt8 :=
  if j < size then .ok (buffer j) else .error (.read j)

/-- `char output[127]`. -/
def outputCapacity : Nat := 127

/-- The array `output`, the index `j` into the buffer, and `is_international`. -/
structure PhoneNumberState where
  output : Bytes
  j : Nat
  isInternational : Bool

/-- The type of an international address is skipped. -/
def skipType (size : Nat) (buffer : Bytes) (i : Nat) (d : PhoneNumberState) :
    Except PduFault PhoneNumberState :=
  if i = 0 then do
    let octet ← readOctet size buffer d.j
    .ok (if octet = 0x91 then { d with j := d.j + 1, isInternational := true } else d)
  else .ok d

/-- One round of the loop of `decode_phone_number`. -/
def decodeDigit (size : Nat) (buffer : Bytes) (d : PhoneNumberState) (i : Nat) :
    Except PduFault PhoneNumberState := do
  let d ← skipType size buffer i d
  let octet ← readOctet size buffer d.j
  if i % 2 = 0 then do
    let output ← store outputCapacity d.output i ((octet &&& 0x0f) + 0x30)
    .ok { d with output := output }
  else do
    let output ← store outputCapacity d.output i (((octet &&& 0xf0) >>> 4) + 0x30)
    .ok { d with output := output, j := d.j + 1 }

/-- The loop of `decode_phone_number` for `i < len`, from an array that has not been initialised. -/
def decodeDigits (size : Nat) (buffer : Bytes) (len : Nat) (output : Bytes) :
    Except PduFault PhoneNumberState :=
  (List.range len).foldlM (decodeDigit size buffer) ⟨output, 0, false⟩

/-- `decode_phone_number(buffer, len, out)`, for a buffer of which `size` bytes may be read: the
value returned, and `out`. -/
def decodePhoneNumber (size : Nat) (buffer : Bytes) (len : Nat) (output out : Bytes) :
    Except PduFault (Nat × Bytes) := do
  let d ← decodeDigits size buffer len output
  let output ← store outputCapacity d.output len 0
  let text := ((List.range outputCapacity).map output).takeWhile (· ≠ 0)
  match snprintf 128 128 (if d.isInternational then 0x2B :: text else text) out with
  | .ok out => .ok (len, out)
  | .error fault => .error (.write fault.capacity fault.index)

/-! ## The property -/

/-- An international address: the type, and the digits in the lower and the upper halves of the
octets behind it. What is in the upper half of the last octet of an odd number is left open. -/
structure InternationalAddress (buffer : Bytes) (digits : List UInt8) : Prop where
  type : buffer 0 = 0x91
  decimal : ∀ d ∈ digits, d < 10
  low : ∀ k (h : 2 * k < digits.length), (buffer (1 + k)).toNat % 16 = (digits[2 * k]).toNat
  high : ∀ k (h : 2 * k + 1 < digits.length),
    (buffer (1 + k)).toNat / 16 = (digits[2 * k + 1]).toNat

/-- The bytes that the address takes. -/
def addressSize (n : Nat) : Nat := 1 + (n + 1) / 2

variable {buffer output : Bytes} {digits : List UInt8} {i : Nat}

/-! ## One round -/

theorem low_digit {octet digit : UInt8} (h : octet.toNat % 16 = digit.toNat) :
    octet &&& 0x0f = digit := by
  apply UInt8.toNat_inj.1
  rw [UInt8.toNat_and, ← h]
  exact Nat.and_two_pow_sub_one_eq_mod _ 4

theorem high_digit {octet digit : UInt8} (h : octet.toNat / 16 = digit.toNat) :
    (octet &&& 0xf0) >>> 4 = digit := by
  apply UInt8.toNat_inj.1
  have hmask : 240 >>> 4 = 2 ^ 4 - 1 := rfl
  have hoctet := octet.toNat_lt
  rw [UInt8.toNat_shiftRight, UInt8.toNat_and, ← h]
  show (octet.toNat &&& 240) >>> 4 = _
  rw [Nat.shiftRight_and_distrib, hmask, Nat.and_two_pow_sub_one_eq_mod,
    Nat.shiftRight_eq_div_pow]
  omega

/-- The index into the buffer after `i` digits of an international address. -/
def octetIndex (i : Nat) : Nat := if i = 0 then 0 else 1 + i / 2

/-- A round takes the next digit: it is in the octet with half its index, behind the type. -/
theorem decode_digit_eq (haddress : InternationalAddress buffer digits) (hi : i < digits.length)
    (hmax : i < outputCapacity) :
    decodeDigit (addressSize digits.length) buffer ⟨output, octetIndex i, decide (0 < i)⟩ i =
      .ok ⟨Function.update output i (digits[i] + 0x30), octetIndex (i + 1), true⟩ := by
  have hskip : skipType (addressSize digits.length) buffer i
      ⟨output, octetIndex i, decide (0 < i)⟩ = .ok ⟨output, 1 + i / 2, true⟩ := by
    unfold skipType octetIndex
    by_cases hzero : i = 0
    · have hread : readOctet (addressSize digits.length) buffer 0 = .ok 0x91 := by
        rw [readOctet, if_pos (by unfold addressSize; omega), haddress.type]
      simp [hzero, hread, bind, Except.bind]
    · simp [hzero, Nat.pos_of_ne_zero hzero]
  have hread : readOctet (addressSize digits.length) buffer (1 + i / 2) =
      .ok (buffer (1 + i / 2)) := by
    rw [readOctet, if_pos (by unfold addressSize; omega)]
  have hnext : octetIndex (i + 1) = 1 + (i + 1) / 2 := if_neg (Nat.succ_ne_zero i)
  rw [decodeDigit, hskip, hnext]
  simp only [bind, Except.bind, hread, store, if_pos hmax]
  by_cases heven : i % 2 = 0
  · have hlow := haddress.low (i / 2) (by omega)
    simp only [show 2 * (i / 2) = i by omega] at hlow
    rw [if_pos heven, low_digit hlow, show (i + 1) / 2 = i / 2 by omega]
  · have hhigh := haddress.high (i / 2) (by omega)
    simp only [show 2 * (i / 2) + 1 = i by omega] at hhigh
    rw [if_neg heven, high_digit hhigh, show (i + 1) / 2 = i / 2 + 1 by omega, Nat.add_assoc]

/-! ## The loop -/

/-- After `i` rounds: the digits so far are in the array, and the index is behind their octets. -/
theorem decode_digits_spec (output : Bytes) (haddress : InternationalAddress buffer digits)
    (hmax : digits.length < outputCapacity) (hi : i ≤ digits.length) :
    ∃ result, (List.range i).foldlM (decodeDigit (addressSize digits.length) buffer)
        ⟨output, 0, false⟩ = .ok ⟨result, octetIndex i, decide (0 < i)⟩ ∧
      Holds result 0 ((digits.take i).map (· + 0x30)) := by
  induction i with
  | zero => exact ⟨output, rfl, holds_nil _ _⟩
  | succ i ih =>
      obtain ⟨result, hloop, hholds⟩ := ih (Nat.le_of_succ_le hi)
      refine ⟨Function.update result i (digits[i] + 0x30), ?_, ?_⟩
      · rw [List.range_succ, List.foldlM_append, hloop]
        show (decodeDigit _ _ _ _ >>= pure) = _
        rw [decode_digit_eq haddress hi (by omega)]
        simp [pure, Except.pure, bind, Except.bind]
      · have hlength : ((digits.take i).map (· + 0x30)).length = i := by
          simp
          omega
        rw [List.take_succ_eq_append_getElem hi, List.map_append, holds_append, hlength,
          Nat.zero_add, List.map_singleton, holds_cons]
        refine ⟨hholds.congr fun k hk => ?_, Function.update_self _ _ _, holds_nil _ _⟩
        exact Function.update_of_ne (by omega) _ _

theorem digit_ne_zero {digit : UInt8} (h : digit < 10) : digit + 0x30 ≠ 0 := by
  intro hzero
  have hsum : (digit.toNat + 48) % 256 = 0 := by
    simpa using congrArg UInt8.toNat hzero
  have hdigit : digit.toNat < 10 := UInt8.lt_iff_toNat_lt.1 h
  omega

/-- Of an international address with up to 126 digits nothing behind its last octet is read, the
number of digits is returned, and they are left in `out` behind a plus sign. -/
theorem decode_phone_number_international (buffer : Bytes) (digits : List UInt8)
    (haddress : InternationalAddress buffer digits) (hmax : digits.length ≤ 126)
    (output out : Bytes) :
    ∃ result, decodePhoneNumber (addressSize digits.length) buffer digits.length output out =
        .ok (digits.length, result) ∧
      (1 ≤ digits.length → string 128 result = some (0x2B :: digits.map (· + 0x30))) := by
  obtain ⟨filled, hloop, hholds⟩ := decode_digits_spec output haddress
    (by unfold outputCapacity; omega) (Nat.le_refl digits.length)
  rw [List.take_length] at hholds
  have hclean : 0 ∉ digits.map (· + 0x30) := by
    intro h
    obtain ⟨digit, hmem, hzero⟩ := List.mem_map.1 h
    exact digit_ne_zero (haddress.decimal digit hmem) hzero
  have hlength : (digits.map (· + 0x30)).length = digits.length := List.length_map _
  have htext : ((List.range outputCapacity).map
      (Function.update filled digits.length 0)).takeWhile (· ≠ 0) = digits.map (· + 0x30) := by
    apply take_while_eq (by rw [hlength]; unfold outputCapacity; omega) hclean
    · refine hholds.congr fun k hk => Function.update_of_ne ?_ _ _
      omega
    · rw [hlength, Function.update_self]
  have hstore : store outputCapacity filled digits.length 0 =
      .ok (Function.update filled digits.length 0) := by
    rw [store, if_pos (by unfold outputCapacity; omega)]
  generalize hflag : decide (0 < digits.length) = flag at hloop
  have hfree : 0 ∉ (if flag then 0x2B :: digits.map (· + 0x30) else digits.map (· + 0x30)) := by
    split_ifs
    · simp [hclean]
    · exact hclean
  obtain ⟨result, hprint, hstring, -⟩ :=
    snprintf_spec _ out (by decide : 0 < 128) (Nat.le_refl 128) hfree
  refine ⟨result, ?_, fun hpos => ?_⟩
  · rw [decodePhoneNumber, decodeDigits, hloop]
    simp only [bind, Except.bind, hstore, htext, hprint]
  · have hset : flag = true := by
      rw [← hflag]
      exact decide_eq_true hpos
    rw [hstring, hset, if_pos rfl, List.take_of_length_le]
    simp
    omega

/-- A number of three digits: the upper half of its last octet is a filler. -/
theorem decode_phone_number_three_digits :
    ∃ result, decodePhoneNumber 3 (ofList [0x91, 0x43, 0xF6]) 3 (fun _ => 0xff) (fun _ => 0xff) =
        .ok (3, result) ∧
      (1 ≤ [(3 : UInt8), 4, 6].length →
        string 128 result = some (0x2B :: [(3 : UInt8), 4, 6].map (· + 0x30))) := by
  have haddress : InternationalAddress (ofList [0x91, 0x43, 0xF6]) [3, 4, 6] := by
    refine ⟨rfl, by simp, fun k hk => ?_, fun k hk => ?_⟩
    · obtain rfl | rfl : k = 0 ∨ k = 1 := by
        simp at hk
        omega
      · rfl
      · rfl
    · obtain rfl : k = 0 := by
        simp at hk
        omega
      rfl
  exact decode_phone_number_international _ _ haddress (by decide) _ _

end OpenQti.Sms
