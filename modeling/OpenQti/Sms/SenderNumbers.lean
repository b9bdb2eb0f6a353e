import Mathlib.Data.Bool.AllAny
import OpenQti.Lib.Buffer
import OpenQti.Sms.Contents
import OpenQti.Sms.PduSafety

/-!
# The number of the sender

`pdu_decode` calls `decode_number` with the number of digits of the address, and `decode_number`
takes it as a number of octets, the type of the address among them. Only the type of an
international number is skipped, the others are taken for digits; and the text is terminated only
by an octet with a filler that is above `0xF0`. `sender_number_exact_iff` says when the digits come
out right.

`msg_out` is allocated and not cleared, so the property is about every contents of the array.
-/

namespace OpenQti.Sms

open Bytes Buffer Except

/-! ## The property -/

/-- The octet of the type of the address. -/
def Packet.typeOffset (p : Packet) (type : PduType) : Nat := (p.addressOffset type + 1) % 256

/-- The call of `decode_number` for the address, in `pdu_decode`. -/
def obtainedNumber (p : Packet) (type : PduType) (phoneNumber : Bytes) : Except PduFault Bytes :=
  decodeNumber p (p.typeOffset type) (p.data (p.addressOffset type)).toNat phoneNumber

/-- An octet of an address: two digits, the first one in the lower half, or the last one and the
filler. -/
def addressOctet (digits : List UInt8) (k : Nat) : UInt8 :=
  digits.getD (2 * k) 0 + 16 * digits.getD (2 * k + 1) 0xF

/-- The address of the PDU has this type, which is not alphanumeric, and these digits. -/
structure NumericAddress (p : Packet) (type : PduType) (typeOfAddress : UInt8)
    (digits : List UInt8) : Prop where
  pdu : pduType (p.data p.pduOffset) = some type
  numeric : typeOfAddress &&& 0x70 ≠ 0x50
  length : 1 ≤ digits.length ∧ digits.length ≤ 20
  decimal : ∀ d ∈ digits, d < 10
  count : (p.data (p.addressOffset type)).toNat = digits.length
  typeOctet : p.data (p.typeOffset type) = typeOfAddress
  octets : ∀ k < (digits.length + 1) / 2,
    p.data (p.typeOffset type + 1 + k) = addressOctet digits k
  within : p.Within (p.typeOffset type + (digits.length + 1) / 2)

/-- The digits as text, after a plus sign if the number is an international one. -/
def numberText (typeOfAddress : UInt8) (digits : List UInt8) : List UInt8 :=
  (if typeOfAddress = 0x91 then [0x2B] else []) ++ digits.map (· + 0x30)

/-- Whatever is in the array, the string in it is then the number. -/
def DecodesNumber (p : Packet) (type : PduType) (typeOfAddress : UInt8) (digits : List UInt8) :
    Prop :=
  ∀ phoneNumber, (obtainedNumber p type phoneNumber).Ensures fun number =>
    string numberCapacity number = some (numberText typeOfAddress digits)

variable {p : Packet} {out : MessageData} {base remaining i count : Nat} {number filled : Bytes}

/-! ## The number in `pdu_decode`

Behind the address no function stores to `phone_number`, so what `pdu_decode` leaves there is what
the call of `decode_number` has left.
-/

/-- A result of the decoder has this number. -/
def HasNumber (number : Bytes) (result : Except PduFault (Option (Int × MessageData))) : Prop :=
  ∀ code out, result = .ok (some (code, out)) → out.phoneNumber = number

theorem has_number_ok {code : Int} : HasNumber out.phoneNumber (.ok (some (code, out))) := by
  intro code other h
  cases h
  rfl

theorem has_number_bind {α : Type} {x : Except PduFault α}
    {f : α → Except PduFault (Option (Int × MessageData))}
    (hf : ∀ a, x = .ok a → HasNumber number (f a)) : HasNumber number (x >>= f) := by
  intro code other h
  obtain ⟨a, ha, hrest⟩ := bind_ok h
  exact hf a ha code other hrest

/-- A size check in front of a decoder. -/
theorem has_number_check {c : Prop} [Decidable c] {code : Int}
    {x : Except PduFault (Option (Int × MessageData))} (hx : HasNumber out.phoneNumber x) :
    HasNumber out.phoneNumber (if c then .ok (some (code, out)) else x) := by
  split_ifs
  · exact has_number_ok
  · exact hx

theorem decode_text_number (encoding : SmsEncoding)
    (dataOffset sizeBytes elements bitOffset : Nat) : HasNumber out.phoneNumber
      (decodeText p encoding dataOffset sizeBytes elements bitOffset out) := by
  unfold decodeText
  split_ifs
  · refine has_number_bind fun text _ code other h => ?_
    cases h
    rfl
  · exact has_number_ok
  · refine has_number_bind fun octets _ code other h => ?_
    cases h
    rfl

theorem decode_user_data_number (encoding : SmsEncoding) (hasUdh : Bool) (lenOffset : Nat) :
    HasNumber out.phoneNumber (decodeUserData p encoding hasUdh lenOffset out) := by
  unfold decodeUserData
  refine has_number_bind fun elements _ => ?_
  by_cases hpos : lenOffset > 0
  · rw [if_pos hpos]
    refine has_number_check (has_number_check ?_)
    cases hasUdh with
    | false => exact decode_text_number _ _ _ _ _
    | true =>
        refine has_number_bind fun headerLen _ => has_number_bind fun _ _ => has_number_check ?_
        cases elementLoop p _ _ with
        | none =>
            intro code other h
            cases h
        | some left =>
            refine has_number_bind fun offset _ => has_number_bind fun _ _ => ?_
            split_ifs
            · exact decode_text_number _ _ _ _ _
            · exact decode_text_number _ _ _ _ _
  · rw [if_neg hpos]
    exact has_number_ok

theorem decode_fields_number (hasUdh : Bool) (offsets : FieldOffsets) :
    HasNumber out.phoneNumber (decodeFields p hasUdh offsets out) := by
  have hscheme : HasNumber out.phoneNumber (decodeScheme p hasUdh offsets out) := by
    unfold decodeScheme
    split_ifs
    · exact has_number_ok
    · refine has_number_bind fun dcs _ => ?_
      change HasNumber ({ out with dcs := dcs, outDcs := dcs } : MessageData).phoneNumber _
      exact decode_user_data_number _ _ _
    · exact decode_user_data_number _ _ _
  unfold decodeFields
  split_ifs
  · exact has_number_ok
  · exact has_number_bind fun _ _ => hscheme
  · exact hscheme

theorem decode_deliver_number (hasUdh : Bool) (offset : Nat) :
    HasNumber out.phoneNumber (decodeDeliver p hasUdh offset out) := by
  unfold decodeDeliver
  exact has_number_check (has_number_bind fun _ _ => has_number_bind fun _ _ =>
    has_number_bind fun _ _ => decode_fields_number _ _)

theorem decode_submit_number (first : UInt8) (hasUdh : Bool) (offset : Nat) :
    HasNumber out.phoneNumber (decodeSubmit p first hasUdh offset out) := by
  unfold decodeSubmit
  exact has_number_check (decode_fields_number _ _)

theorem decode_status_report_number (hasUdh : Bool) (offset : Nat) :
    HasNumber out.phoneNumber (decodeStatusReport p hasUdh offset out) := by
  unfold decodeStatusReport
  refine has_number_check (has_number_bind fun _ _ => has_number_bind fun _ _ =>
    has_number_bind fun _ _ => ?_)
  by_cases hmore : (offset + 15) % 256 < p.rawMessageLen
  · rw [if_pos hmore]
    exact has_number_bind fun _ _ => decode_fields_number _ _
  · rw [if_neg hmore]
    exact decode_fields_number _ _

theorem decode_address_number {type : PduType} {first : UInt8} {offset : Nat} {code : Int}
    {result : MessageData}
    (hsize : ¬ p.size < (offset + 1) % 256 + ((p.data offset).toNat + 1) / 2)
    (h : decodeAddress p type first offset out = .ok (some (code, result))) :
    decodeNumber p ((offset + 1) % 256) (p.data offset).toNat out.phoneNumber =
      .ok result.phoneNumber := by
  obtain ⟨digits, hdigits, h⟩ := bind_ok h
  rw [read_ok hdigits] at h
  simp only [if_neg hsize] at h
  obtain ⟨number, hnumber, h⟩ := bind_ok h
  rw [hnumber]
  cases type with
  | smsDeliver => rw [decode_deliver_number _ _ code result h]
  | smsSubmit => rw [decode_submit_number _ _ _ code result h]
  | smsStatusReport => rw [decode_status_report_number _ _ code result h]

/-- What `pdu_decode` leaves in `phone_number` is what it obtains from `decode_number`. -/
theorem pdu_decode_phone_number {type : PduType} {typeOfAddress : UInt8} {digits : List UInt8}
    {code : Int} {result : MessageData} (h : NumericAddress p type typeOfAddress digits)
    (hdecode : pduDecode p out = .ok (some (code, result))) :
    obtainedNumber p type out.phoneNumber = .ok result.phoneNumber := by
  have hsize : ¬ p.size < p.typeOffset type + ((p.data (p.addressOffset type)).toNat + 1) / 2 := by
    have hwithin := h.within
    rw [h.count]
    unfold Packet.Within at hwithin
    omega
  have hpdu : ∀ before : MessageData, decodePdu p p.pduOffset before = .ok (some (code, result)) →
      obtainedNumber p type before.phoneNumber = .ok result.phoneNumber := by
    intro before hdecode
    obtain ⟨first, hfirst, hdecode⟩ := bind_ok hdecode
    rw [read_ok hfirst, h.pdu] at hdecode
    have hreference : ¬ p.size < (p.pduOffset + 1) % 256 + 1 := by
      have hwithin := (ensures_read.1 (ensures_of_eq_ok hfirst)).1
      unfold Packet.Within incomingHeaderSize at hwithin
      omega
    cases type with
    | smsDeliver => exact decode_address_number hsize hdecode
    | smsSubmit =>
        simp only [if_neg hreference] at hdecode
        obtain ⟨_, _, hdecode⟩ := bind_ok hdecode
        exact decode_address_number hsize hdecode
    | smsStatusReport =>
        simp only [if_neg hreference] at hdecode
        obtain ⟨_, _, hdecode⟩ := bind_ok hdecode
        exact decode_address_number hsize hdecode
  obtain ⟨smscLen, hsmscLen, hdecode⟩ := bind_ok hdecode
  rw [read_ok hsmscLen] at hdecode
  unfold Packet.pduOffset at hpdu
  split_ifs at hdecode hpdu with hsmsc
  · obtain ⟨smsc, -, hdecode⟩ := bind_ok hdecode
    exact hpdu { out with smsc := smsc } hdecode
  · exact hpdu out hdecode

/-! ## The characters that are stored -/

/-- The character of the lower half of an octet. -/
def lowCharacter (octet : UInt8) : UInt8 := (octet &&& 0x0F) + 0x30

/-- The character of the upper half of an octet, or the terminator. -/
def highCharacter (octet : UInt8) : UInt8 :=
  if octet > 0xF0 then 0 else ((octet &&& 0xF0) >>> 4) + 0x30

/-- The characters of the octets from `base` on. -/
def Packet.numberCharacter (p : Packet) (base j : Nat) : UInt8 :=
  if j % 2 = 0 then lowCharacter (p.data (base + j / 2)) else highCharacter (p.data (base + j / 2))

theorem number_character_add_two (base j : Nat) :
    p.numberCharacter base (j + 2) = p.numberCharacter (base + 1) j := by
  have hoctet : base + (j + 2) / 2 = base + 1 + j / 2 := by omega
  simp only [Packet.numberCharacter, hoctet, Nat.add_mod_right]

theorem low_character_ne_zero (octet : UInt8) : lowCharacter octet ≠ 0 := by
  have hall : ∀ n : Fin 256, lowCharacter (UInt8.ofNat n) ≠ 0 := by decide +kernel
  simpa using hall ⟨octet.toNat, octet.toNat_lt⟩

theorem high_character_eq_zero_iff (octet : UInt8) : highCharacter octet = 0 ↔ octet > 0xF0 := by
  have hall : ∀ n : Fin 256, highCharacter (UInt8.ofNat n) = 0 ↔ UInt8.ofNat n > 0xF0 := by
    decide +kernel
  simpa using hall ⟨octet.toNat, octet.toNat_lt⟩

theorem store_ok {capacity : Nat} {value : UInt8}
    (h : store capacity number i value = .ok filled) :
    i < capacity ∧ filled = Function.update number i value := by
  unfold store at h
  split_ifs at h with hi
  cases h
  exact ⟨hi, rfl⟩

/-- The two characters of an octet, stored behind each other. -/
theorem update_characters (number : Bytes) {octet : UInt8} (hoctet : octet = p.data base)
    (count j : Nat) :
    Function.update (Function.update number count (lowCharacter octet)) (count + 1)
        (highCharacter octet) j =
      if count ≤ j ∧ j < count + 2 then p.numberCharacter base (j - count) else number j := by
  subst hoctet
  by_cases hsecond : j = count + 1
  · rw [hsecond, Function.update_self, if_pos (by omega), Nat.add_sub_cancel_left]
    rfl
  rw [Function.update_of_ne hsecond]
  by_cases hfirst : j = count
  · rw [hfirst, Function.update_self, if_pos (by omega), Nat.sub_self]
    rfl
  · rw [Function.update_of_ne hfirst, if_neg (by omega)]

/-- What the loop stores: two characters for each octet that it looks at. -/
theorem number_loop_ok (h : numberLoop p base remaining i count number = .ok filled) (j : Nat) :
    filled j = if count ≤ j ∧ j < count + 2 * numberOctets p base remaining i then
      p.numberCharacter (base + i) (j - count) else number j := by
  induction remaining generalizing i count number with
  | zero =>
      cases h
      rw [numberOctets, if_neg (by omega)]
  | succ remaining ih =>
      rw [numberLoop] at h
      obtain ⟨octet, hoctet, h⟩ := bind_ok h
      obtain ⟨first, hfirst, h⟩ := bind_ok h
      obtain ⟨second, hsecond, h⟩ := bind_ok h
      obtain ⟨-, rfl⟩ := store_ok hfirst
      obtain ⟨hfits, rfl⟩ := store_ok hsecond
      have hcapacity : numberCapacity = 64 := rfl
      have hnext : (count + 2) % 256 = count + 2 := by omega
      rw [numberOctets, ← read_ok hoctet]
      simp only [hnext] at h
      by_cases hstop : octet > 0xF0
      · rw [if_pos hstop] at h
        rw [if_pos hstop, Nat.mul_one, ← update_characters number (read_ok hoctet),
          highCharacter, if_pos hstop]
        obtain ⟨-, rfl⟩ := store_ok h
        -- the terminator replaces the filler
        rw [show count + 2 - 1 = count + 1 by omega, Function.update_idem]
        rfl
      · rw [if_neg hstop] at h
        have hstored := update_characters number (read_ok hoctet) count j
        rw [lowCharacter, highCharacter, if_neg hstop] at hstored
        rw [if_neg hstop, ih h, hstored]
        by_cases hlate : count + 2 ≤ j
        · obtain ⟨t, rfl⟩ := Nat.exists_eq_add_of_le hlate
          have hboth : ¬ (count ≤ count + 2 + t ∧ count + 2 + t < count + 2) := by omega
          rw [if_neg hboth, show count + 2 + t - count = t + 2 by omega, number_character_add_two,
            Nat.add_sub_cancel_left]
          by_cases hin : t < 2 * numberOctets p base remaining (i + 1)
          · rw [if_pos (by omega), if_pos (by omega), Nat.add_assoc]
          · rw [if_neg (by omega), if_neg (by omega)]
        · rw [if_neg (by omega)]
          by_cases hearly : count ≤ j
          · rw [if_pos (by omega), if_pos (by omega)]
          · rw [if_neg (by omega), if_neg (by omega)]

/-- The type of an international number is skipped, and its plus sign is a character. -/
def plusSigns (typeOfAddress : UInt8) : Nat := if typeOfAddress = 0x91 then 1 else 0

/-- What `decode_number` stores for a number that is not alphanumeric. -/
theorem decode_number_ok {len : Nat} {typeOfAddress : UInt8}
    (h : decodeNumber p base len number = .ok filled) (hlen : 1 ≤ len)
    (htype : p.data base = typeOfAddress) (hnumeric : typeOfAddress &&& 0x70 ≠ 0x50) (j : Nat) :
    filled j =
      if j < plusSigns typeOfAddress then 0x2B
      else if j - plusSigns typeOfAddress < 2 *
          numberOctets p base (len - plusSigns typeOfAddress) (plusSigns typeOfAddress) then
        p.numberCharacter (base + plusSigns typeOfAddress) (j - plusSigns typeOfAddress)
      else number j := by
  obtain ⟨first, hfirst, h⟩ := bind_ok h
  have hshort : ¬ len < 1 := by omega
  rw [read_ok hfirst, htype, if_neg hshort, if_neg hnumeric] at h
  unfold plusSigns
  by_cases hplus : typeOfAddress = 0x91
  · rw [if_pos hplus] at h ⊢
    obtain ⟨plus, hstore, h⟩ := bind_ok h
    obtain ⟨-, rfl⟩ := store_ok hstore
    rw [number_loop_ok h]
    by_cases hj : j = 0
    · rw [hj, if_neg (by omega), if_pos (by omega), Function.update_self]
    · rw [if_neg (show ¬ j < 1 by omega), Function.update_of_ne hj]
      by_cases hin : j - 1 < 2 * numberOctets p base (len - 1) 1
      · rw [if_pos (by omega), if_pos hin]
      · rw [if_neg (by omega), if_neg hin]
  · rw [if_neg hplus] at h
    rw [number_loop_ok h]
    simp only [if_neg hplus, Nat.not_lt_zero, if_false, Nat.sub_zero, Nat.zero_le, true_and,
      Nat.zero_add]

/-! ## The octets of an address -/

theorem number_octets_le (base remaining i : Nat) :
    numberOctets p base remaining i ≤ remaining := by
  induction remaining generalizing i with
  | zero => exact Nat.le_refl 0
  | succ remaining ih =>
      rw [numberOctets]
      split_ifs
      · omega
      · have := ih (i + 1)
        omega

/-- The loop stops at the first octet above `0xF0`. -/
theorem number_octets_eq {stop : Nat} (hstop : p.data (base + i + stop) > 0xF0)
    (hbefore : ∀ k < stop, ¬ p.data (base + i + k) > 0xF0) (hlt : stop < remaining) :
    numberOctets p base remaining i = stop + 1 := by
  induction remaining generalizing i stop with
  | zero => omega
  | succ remaining ih =>
      rw [numberOctets]
      cases stop with
      | zero => rw [if_pos (by simpa using hstop)]
      | succ stop =>
          rw [if_neg (by simpa using hbefore 0 (by omega))]
          have hshift : ∀ k, base + (i + 1) + k = base + i + (k + 1) := fun k => by omega
          rw [ih (by rw [hshift]; exact hstop)
            (fun k hk => by rw [hshift]; exact hbefore (k + 1) (by omega)) (by omega)]

/-- The two halves of an octet. -/
theorem halves_of_octet {d e : UInt8} (hd : d < 16) (he : e < 16) :
    lowCharacter (d + 16 * e) = d + 0x30 ∧
      (d + 16 * e > 0xF0 ↔ e = 15 ∧ d ≠ 0) ∧
      (¬ d + 16 * e > 0xF0 → highCharacter (d + 16 * e) = e + 0x30) := by
  have hall : ∀ m n : Fin 16, let d := UInt8.ofNat m
      let e := UInt8.ofNat n
      lowCharacter (d + 16 * e) = d + 0x30 ∧ (d + 16 * e > 0xF0 ↔ e = 15 ∧ d ≠ 0) ∧
        (¬ d + 16 * e > 0xF0 → highCharacter (d + 16 * e) = e + 0x30) := by
    decide +kernel
  have hthis := hall ⟨d.toNat, hd⟩ ⟨e.toNat, he⟩
  simpa using hthis

variable {type : PduType} {typeOfAddress : UInt8} {digits : List UInt8}

theorem NumericAddress.digit_lt (h : NumericAddress p type typeOfAddress digits) {k : Nat}
    (hk : k < digits.length) (filler : UInt8) : digits.getD k filler < 10 := by
  rw [← List.getElem_eq_getD (h := hk) filler]
  exact h.decimal _ (List.getElem_mem hk)

/-- The halves of an octet of the address are below 16. -/
theorem NumericAddress.half_lt (h : NumericAddress p type typeOfAddress digits) (k : Nat)
    {filler : UInt8} (hfiller : filler < 16) : digits.getD k filler < 16 := by
  by_cases hk : k < digits.length
  · exact UInt8.lt_trans (h.digit_lt hk filler) (by decide)
  · simpa [hk] using hfiller

/-- An octet of the address ends the number if it has a filler and a last digit that is not 0. -/
theorem NumericAddress.stops_iff (h : NumericAddress p type typeOfAddress digits) {k : Nat}
    (hk : k < (digits.length + 1) / 2) :
    p.data (p.typeOffset type + 1 + k) > 0xF0 ↔
      digits.length = 2 * k + 1 ∧ digits.getLast? ≠ some 0 := by
  have hfirst : 2 * k < digits.length := by omega
  rw [h.octets k hk, addressOctet,
    (halves_of_octet (h.half_lt _ (by decide)) (h.half_lt _ (by decide))).2.1]
  have hfiller : digits.getD (2 * k + 1) 0xF = 15 ↔ digits.length = 2 * k + 1 := by
    constructor
    · intro heq
      by_contra hlength
      have hdigit := h.digit_lt (show 2 * k + 1 < digits.length by omega) 0xF
      rw [heq] at hdigit
      exact absurd hdigit (by decide)
    · intro hlength
      simp [← hlength]
  rw [hfiller]
  refine and_congr_right fun hlength => ?_
  rw [List.getLast?_eq_getElem?, hlength, Nat.add_sub_cancel, List.getElem?_eq_getElem hfirst,
    ← List.getElem_eq_getD (h := hfirst) 0]
  simp

/-- The characters of the address are its digits. -/
theorem NumericAddress.character (h : NumericAddress p type typeOfAddress digits) {k : Nat}
    (hk : k < digits.length) :
    p.numberCharacter (p.typeOffset type + 1) k = digits[k] + 0x30 := by
  have hlow := h.half_lt (2 * (k / 2)) (show 0 < 16 by decide)
  have hhigh := h.half_lt (2 * (k / 2) + 1) (show 0xF < 16 by decide)
  obtain ⟨hfirst, hstops, hsecond⟩ := halves_of_octet hlow hhigh
  rw [Packet.numberCharacter, h.octets (k / 2) (by omega), addressOctet]
  by_cases heven : k % 2 = 0
  · have hk2 : 2 * (k / 2) = k := by omega
    rw [if_pos heven, hfirst, hk2, List.getElem_eq_getD 0]
  · have hk2 : 2 * (k / 2) + 1 = k := by omega
    rw [if_neg heven, hsecond, hk2, List.getElem_eq_getD 0xF]
    rw [hstops, hk2]
    rintro ⟨hfifteen, -⟩
    have hdigit := h.digit_lt hk 0xF
    rw [hfifteen] at hdigit
    exact absurd hdigit (by decide)

/-! ## When the number is exact -/

theorem number_text_eq (typeOfAddress : UInt8) (digits : List UInt8) :
    numberText typeOfAddress digits =
      List.replicate (plusSigns typeOfAddress) 0x2B ++ digits.map (· + 0x30) := by
  unfold numberText plusSigns
  split_ifs <;> rfl

theorem length_number_text (typeOfAddress : UInt8) (digits : List UInt8) :
    (numberText typeOfAddress digits).length = plusSigns typeOfAddress + digits.length := by
  rw [number_text_eq, List.length_append, List.length_replicate, List.length_map]

/-- The text of a number has no terminator in it. -/
theorem NumericAddress.text_clean (h : NumericAddress p type typeOfAddress digits) :
    0 ∉ numberText typeOfAddress digits := by
  have hall : ∀ n : Fin 10, UInt8.ofNat n + 0x30 ≠ 0 := by decide
  intro hmem
  obtain hmem | hmem := List.mem_append.1 hmem
  · split_ifs at hmem
    · simp at hmem
    · simp at hmem
  · obtain ⟨d, hd, hzero⟩ := List.mem_map.1 hmem
    have hdigit := hall ⟨d.toNat, h.decimal d hd⟩
    rw [UInt8.ofNat_toNat] at hdigit
    exact hdigit hzero

/-- If the array has no zeros, the terminator is that of an octet above `0xF0`. -/
theorem NumericAddress.terminator (h : NumericAddress p type typeOfAddress digits)
    (hfilled : obtainedNumber p type (fun _ => 1) = .ok filled)
    (hend : filled (plusSigns typeOfAddress + digits.length) = 0) :
    digits.length % 2 = 1 ∧ plusSigns typeOfAddress * 2 < digits.length ∧
      p.data (p.typeOffset type + plusSigns typeOfAddress + digits.length / 2) > 0xF0 := by
  rw [obtainedNumber, h.count] at hfilled
  rw [decode_number_ok hfilled h.length.1 h.typeOctet h.numeric, if_neg (by omega),
    Nat.add_sub_cancel_left] at hend
  have hle := number_octets_le (p := p) (p.typeOffset type)
    (digits.length - plusSigns typeOfAddress) (plusSigns typeOfAddress)
  split_ifs at hend with hin
  · unfold Packet.numberCharacter at hend
    split_ifs at hend with heven
    · exact absurd hend (low_character_ne_zero _)
    · exact ⟨by omega, by omega, (high_character_eq_zero_iff _).1 hend⟩
  · exact absurd hend (by decide)

theorem NumericAddress.exact_of_decodes (h : NumericAddress p type typeOfAddress digits)
    (hdecodes : DecodesNumber p type typeOfAddress digits) :
    (typeOfAddress = 0x91 ∧ digits.length % 2 = 1 ∧ 3 ≤ digits.length ∧
        digits.getLast? ≠ some 0) ∨
      (typeOfAddress > 0xF0 ∧ digits = [typeOfAddress &&& 0x0F]) := by
  -- an array without zeros is the worst case
  obtain ⟨filled, hfilled, hstring⟩ := hdecodes fun _ => 1
  obtain ⟨-, -, hholds, hend⟩ := string_eq_some_iff.1 hstring
  rw [length_number_text] at hend
  obtain ⟨hodd, hlength, hstop⟩ := h.terminator hfilled hend
  by_cases hplus : typeOfAddress = 0x91
  · rw [plusSigns, if_pos hplus] at hlength hstop
    exact .inl ⟨hplus, hodd, by omega, ((h.stops_iff (by omega)).1 hstop).2⟩
  · have hnone : plusSigns typeOfAddress = 0 := if_neg hplus
    rw [hnone, Nat.add_zero] at hstop
    -- the octets of the address but the last one have two digits
    have hone : digits.length = 1 := by
      by_contra hmore
      rw [show p.typeOffset type + digits.length / 2 =
        p.typeOffset type + 1 + (digits.length / 2 - 1) by omega, h.stops_iff (by omega)] at hstop
      omega
    obtain ⟨d, rfl⟩ := List.length_eq_one_iff.1 hone
    rw [hone, show 1 / 2 = 0 from rfl, Nat.add_zero, h.typeOctet] at hstop
    refine .inr ⟨hstop, ?_⟩
    have hpos := number_octets_pos (p := p) (p.typeOffset type) 1 0 Nat.one_pos
    have hfirst : filled 0 = d + 0x30 := by
      have hbyte := hholds 0 (by rw [length_number_text]; omega)
      simpa [numberText, hplus] using hbyte
    rw [obtainedNumber, h.count] at hfilled
    rw [decode_number_ok hfilled h.length.1 h.typeOctet h.numeric, hnone, if_neg (by omega),
      if_pos (by simpa using hpos)] at hfirst
    have hlow : lowCharacter typeOfAddress = d + 0x30 := by
      rw [← hfirst, ← h.typeOctet]
      rfl
    rw [← (UInt8.add_left_inj 0x30).1 hlow]

theorem plus_signs_le (typeOfAddress : UInt8) : plusSigns typeOfAddress ≤ 1 := by
  unfold plusSigns
  split_ifs <;> omega

/-- The octets of a number that ends with its last digit are inside the packet and fit the array. -/
theorem NumericAddress.number_fits (h : NumericAddress p type typeOfAddress digits)
    (hodd : digits.length % 2 = 1)
    (hoctets : numberOctets p (p.typeOffset type) (digits.length - plusSigns typeOfAddress)
      (plusSigns typeOfAddress) = digits.length / 2 + 1) :
    NumberFits p (p.typeOffset type) digits.length := by
  have hlength := h.length
  refine ⟨h.within.mono (by omega), fun _ => ?_⟩
  rw [h.typeOctet, if_neg h.numeric]
  unfold plusSigns at hoctets
  unfold numberCapacity
  by_cases hplus : typeOfAddress = 0x91
  · rw [if_pos hplus] at hoctets ⊢
    exact .inr ⟨h.within.mono (by omega), by omega⟩
  · rw [if_neg hplus, Nat.sub_zero] at hoctets
    rw [if_neg hplus]
    exact ⟨h.within.mono (by omega), by omega⟩

/-- The number is exact if the octet in which its last digit is ends it. -/
theorem NumericAddress.decodes_of_octets (h : NumericAddress p type typeOfAddress digits)
    (hoctets : numberOctets p (p.typeOffset type) (digits.length - plusSigns typeOfAddress)
      (plusSigns typeOfAddress) = digits.length / 2 + 1)
    (hcharacters : ∀ k (hk : k < digits.length),
      p.numberCharacter (p.typeOffset type + plusSigns typeOfAddress) k = digits[k] + 0x30)
    (hend : p.numberCharacter (p.typeOffset type + plusSigns typeOfAddress) digits.length = 0) :
    DecodesNumber p type typeOfAddress digits := by
  intro phoneNumber
  have hlength := h.length
  have hodd : digits.length % 2 = 1 := by
    by_contra heven
    rw [Packet.numberCharacter, if_pos (by omega)] at hend
    exact low_character_ne_zero _ hend
  obtain ⟨filled, hfilled, -⟩ :=
    (ensures_decode_number _ _ phoneNumber).2 (h.number_fits hodd hoctets)
  have hstored := decode_number_ok hfilled hlength.1 h.typeOctet h.numeric
  rw [hoctets] at hstored
  refine ⟨filled, by rw [obtainedNumber, h.count, hfilled], string_eq_some_iff.2 ?_⟩
  have hplus := plus_signs_le typeOfAddress
  rw [length_number_text]
  refine ⟨?_, h.text_clean, fun j hj => ?_, ?_⟩
  · unfold numberCapacity
    omega
  · rw [length_number_text] at hj
    rw [Nat.zero_add, hstored j]
    simp only [number_text_eq]
    by_cases hfirst : j < plusSigns typeOfAddress
    · rw [if_pos hfirst, List.getElem_append_left (by simpa using hfirst), List.getElem_replicate]
    · rw [if_neg hfirst, if_pos (by omega), hcharacters _ (by omega),
        List.getElem_append_right (by simpa using hfirst), List.getElem_map]
      simp only [List.length_replicate]
  · rw [hstored, if_neg (by omega), Nat.add_sub_cancel_left, if_pos (by omega), hend]

/-- An international number whose last octet has a filler, and a last digit that is not 0. -/
theorem NumericAddress.decodes_international (h : NumericAddress p type 0x91 digits)
    (hodd : digits.length % 2 = 1) (hthree : 3 ≤ digits.length)
    (hlast : digits.getLast? ≠ some 0) : DecodesNumber p type 0x91 digits := by
  have hone : plusSigns 0x91 = 1 := rfl
  have hstop := (h.stops_iff (k := digits.length / 2) (by omega)).2 ⟨by omega, hlast⟩
  refine h.decodes_of_octets ?_ ?_ ?_
  · rw [hone]
    refine number_octets_eq hstop (fun k hk => ?_) (by omega)
    rw [h.stops_iff (by omega)]
    omega
  · intro k hk
    rw [hone]
    exact h.character hk
  · rw [hone, Packet.numberCharacter, if_neg (by omega)]
    exact (high_character_eq_zero_iff _).2 hstop

/-- The type is taken for the octet of the only digit. -/
theorem NumericAddress.decodes_type (h : NumericAddress p type typeOfAddress digits)
    (hstop : typeOfAddress > 0xF0) (hdigit : digits = [typeOfAddress &&& 0x0F]) :
    DecodesNumber p type typeOfAddress digits := by
  have hnone : plusSigns typeOfAddress = 0 := by
    refine if_neg ?_
    rintro rfl
    exact absurd hstop (by decide)
  have hone : digits.length = 1 := by rw [hdigit, List.length_singleton]
  rw [← h.typeOctet] at hstop
  refine h.decodes_of_octets ?_ ?_ ?_
  · rw [hnone, hone]
    exact number_octets_eq hstop (fun k hk => absurd hk (Nat.not_lt_zero k)) (by omega)
  · intro k hk
    have hzero : k = 0 := by omega
    subst hzero
    rw [hnone]
    simp [Packet.numberCharacter, hdigit, h.typeOctet, lowCharacter]
  · rw [hnone, hone]
    exact (high_character_eq_zero_iff _).2 hstop

/-- For every numeric address, the number is decoded exactly, whatever the array holds, if and only
if it is an international number with an odd number of at least three digits, the last of which is
not 0, or the type is above `0xF0` and its lower half is the only digit. -/
theorem sender_number_exact_iff (p : Packet) (type : PduType) (typeOfAddress : UInt8)
    (digits : List UInt8) (h : NumericAddress p type typeOfAddress digits) :
    DecodesNumber p type typeOfAddress digits ↔
      (typeOfAddress = 0x91 ∧ digits.length % 2 = 1 ∧ 3 ≤ digits.length ∧
          digits.getLast? ≠ some 0) ∨
        (typeOfAddress > 0xF0 ∧ digits = [typeOfAddress &&& 0x0F]) := by
  refine ⟨h.exact_of_decodes, ?_⟩
  rintro (⟨rfl, hodd, hthree, hlast⟩ | ⟨hstop, hdigit⟩)
  · exact h.decodes_international hodd hthree hlast
  · exact h.decodes_type hstop hdigit

/-- The number `+123`. -/
theorem three_digits_exact :
    DecodesNumber (packetOf [0x00, 0x03, 0x91, 0x21, 0xF3]) .smsDeliver 0x91 [1, 2, 3] := by
  refine (sender_number_exact_iff _ _ _ _ ?_).2 (.inl (by decide))
  exact ⟨by decide, by decide, by decide, List.all_iff_forall_prop.1 (by decide), by decide,
    by decide, by decide, by decide⟩

/-- Behind the number `+1234` the protocol identifier is read for two more digits. -/
theorem even_number_not_exact :
    ¬ ∀ p type typeOfAddress digits, NumericAddress p type typeOfAddress digits →
      DecodesNumber p type typeOfAddress digits := by
  intro h
  have haddress : NumericAddress (packetOf [0x00, 0x04, 0x91, 0x21, 0x43, 0x00, 0x00]) .smsDeliver
      0x91 [1, 2, 3, 4] :=
    ⟨by decide, by decide, by decide, List.all_iff_forall_prop.1 (by decide), by decide, by decide,
      by decide, by decide⟩
  exact absurd (haddress.exact_of_decodes (h _ _ _ _ haddress)) (by decide)

end OpenQti.Sms
