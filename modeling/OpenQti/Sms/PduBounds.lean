import OpenQti.Lib.Ensures
import OpenQti.Sms.Pdu

/-!
# Bounds of the PDU decoder

When `pdu_decode` stays inside the packet and inside its buffers. The checks of the source
compare the size of the whole packet with offsets into the PDU, 27 octets further on, so a
check that passes says little; what keeps the decoder inside the packet is the packet.
`PduFits` is the exact condition, `pdu_decode_safe_iff`. Each part of the decoder has a
lemma that says when it does not fault.
-/

namespace OpenQti.Sms

open Bytes Loop Except

variable {p : Packet}

/-! ## Reads and stores -/

theorem Packet.Within.mono {i j : Nat} (h : p.Within i) (hle : j ≤ i) : p.Within j := by
  unfold Packet.Within at *
  omega

theorem ensures_read {i : Nat} {post : UInt8 → Prop} :
    (p.read i).Ensures post ↔ p.Within i ∧ post (p.data i) := by
  unfold Packet.read
  by_cases h : p.Within i <;> simp [h, ensures_ok, ensures_error]

theorem ensures_store {capacity i : Nat} {buffer : Bytes} {value : UInt8} {post : Bytes → Prop} :
    (store capacity buffer i value).Ensures post ↔
      i < capacity ∧ post (Function.update buffer i value) := by
  unfold store
  by_cases h : i < capacity <;> simp [h, ensures_ok, ensures_error]

/-- Reading a number of octets in a row. -/
theorem ensures_read_all (base : Nat) (indices : List Nat) :
    ((indices.mapM fun k => p.read (base + k)).Ensures fun _ => True) ↔
      ∀ k ∈ indices, p.Within (base + k) := by
  induction indices with
  | nil => simp [pure, Except.pure, ensures_ok]
  | cons k indices ih =>
      have hpure : ∀ octets : List UInt8,
          ((pure (p.data (base + k) :: octets) : Except PduFault (List UInt8)).Ensures
            fun _ => True) ↔ True := by
        intro octets
        simp [pure, Except.pure, ensures_ok]
      rw [List.mapM_cons, ensures_bind, ensures_read, ensures_bind_const hpure, ih]
      simp

theorem ensures_read_range (base n : Nat) :
    (((List.range n).mapM fun k => p.read (base + k)).Ensures fun _ => True) ↔
      n = 0 ∨ p.Within (base + n - 1) := by
  rw [ensures_read_all]
  constructor
  · intro h
    by_cases hn : n = 0
    · exact .inl hn
    · exact .inr ((h (n - 1) (by simp; omega)).mono (by omega))
  · rintro (rfl | h) k hk
    · simp at hk
    · exact h.mono (by simp at hk; omega)

/-! ## Characters, numbers and dates -/

/-- The octets of `length` characters of seven bits, from a bit offset on, are in the packet, and
the characters fit the buffer. -/
def Gsm7Fits (p : Packet) (base length bitOffset capacity : Nat) : Prop :=
  length = 0 ∨ (p.Within (base + (bitOffset + 7 * length - 1) / 8) ∧ length ≤ capacity)

/-- A character needs the octets that hold its seven bits. -/
theorem ensures_gsm7_char (base startBit : Nat) :
    ((gsm7Char p base startBit).Ensures fun _ => True) ↔
      p.Within (base + (startBit + 6) / 8) := by
  unfold gsm7Char
  simp only [ensures_bind, ensures_read, ensures_ite, ensures_ok, and_true, implies_true]
  have hoffset : startBit % 8 < 8 := Nat.mod_lt _ (by decide)
  -- up to bit 1 the character is in one octet, after that in two
  by_cases hnext : startBit % 8 ≤ 1
  · have hsame : (startBit + 6) / 8 = startBit / 8 := by omega
    rw [hsame]
    refine ⟨fun h => h.1, fun h => ⟨h, fun hbits => ?_⟩⟩
    split_ifs at hbits <;> omega
  · have hlast : (startBit + 6) / 8 = startBit / 8 + 1 := by omega
    rw [hlast]
    refine ⟨fun h => h.2 ?_, fun h => ⟨h.mono (by omega), fun _ => h⟩⟩
    split_ifs <;> omega

theorem ensures_gsm7_loop (base bitOffset capacity remaining i : Nat) (text : Bytes) :
    ((gsm7Loop p base bitOffset capacity remaining i text).Ensures fun _ => True) ↔
      remaining = 0 ∨ (p.Within (base + (bitOffset + 7 * (i + remaining) - 1) / 8) ∧
        i + remaining ≤ capacity) := by
  induction remaining generalizing i text with
  | zero => simp [gsm7Loop, ensures_ok]
  | succ remaining ih =>
      rw [gsm7Loop, ensures_bind_const fun c => by
        rw [ensures_bind, ensures_store, ih], ensures_gsm7_char]
      constructor
      · rintro ⟨hchar, hlt, hrest⟩
        refine .inr ?_
        obtain rfl | ⟨hlast, hle⟩ := hrest
        · exact ⟨hchar.mono (by omega), hlt⟩
        · exact ⟨hlast.mono (by omega), by omega⟩
      · rintro (hzero | ⟨hlast, hle⟩)
        · omega
        · refine ⟨hlast.mono (by omega), by omega, ?_⟩
          by_cases hzero : remaining = 0
          · exact .inl hzero
          · exact .inr ⟨hlast.mono (by omega), by omega⟩

theorem ensures_gsm7_to_ascii (base length bitOffset capacity : Nat) (text : Bytes) :
    ((gsm7ToAscii p base length bitOffset capacity text).Ensures fun _ => True) ↔
      Gsm7Fits p base length bitOffset capacity := by
  rw [gsm7ToAscii, ensures_gsm7_loop, Gsm7Fits]
  simp

/-- The number of octets of a number that are looked at, from octet `i` on: up to the first one
above `0xF0`, with that one. -/
def numberOctets (p : Packet) (base : Nat) : Nat → Nat → Nat
  | 0, _ => 0
  | remaining + 1, i =>
      if p.data (base + i) > 0xF0 then 1 else numberOctets p base remaining (i + 1) + 1

theorem ensures_number_loop (base remaining i count : Nat) (number : Bytes) :
    ((numberLoop p base remaining i count number).Ensures fun _ => True) ↔
      numberOctets p base remaining i = 0 ∨
        (p.Within (base + i + numberOctets p base remaining i - 1) ∧
          count + 2 * numberOctets p base remaining i ≤ numberCapacity) := by
  have hcapacity : numberCapacity = 64 := rfl
  induction remaining generalizing i count number with
  | zero => simp [numberLoop, numberOctets, ensures_ok]
  | succ remaining ih =>
      simp only [numberLoop, ensures_bind, ensures_read, ensures_store, ensures_ite]
      rw [numberOctets]
      -- the digits fit 64 characters, so the 8-bit count does not wrap before a store faults
      by_cases hstop : p.data (base + i) > 0xF0
      · simp only [hstop, not_true_eq_false, false_implies, true_implies, and_true, if_true]
        constructor
        · rintro ⟨hread, -, hlast, -⟩
          exact .inr ⟨hread.mono (by omega), by omega⟩
        · rintro (hzero | ⟨hread, hle⟩)
          · omega
          · exact ⟨hread.mono (by omega), by omega, by omega, by omega⟩
      · simp only [hstop, not_false_eq_true, false_implies, true_implies, true_and, if_false, ih]
        constructor
        · rintro ⟨hread, -, hlast, hrest⟩
          refine .inr ?_
          have hcount : (count + 2) % 256 = count + 2 := by omega
          rw [hcount] at hrest
          obtain hzero | ⟨hwithin, hle⟩ := hrest
          · exact ⟨hread.mono (by omega), by omega⟩
          · exact ⟨hwithin.mono (by omega), by omega⟩
        · rintro (hzero | ⟨hread, hle⟩)
          · omega
          · refine ⟨hread.mono (by omega), by omega, by omega, ?_⟩
            have hcount : (count + 2) % 256 = count + 2 := by omega
            rw [hcount]
            by_cases hzero : numberOctets p base remaining (i + 1) = 0
            · exact .inl hzero
            · exact .inr ⟨hread.mono (by omega), by omega⟩

/-- The octets of a number of `len` octets that are looked at are in the packet, and its digits fit
the buffer. A number that begins with `0x91` is written after a plus sign. -/
def NumberFits (p : Packet) (base len : Nat) : Prop :=
  p.Within base ∧ (0 < len →
    if p.data base &&& 0x70 = 0x50 then Gsm7Fits p (base + 1) (len - 1) 0 numberCapacity
    else if p.data base = 0x91 then
      numberOctets p base (len - 1) 1 = 0 ∨
        (p.Within (base + numberOctets p base (len - 1) 1) ∧
          1 + 2 * numberOctets p base (len - 1) 1 ≤ numberCapacity)
    else
      p.Within (base + numberOctets p base len 0 - 1) ∧
        2 * numberOctets p base len 0 ≤ numberCapacity)

theorem number_octets_pos (base remaining i : Nat) (h : 0 < remaining) :
    0 < numberOctets p base remaining i := by
  cases remaining with
  | zero => omega
  | succ remaining =>
      rw [numberOctets]
      split_ifs <;> omega

theorem ensures_decode_number (base len : Nat) (number : Bytes) :
    ((decodeNumber p base len number).Ensures fun _ => True) ↔ NumberFits p base len := by
  have hcapacity : 0 < numberCapacity := by decide
  unfold decodeNumber NumberFits
  rw [ensures_bind, ensures_read]
  refine and_congr_right fun _ => ?_
  by_cases hlen : len < 1
  · simp only [if_pos hlen, ensures_store]
    exact iff_of_true ⟨hcapacity, trivial⟩ fun hpos => by omega
  have hpos : 0 < len := by omega
  simp only [if_neg hlen, hpos, true_implies]
  by_cases halpha : p.data base &&& 0x70 = 0x50
  · simp only [if_pos halpha, ensures_gsm7_to_ascii]
  simp only [if_neg halpha]
  by_cases hplus : p.data base = 0x91
  · simp only [if_pos hplus, ensures_bind, ensures_store, ensures_number_loop]
    rw [and_iff_right hcapacity]
    by_cases hnone : numberOctets p base (len - 1) 1 = 0
    · simp only [hnone, true_or]
    · rw [show base + 1 + numberOctets p base (len - 1) 1 - 1 =
        base + numberOctets p base (len - 1) 1 by omega]
  · have hsome := number_octets_pos base len 0 hpos (p := p)
    simp only [if_neg hplus, ensures_number_loop, Nat.add_zero, Nat.zero_add]
    exact or_iff_right (by omega)

theorem ensures_sms_decode_timestamp (base : Nat) :
    ((smsDecodeTimestamp p base).Ensures fun _ => True) ↔ p.Within (base + 6) := by
  rw [smsDecodeTimestamp, ensures_read_range]
  simp

/-! ## Answers -/

/-- The call returns a negative value. -/
def Rejected (result : Option (Int × MessageData)) : Prop :=
  ∃ code out, result = some (code, out) ∧ code < 0

/-- A packet that is not complete is rejected. -/
def Answers (complete : Prop) (result : Option (Int × MessageData)) : Prop :=
  ¬ complete → Rejected result

variable {complete : Prop} {out : MessageData}

theorem answers_too_short : Answers complete (some (minusEnomem, out)) ↔ True :=
  iff_of_true (fun _ => ⟨_, _, rfl, by decide⟩) trivial

theorem answers_accepted : Answers complete (some (0, out)) ↔ complete := by
  constructor
  · intro h
    by_contra hincomplete
    obtain ⟨code, other, heq, hneg⟩ := h hincomplete
    cases heq
    exact absurd hneg (by decide)
  · intro h hincomplete
    exact absurd h hincomplete

theorem answers_none : Answers complete none ↔ complete := by
  constructor
  · intro h
    by_contra hincomplete
    obtain ⟨code, other, heq, -⟩ := h hincomplete
    cases heq
  · intro h hincomplete
    exact absurd h hincomplete

/-! ## The user data -/

/-- The text is in the packet and fits its buffer, or, in another encoding than GSM7, is not looked
at because it is longer than a message can be. -/
def TextFits (p : Packet) (encoding : SmsEncoding)
    (dataOffset sizeBytes elements bitOffset : Nat) : Prop :=
  if encoding = .gsm7 then Gsm7Fits p dataOffset elements bitOffset 160
  else 160 < sizeBytes ∨ sizeBytes = 0 ∨ p.Within (dataOffset + sizeBytes - 1)

theorem ensures_decode_text (encoding : SmsEncoding)
    (dataOffset sizeBytes elements bitOffset : Nat) :
    (decodeText p encoding dataOffset sizeBytes elements bitOffset out).Ensures
        (Answers complete) ↔
      TextFits p encoding dataOffset sizeBytes elements bitOffset ∧ complete := by
  unfold decodeText TextFits
  by_cases hgsm : encoding = .gsm7
  · simp only [if_pos hgsm]
    rw [ensures_bind_const fun text => by rw [ensures_ok, answers_accepted],
      ensures_gsm7_to_ascii]
  · simp only [if_neg hgsm]
    by_cases hlong : sizeBytes > 160
    · rw [if_pos hlong, ensures_ok, answers_accepted]
      exact (and_iff_right (.inl hlong)).symm
    · rw [if_neg hlong, ensures_bind_const fun octets => by rw [ensures_ok, answers_accepted],
        ensures_read_range, or_iff_right hlong]

/-- The loop over the user data header, when its octets are in the packet. -/
def elementEndBody (p : Packet) (last offset : Nat) : Round Nat Nat :=
  if offset + 1 < last then .again ((offset + 2 + (p.data (offset + 1)).toNat) % 256)
  else .leave offset

/-- The offset at which the information elements of the header leave it, or `none` if they never
do. -/
def elementEnd (p : Packet) (last offset : Nat) : Option Nat :=
  Loop.run (elementEndBody p last) 256 offset

/-- The octets logged from an information element are those up to the octet after the header. -/
theorem read_element_ok {last : Nat} (hlast : p.Within last) (id : UInt8) (offset : Nat) :
    readElement p id offset last = .ok () := by
  have hok : (readElement p id offset last).Ensures fun _ => True := by
    unfold readElement
    simp only [ensures_ite, ensures_bind, ensures_read, ensures_ok, and_true]
    refine ⟨fun _ => ⟨fun _ => trivial, fun hin => ?_⟩, fun _ => ⟨fun _ => ⟨fun _ => trivial,
      fun hin => ⟨hlast.mono (by omega), fun _ => trivial, fun _ => ⟨hlast.mono (by omega),
        fun _ => trivial, fun _ => ?_⟩⟩⟩, fun _ => trivial⟩⟩
    · exact ⟨hlast.mono (by omega), hlast.mono (by omega), hlast.mono (by omega)⟩
    · exact ⟨hlast.mono (by omega), hlast.mono (by omega)⟩
  obtain ⟨_, heq, -⟩ := hok
  exact heq

theorem element_body_eq {last offset : Nat} (hlast : p.Within last) (hsmall : last < 256) :
    elementBody p last offset =
      match elementEndBody p last offset with
      | .again next => .again next
      | .leave result => .leave (.ok result) := by
  unfold elementBody elementEndBody
  by_cases hin : offset + 1 < last
  · have hfirst : p.Within offset := hlast.mono (by omega)
    have hsecond : p.Within (offset + 1) := hlast.mono (by omega)
    have hwrap : (offset + 1) % 256 = offset + 1 := by omega
    have hnext : (offset + 2) % 256 = offset + 2 := by omega
    simp only [if_pos hin, hwrap, hnext, Packet.read, if_pos hfirst, if_pos hsecond, bind,
      Except.bind, read_element_ok hlast]
  · simp only [if_neg hin]

theorem element_loop_eq {last : Nat} (hlast : p.Within last) (hsmall : last < 256) (offset : Nat) :
    elementLoop p last offset = (elementEnd p last offset).map .ok := by
  unfold elementLoop elementEnd
  -- The two loops take the same rounds, so the number of them does not matter.
  generalize 256 = fuel
  induction fuel generalizing offset with
  | zero => rfl
  | succ fuel ih =>
      rw [Loop.run, Loop.run, element_body_eq hlast hsmall]
      cases elementEndBody p last offset with
      | again next => exact ih next
      | leave result => rfl

/-- The offsets of the loop are octets. -/
theorem after_element_body_lt {last offset rounds current : Nat} (hoffset : offset < 256)
    (h : after (elementBody p last) rounds offset = some current) : current < 256 := by
  cases rounds with
  | zero =>
      cases h
      exact hoffset
  | succ rounds =>
      obtain ⟨before, -, hagain⟩ := (after_succ rounds).1 h
      unfold elementBody at hagain
      split at hagain
      · dsimp only at hagain
        split at hagain
        · rename_i next hnext
          cases hagain
          have hoctet := ensures_of_eq_ok hnext
          simp only [ensures_bind, ensures_read, ensures_ok] at hoctet
          obtain ⟨-, -, _, -, rfl⟩ := hoctet
          exact Nat.mod_lt _ (by decide)
        · cases hagain
      · cases hagain

/-- Within 256 rounds the loop over the user data header leaves, or it never does. -/
theorem element_loop_returns {last offset : Nat} (hoffset : offset < 256)
    (result : Except PduFault Nat) :
    Returns (elementBody p last) offset result ↔ elementLoop p last offset = some result := by
  have hcard : Returns (elementBody p last) offset result ↔ _ :=
    run_card (Finset.range 256) fun _ _ h => Finset.mem_range.2 (after_element_body_lt hoffset h)
  rwa [Finset.card_range] at hcard

/-- The user data header at `dataOffset`, its length octet included, has `udhl` octets. -/
def headerOctets (p : Packet) (dataOffset : Nat) : Nat :=
  ((p.data dataOffset).toNat + 1) % 256

/-- The padding bits after a header, before the text in seven-bit characters. -/
def headerPadding (udhl : Nat) : Nat := (7 - udhl % 7) % 7

/-- The header and the octet after it are in the packet, and if its information elements leave it,
so are the octet at which they do and the text after the header. Sizes and offsets are taken
modulo 256. -/
def HeaderFits (p : Packet) (encoding : SmsEncoding) (dataOffset sizeBytes elements : Nat) : Prop :=
  let udhl := headerOctets p dataOffset
  p.Within dataOffset ∧ p.Within (dataOffset + udhl) ∧
    ∀ offset, elementEnd p ((dataOffset + udhl) % 256) ((dataOffset + 1) % 256) = some offset →
      p.Within offset ∧
        TextFits p encoding ((dataOffset + udhl) % 256) ((sizeBytes + 256 - udhl) % 256)
          ((elements + 512 - (udhl * 8 + headerPadding udhl) / 7) % 256) (headerPadding udhl)

/-- Apart from GSM7 the number of characters does not matter. -/
theorem text_fits_of_octets {encoding : SmsEncoding} (hother : encoding ≠ .gsm7)
    {dataOffset sizeBytes : Nat} (elements bitOffset elements' bitOffset' : Nat) :
    TextFits p encoding dataOffset sizeBytes elements bitOffset ↔
      TextFits p encoding dataOffset sizeBytes elements' bitOffset' := by
  unfold TextFits
  simp only [if_neg hother]

theorem ensures_decode_with_header (encoding : SmsEncoding)
    (dataOffset sizeBytes elements : Nat) :
    (decodeWithHeader p encoding dataOffset sizeBytes elements out).Ensures (Answers complete) ↔
      HeaderFits p encoding dataOffset sizeBytes elements ∧ complete := by
  simp only [decodeWithHeader, HeaderFits, and_assoc]
  rw [ensures_bind, ensures_read]
  refine and_congr_right fun _ => ?_
  rw [← headerOctets, ensures_bind, ensures_read]
  refine and_congr_right fun hafter => ?_
  generalize headerOctets p dataOffset = udhl at hafter ⊢
  -- The octet after the header has been read, so the check that follows does not fail.
  have hcheck : ¬ p.size < dataOffset + udhl := by
    unfold Packet.Within at hafter
    omega
  have hlast : p.Within ((dataOffset + udhl) % 256) := hafter.mono (Nat.mod_le _ _)
  rw [if_neg hcheck, element_loop_eq hlast (Nat.mod_lt _ (by decide))]
  cases elementEnd p ((dataOffset + udhl) % 256) ((dataOffset + 1) % 256) with
  | none =>
      simp only [Option.map_none, ensures_ok, answers_none]
      exact ⟨fun h => ⟨nofun, h⟩, fun h => h.2⟩
  | some offset =>
      simp only [Option.map_some, ensures_bind, ensures_ok, ensures_read, ensures_ite,
        ensures_decode_text, Option.some.injEq, forall_eq']
      rw [and_assoc]
      refine and_congr_right fun _ => ?_
      by_cases hgsm : encoding = .gsm7
      · simp only [hgsm, headerPadding, true_implies, not_true_eq_false, false_implies, and_true]
      · simp only [hgsm, false_implies, not_false_eq_true, true_implies, true_and]
        rw [text_fits_of_octets hgsm]

/-- The user data, if there are any, are in the packet with their length octet. -/
def UserDataFits (p : Packet) (encoding : SmsEncoding) (hasUdh : Bool) (lenOffset : Nat) : Prop :=
  let elements := (p.data lenOffset).toNat
  let sizeBytes := if encoding = .gsm7 then 7 * (elements + 1) / 8 else elements
  let dataOffset := (lenOffset + 1) % 256
  p.Within lenOffset ∧ (0 < lenOffset →
    if hasUdh then HeaderFits p encoding dataOffset sizeBytes elements
    else TextFits p encoding dataOffset sizeBytes elements 0)

theorem ensures_decode_user_data (encoding : SmsEncoding) (hasUdh : Bool) (lenOffset : Nat) :
    (decodeUserData p encoding hasUdh lenOffset out).Ensures (Answers complete) ↔
      UserDataFits p encoding hasUdh lenOffset ∧ complete := by
  simp only [decodeUserData, UserDataFits, and_assoc]
  rw [ensures_bind, ensures_read]
  refine and_congr_right fun hlen => ?_
  by_cases hpos : lenOffset > 0
  · have hcheck : ¬ p.size < lenOffset + 1 := by
      unfold Packet.Within at hlen
      omega
    have hcheck' : ¬ p.size < (lenOffset + 1) % 256 + 1 := by
      unfold Packet.Within incomingHeaderSize at hlen
      omega
    simp only [if_true, if_neg hcheck, if_neg hcheck', hpos, true_implies]
    cases hasUdh with
    | true => simp only [if_true, ensures_decode_with_header]
    | false => simp only [Bool.false_eq_true, if_false, ensures_decode_text]
  · simp only [if_false, ensures_ok, answers_accepted, hpos, false_implies, true_and]

/-! ## The fields before the user data -/

/-- The optional identifier and coding scheme, and the user data, are in the packet. -/
def FieldsFit (p : Packet) (hasUdh : Bool) (offsets : FieldOffsets) : Prop :=
  (0 < offsets.pid → p.Within offsets.pid) ∧ (0 < offsets.dcs → p.Within offsets.dcs) ∧
    UserDataFits p (if 0 < offsets.dcs then smsEncodingType (p.data offsets.dcs) else .unknown)
      hasUdh offsets.userDataLen

theorem ensures_decode_fields (hasUdh : Bool) (offsets : FieldOffsets)
    (hpid : offsets.pid < p.size) (hdcs : offsets.dcs < p.size) :
    (decodeFields p hasUdh offsets out).Ensures (Answers complete) ↔
      FieldsFit p hasUdh offsets ∧ complete := by
  have hscheme : (decodeScheme p hasUdh offsets out).Ensures (Answers complete) ↔
      ((0 < offsets.dcs → p.Within offsets.dcs) ∧
        UserDataFits p (if 0 < offsets.dcs then smsEncodingType (p.data offsets.dcs) else .unknown)
          hasUdh offsets.userDataLen) ∧ complete := by
    have hcheck : ¬ p.size < offsets.dcs + 1 := by omega
    unfold decodeScheme
    by_cases hpos : 0 < offsets.dcs
    · simp only [if_true, if_neg hcheck, ensures_bind, ensures_read, ensures_decode_user_data,
        hpos, true_implies, and_assoc]
    · simp only [if_false, ensures_decode_user_data, hpos, false_implies, true_and]
  have hcheck : ¬ p.size < offsets.pid + 1 := by omega
  unfold decodeFields FieldsFit
  by_cases hpos : 0 < offsets.pid
  · simp only [if_true, if_neg hcheck, ensures_bind, ensures_read, hscheme, hpos, true_implies,
      and_assoc]
  · simp only [if_false, hscheme, hpos, false_implies, true_and, and_assoc]

/-! ## The three types of PDU -/

/-- The offsets of the fields of a status report that follow its parameter indicator, if there is
one. -/
def statusFields (p : Packet) (offset : Nat) : FieldOffsets :=
  if offset < p.rawMessageLen then optionalFields (p.data offset) ((offset + 1) % 256)
  else ⟨0, 0, 0⟩

/-- The offsets of the fields, for a PDU whose address ends before `offset`. -/
def fieldOffsets (p : Packet) (type : PduType) (first : UInt8) (offset : Nat) : FieldOffsets :=
  match type with
  | .smsDeliver => ⟨offset, (offset + 1) % 256, (offset + 9) % 256⟩
  | .smsSubmit => ⟨offset, (offset + 1) % 256, (offset + 2 + validityOctets first) % 256⟩
  | .smsStatusReport => statusFields p ((offset + 15) % 256)

/-- The octets after the address that the decoder asks for before it reads on. -/
def checkedOctets (type : PduType) (first : UInt8) : Nat :=
  match type with
  | .smsDeliver => 9
  | .smsSubmit => 2 + (if first &&& 0x18 = 0 then 0 else 1)
  | .smsStatusReport => 15

/-- The fields after the address are in the packet: the dates, the octets that are logged, and the
identifier, coding scheme and user data. -/
def BodyFits (p : Packet) (type : PduType) (first : UInt8) (offset : Nat) : Prop :=
  (match type with
    | .smsDeliver => p.Within ((offset + 2) % 256 + 6) ∧ p.Within ((offset + 9) % 256 + 1)
    | .smsSubmit => True
    | .smsStatusReport =>
        p.Within (offset + 6) ∧ p.Within ((offset + 7) % 256 + 6) ∧
          p.Within ((offset + 14) % 256) ∧
          ((offset + 15) % 256 < p.rawMessageLen → p.Within ((offset + 15) % 256))) ∧
    FieldsFit p (first &&& 0x40 != 0) (fieldOffsets p type first offset)

/-- A size check in front of a computation. -/
theorem ensures_check {n : Nat} {x : Except PduFault (Option (Int × MessageData))} {q : Prop}
    (hx : ¬ p.size < n → (x.Ensures (Answers complete) ↔ q)) :
    (if p.size < n then .ok (some (minusEnomem, out)) else x).Ensures (Answers complete) ↔
      p.size < n ∨ q := by
  by_cases hshort : p.size < n
  · rw [if_pos hshort, ensures_ok, answers_too_short]
    exact iff_of_true trivial (.inl hshort)
  · rw [if_neg hshort, hx hshort]
    exact (or_iff_right hshort).symm

theorem ensures_decode_deliver (hasUdh : Bool) (offset : Nat) :
    (decodeDeliver p hasUdh offset out).Ensures (Answers complete) ↔
      p.size < offset + 9 ∨
        ((p.Within ((offset + 2) % 256 + 6) ∧ p.Within ((offset + 9) % 256 + 1)) ∧
          FieldsFit p hasUdh ⟨offset, (offset + 1) % 256, (offset + 9) % 256⟩) ∧ complete := by
  refine ensures_check fun hcheck => ?_
  have hfields : (decodeFields p hasUdh ⟨offset, (offset + 1) % 256, (offset + 9) % 256⟩
      out).Ensures (Answers complete) ↔ _ :=
    ensures_decode_fields hasUdh _ (by simp only; omega) (by simp only; omega)
  rw [ensures_bind_const fun _ => by
    rw [ensures_bind, ensures_read, ensures_bind, ensures_read, hfields],
    ensures_sms_decode_timestamp]
  constructor
  · rintro ⟨hdate, -, hlogged, hrest, hcomplete⟩
    exact ⟨⟨⟨hdate, hlogged⟩, hrest⟩, hcomplete⟩
  · rintro ⟨⟨⟨hdate, hlogged⟩, hrest⟩, hcomplete⟩
    exact ⟨hdate, hlogged.mono (by omega), hlogged, hrest, hcomplete⟩

theorem ensures_decode_submit (first : UInt8) (hasUdh : Bool) (offset : Nat) :
    (decodeSubmit p first hasUdh offset out).Ensures (Answers complete) ↔
      p.size < offset + (2 + (if first &&& 0x18 = 0 then 0 else 1)) ∨
        FieldsFit p hasUdh
          ⟨offset, (offset + 1) % 256, (offset + 2 + validityOctets first) % 256⟩ ∧ complete := by
  rw [← Nat.add_assoc]
  refine ensures_check fun hcheck => ?_
  exact ensures_decode_fields hasUdh _ (by simp only; omega) (by simp only; omega)

/-- The optional identifier and coding scheme of a status report are close to its indicator. -/
theorem optional_fields_le (indicator : UInt8) (next : Nat) :
    (optionalFields indicator next).pid ≤ next ∧ (optionalFields indicator next).dcs ≤ next + 1 := by
  unfold optionalFields
  constructor
  · show (if indicator &&& 0x01 ≠ 0 then next else 0) ≤ next
    split_ifs <;> omega
  · show (if indicator &&& 0x02 ≠ 0 then
      (if indicator &&& 0x01 ≠ 0 then (next + 1) % 256 else next) else 0) ≤ next + 1
    split_ifs <;> omega

theorem ensures_decode_status_report (hasUdh : Bool) (offset : Nat) :
    (decodeStatusReport p hasUdh offset out).Ensures (Answers complete) ↔
      p.size < offset + 15 ∨
        ((p.Within (offset + 6) ∧ p.Within ((offset + 7) % 256 + 6) ∧
            p.Within ((offset + 14) % 256) ∧
            ((offset + 15) % 256 < p.rawMessageLen → p.Within ((offset + 15) % 256))) ∧
          FieldsFit p hasUdh (statusFields p ((offset + 15) % 256))) ∧ complete := by
  refine ensures_check fun _ => ?_
  rw [ensures_bind_const fun _ => by
    rw [ensures_bind_const fun _ => by rw [ensures_bind, ensures_read],
      ensures_sms_decode_timestamp], ensures_sms_decode_timestamp]
  simp only [and_assoc]
  refine and_congr_right fun _ => and_congr_right fun _ => and_congr_right fun _ => ?_
  have hsize : 0 < p.size := lt_of_lt_of_le (by decide) p.header
  unfold statusFields
  by_cases hmore : (offset + 15) % 256 < p.rawMessageLen
  · simp only [if_true, ensures_bind, ensures_read, hmore, true_implies]
    refine and_congr_right fun hindicator => ?_
    obtain ⟨hpid, hdcs⟩ := optional_fields_le (p.data ((offset + 15) % 256))
      (((offset + 15) % 256 + 1) % 256)
    unfold Packet.Within incomingHeaderSize at hindicator
    exact ensures_decode_fields hasUdh _ (by omega) (by omega)
  · simp only [if_false, hmore, false_implies, true_and]
    exact ensures_decode_fields hasUdh _ hsize hsize

end OpenQti.Sms
