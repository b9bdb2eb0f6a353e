import Mathlib.Tactic.IntervalCases
import OpenQti.Sms.PduBounds

/-!
# What a PDU carries

The contents of a PDU are a text in seven-bit characters or octets in another encoding. They
are found by following the offsets of `pdu_decode`: the number of the service centre, the first
octet, the address, the fields that depend on the type, and the header of the user data. A
PDU that `pdu_decode` accepts leaves a text, up to the first 0, in `msg_out->message`, and the
data coding scheme in the last argument. Other octets are copied to a local array only, and
are gone when the call returns.
-/

namespace OpenQti.Sms

open Bytes Loop Except

/-- The user data of a PDU without their header. -/
inductive Contents where
  | text (characters : List UInt8)
  | raw (octets : List UInt8)
  deriving DecidableEq, Repr

namespace Contents

/-- What the decoder leaves in `msg_out->message` of a text: the characters up to the first 0, and
zeros. Of other contents it leaves nothing. -/
def LeftIn : Contents → MessageData → Prop
  | .text characters, out =>
      characters.length ≤ 160 ∧
        (List.range 160).map out.message =
          characters.takeWhile (· ≠ 0) ++
            List.replicate (160 - (characters.takeWhile (· ≠ 0)).length) 0
  | .raw _, _ => True

end Contents

/-- Seven bits of two octets, from a bit of the first on. -/
def sevenBits (octet next : UInt8) (offset : Nat) : UInt8 :=
  ((octet.toUInt16 ||| next.toUInt16 <<< 8) >>> offset.toUInt16).toUInt8 &&& 0x7F

namespace Packet

/-- The seven bits at a bit position of the octets from `base` on, the lowest first. -/
def septet (p : Packet) (base startBit : Nat) : UInt8 :=
  sevenBits (p.data (base + startBit / 8)) (p.data (base + (startBit / 8 + 1))) (startBit % 8)

/-- The characters of a text, or the octets of other user data. -/
def contentsAt (p : Packet) (encoding : SmsEncoding)
    (dataOffset sizeBytes elements bitOffset : Nat) : Contents :=
  if encoding = .gsm7 then
    .text ((List.range elements).map fun i => p.septet dataOffset (bitOffset + i * 7))
  else .raw ((List.range sizeBytes).map fun k => p.data (dataOffset + k))

/-- The contents after a user data header at `dataOffset`. -/
def contentsAfterHeader (p : Packet) (encoding : SmsEncoding)
    (dataOffset sizeBytes elements : Nat) : Contents :=
  let udhl := headerOctets p dataOffset
  p.contentsAt encoding ((dataOffset + udhl) % 256) ((sizeBytes + 256 - udhl) % 256)
    ((elements + 512 - (udhl * 8 + headerPadding udhl) / 7) % 256) (headerPadding udhl)

/-- The user data from their length octet on; 0 stands for a PDU without user data. -/
def userData (p : Packet) (encoding : SmsEncoding) (hasUdh : Bool) (lenOffset : Nat) : Contents :=
  let elements := (p.data lenOffset).toNat
  let sizeBytes := if encoding = .gsm7 then 7 * (elements + 1) / 8 else elements
  let dataOffset := (lenOffset + 1) % 256
  if lenOffset = 0 then .raw []
  else if hasUdh then p.contentsAfterHeader encoding dataOffset sizeBytes elements
  else p.contentsAt encoding dataOffset sizeBytes elements 0

/-- The first octet of the PDU proper, after the number of the service centre. -/
def pduOffset (p : Packet) : Nat :=
  if p.data 0 > 0 then ((p.data 0).toNat + 1) % 256 else 0

/-- The length octet of the address. The types but `SMS_DELIVER` have a reference before it. -/
def addressOffset (p : Packet) : PduType → Nat
  | .smsDeliver => (p.pduOffset + 1) % 256
  | _ => ((p.pduOffset + 1) % 256 + 1) % 256

/-- The octet after the address. -/
def bodyOffset (p : Packet) (type : PduType) : Nat :=
  ((p.addressOffset type + 1) % 256 + (1 + ((p.data (p.addressOffset type)).toNat + 1) / 2)) % 256

/-- The offsets of the fields after the address. -/
def fields (p : Packet) : FieldOffsets :=
  match pduType (p.data p.pduOffset) with
  | none => ⟨0, 0, 0⟩
  | some type => fieldOffsets p type (p.data p.pduOffset) (p.bodyOffset type)

/-- The data coding scheme, which a status report may leave out. -/
def scheme (p : Packet) (offsets : FieldOffsets) : Option UInt8 :=
  if offsets.dcs > 0 then some (p.data offsets.dcs) else none

/-- The encoding of the user data. -/
def encoding (p : Packet) (offsets : FieldOffsets) : SmsEncoding :=
  (p.scheme offsets).elim .unknown smsEncodingType

/-- The contents of a PDU with these fields. -/
def contentsOf (p : Packet) (hasUdh : Bool) (offsets : FieldOffsets) : Contents :=
  p.userData (p.encoding offsets) hasUdh offsets.userDataLen

/-- The contents of the PDU. -/
def contents (p : Packet) : Contents :=
  p.contentsOf (p.data p.pduOffset &&& 0x40 != 0) p.fields

end Packet

variable {p : Packet} {out : MessageData}

/-! ## Characters -/

theorem read_ok {i : Nat} {octet : UInt8} (h : p.read i = .ok octet) : octet = p.data i := by
  unfold Packet.read at h
  split_ifs at h
  exact (Except.ok.inj h).symm

/-- Up to bit 1 the seven bits are in the first octet. -/
theorem seven_bits_of_first (octet next : UInt8) {offset : Nat} (hoffset : offset ≤ 1) :
    (octet >>> offset.toUInt8) &&& ((0xFF : UInt8) >>> (8 - 7).toUInt8) =
      sevenBits octet next offset := by
  apply UInt8.toBitVec_inj.1
  ext i hi
  unfold sevenBits
  interval_cases offset <;> interval_cases i <;> simp

/-- After that they begin in the first octet and end in the next. -/
theorem seven_bits_of_both (octet next : UInt8) {offset : Nat} (hlow : 1 < offset)
    (hoffset : offset < 8) :
    ((octet >>> offset.toUInt8) &&& (0xFF >>> (8 - (8 - offset)).toUInt8)) |||
      ((next &&& (0xFF >>> (8 - (7 - (8 - offset))).toUInt8)) <<< (8 - offset).toUInt8) =
        sevenBits octet next offset := by
  apply UInt8.toBitVec_inj.1
  ext i hi
  unfold sevenBits
  interval_cases offset <;> interval_cases i <;> simp

/-- `gsm7_to_ascii` reads the seven bits at a position. -/
theorem gsm7_char_ok {base startBit : Nat} {c : UInt8} (h : gsm7Char p base startBit = .ok c) :
    c = p.septet base startBit := by
  unfold gsm7Char at h
  obtain ⟨octet, hoctet, h⟩ := bind_ok h
  have hoffset : startBit % 8 < 8 := Nat.mod_lt _ (by decide)
  unfold Packet.septet
  rw [← read_ok hoctet]
  -- the source takes seven bits of the first octet for bit 0 as well as for bit 1
  by_cases hlow : startBit % 8 ≤ 1
  · have hhere : (if startBit % 8 = 0 then 7 else 8 - startBit % 8) = 7 := by
      split_ifs <;> omega
    rw [hhere] at h
    cases h
    exact seven_bits_of_first _ _ hlow
  · have hhere : (if startBit % 8 = 0 then 7 else 8 - startBit % 8) = 8 - startBit % 8 :=
      if_neg (by omega)
    rw [hhere, if_pos (by omega)] at h
    obtain ⟨next, hnext, h⟩ := bind_ok h
    cases h
    rw [← read_ok hnext]
    exact seven_bits_of_both _ _ (by omega) hoffset

/-- The loop of `gsm7_to_ascii` fills in the characters from `i` on, which fit the buffer. -/
theorem gsm7_loop_ok {base bitOffset capacity remaining i : Nat} {text filled : Bytes}
    (h : gsm7Loop p base bitOffset capacity remaining i text = .ok filled)
    (hi : i ≤ capacity) :
    i + remaining ≤ capacity ∧
      ∀ k, filled k =
        if i ≤ k ∧ k < i + remaining then p.septet base (bitOffset + k * 7) else text k := by
  -- by the characters that remain; each round stores one at the index it has come to
  induction remaining generalizing i text with
  | zero =>
      cases h
      refine ⟨hi, fun k => ?_⟩
      rw [if_neg (by omega)]
  | succ remaining ih =>
      rw [gsm7Loop] at h
      obtain ⟨c, hc, h⟩ := bind_ok h
      obtain ⟨stored, hstored, h⟩ := bind_ok h
      unfold store at hstored
      split_ifs at hstored with hlt
      cases hstored
      obtain ⟨hfits, hrest⟩ := ih h hlt
      refine ⟨by omega, fun k => ?_⟩
      rw [hrest k]
      by_cases hk : k = i
      · rw [hk, if_neg (by omega), if_pos (by omega), Function.update_self, gsm7_char_ok hc]
      · rw [Function.update_of_ne hk]
        by_cases hin : i + 1 ≤ k ∧ k < i + 1 + remaining
        · rw [if_pos hin, if_pos (by omega)]
        · rw [if_neg hin, if_neg (by omega)]

/-! ## The user data -/

/-- `strncpy` copies the bytes up to the first 0 and fills up with zeros. -/
theorem strncpy_eq (text : List UInt8) {n : Nat} (hlength : text.length ≤ n) :
    (List.range n).map (fun k =>
        if (List.range k).all (text.getD · 0 ≠ 0) then text.getD k 0 else 0) =
      text.takeWhile (· ≠ 0) ++ List.replicate (n - (text.takeWhile (· ≠ 0)).length) 0 := by
  induction text generalizing n with
  | nil =>
      rw [List.map_congr_left fun k _ => show _ = (0 : UInt8) by split <;> rfl, List.map_const']
      simp
  | cons c text ih =>
      cases n with
      | zero => simp at hlength
      | succ n =>
          have hall : ∀ k, (List.range (k + 1)).all ((c :: text).getD · 0 ≠ 0) =
              (decide (c ≠ 0) && (List.range k).all (text.getD · 0 ≠ 0)) := by
            intro k
            rw [List.range_succ_eq_map, List.all_cons, List.all_map]
            rfl
          rw [List.range_succ_eq_map, List.map_cons, List.map_map]
          simp only [Function.comp_def, Nat.succ_eq_add_one, hall, List.getD_cons_succ]
          -- at the first 0 the rest of the copy is zeros
          by_cases hc : c = 0
          · simp [hc, List.map_const', List.replicate_succ]
          · have hrest := ih (Nat.le_of_succ_le_succ hlength)
            simp only [ne_eq, hc, not_false_eq_true, decide_true, Bool.true_and] at hrest ⊢
            rw [hrest]
            simp [hc]

/-- A decoder that accepts a PDU with these contents leaves them behind, and the scheme. -/
def Leaves (result : Except PduFault (Option (Int × MessageData))) (contents : Contents)
    (dcs : UInt8) : Prop :=
  ∀ code out, result = .ok (some (code, out)) → 0 ≤ code →
    contents.LeftIn out ∧ out.outDcs = dcs

variable {contents : Contents} {dcs : UInt8}

/-- A PDU that is found too short is not accepted. -/
theorem leaves_too_short : Leaves (.ok (some (minusEnomem, out))) contents dcs := by
  intro code other h hcode
  cases h
  exact absurd hcode (by decide)

/-- A computation in front of a decoder. -/
theorem leaves_bind {α : Type} {x : Except PduFault α}
    {f : α → Except PduFault (Option (Int × MessageData))}
    (hf : ∀ a, x = .ok a → Leaves (f a) contents dcs) : Leaves (x >>= f) contents dcs := by
  intro code other h hcode
  obtain ⟨a, ha, hrest⟩ := bind_ok h
  exact hf a ha code other hrest hcode

/-- A size check in front of a decoder. -/
theorem leaves_check {c : Prop} [Decidable c]
    {x : Except PduFault (Option (Int × MessageData))} (hx : ¬ c → Leaves x contents dcs) :
    Leaves (if c then .ok (some (minusEnomem, out)) else x) contents dcs := by
  by_cases hc : c
  · rw [if_pos hc]
    exact leaves_too_short
  · rw [if_neg hc]
    exact hx hc

theorem decode_text_leaves (encoding : SmsEncoding)
    (dataOffset sizeBytes elements bitOffset : Nat) :
    Leaves (decodeText p encoding dataOffset sizeBytes elements bitOffset out)
      (p.contentsAt encoding dataOffset sizeBytes elements bitOffset) out.outDcs := by
  unfold decodeText Packet.contentsAt
  by_cases hgsm : encoding = .gsm7
  · rw [if_pos hgsm, if_pos hgsm]
    refine leaves_bind fun text htext code other h _ => ?_
    cases h
    obtain ⟨hfits, hfilled⟩ := gsm7_loop_ok htext (Nat.zero_le _)
    rw [Nat.zero_add] at hfits
    refine ⟨⟨by simpa using hfits, ?_⟩, rfl⟩
    rw [← strncpy_eq _ (by simpa using hfits)]
    have hgetd : ∀ k, text k = ((List.range elements).map fun i =>
        p.septet dataOffset (bitOffset + i * 7)).getD k 0 := by
      intro k
      rw [hfilled k]
      by_cases hk : k < elements <;> simp [hk]
    refine List.map_congr_left fun k hk => ?_
    simp only [if_pos (List.mem_range.1 hk), hgetd]
  · rw [if_neg hgsm, if_neg hgsm]
    -- in both cases the call succeeds and nothing is left of the octets
    by_cases hlong : sizeBytes > 160
    · rw [if_pos hlong]
      intro code other h _
      cases h
      exact ⟨trivial, rfl⟩
    · rw [if_neg hlong]
      refine leaves_bind fun octets _ code other h _ => ?_
      cases h
      exact ⟨trivial, rfl⟩

/-- Apart from GSM7 the number of characters does not matter. -/
theorem contents_at_of_octets {encoding : SmsEncoding} (hother : encoding ≠ .gsm7)
    {dataOffset sizeBytes : Nat} (elements bitOffset elements' bitOffset' : Nat) :
    p.contentsAt encoding dataOffset sizeBytes elements bitOffset =
      p.contentsAt encoding dataOffset sizeBytes elements' bitOffset' := by
  unfold Packet.contentsAt
  rw [if_neg hother, if_neg hother]

theorem decode_with_header_leaves (encoding : SmsEncoding) (dataOffset sizeBytes elements : Nat) :
    Leaves (decodeWithHeader p encoding dataOffset sizeBytes elements out)
      (p.contentsAfterHeader encoding dataOffset sizeBytes elements) out.outDcs := by
  unfold decodeWithHeader Packet.contentsAfterHeader headerOctets headerPadding
  refine leaves_bind fun headerLen hheader => leaves_bind fun _ _ => leaves_check fun _ => ?_
  rw [read_ok hheader]
  cases elementLoop p _ _ with
  | none =>
      intro code other h
      cases h
  | some left =>
      refine leaves_bind fun offset _ => leaves_bind fun _ _ => ?_
      -- only for characters of seven bits does the padding after the header matter
      by_cases hgsm : encoding = .gsm7
      · rw [if_pos hgsm]
        exact decode_text_leaves _ _ _ _ _
      · rw [if_neg hgsm, contents_at_of_octets hgsm]
        exact decode_text_leaves _ _ _ _ _

theorem decode_user_data_leaves (encoding : SmsEncoding) (hasUdh : Bool) (lenOffset : Nat) :
    Leaves (decodeUserData p encoding hasUdh lenOffset out)
      (p.userData encoding hasUdh lenOffset) out.outDcs := by
  unfold decodeUserData Packet.userData
  refine leaves_bind fun elements helements => ?_
  rw [read_ok helements]
  by_cases hpos : lenOffset > 0
  · have hsome : lenOffset ≠ 0 := by omega
    rw [if_pos hpos]
    refine leaves_check fun _ => leaves_check fun _ => ?_
    simp only [if_neg hsome]
    cases hasUdh with
    | true => exact decode_with_header_leaves _ _ _ _
    | false => exact decode_text_leaves _ _ _ _ _
  · have hnone : lenOffset = 0 := by omega
    simp only [if_neg hpos, if_pos hnone]
    intro code other h _
    cases h
    exact ⟨trivial, rfl⟩

/-! ## The fields before the user data -/

theorem decode_fields_leaves (hasUdh : Bool) (offsets : FieldOffsets) :
    Leaves (decodeFields p hasUdh offsets out) (p.contentsOf hasUdh offsets)
      ((p.scheme offsets).getD out.outDcs) := by
  have hscheme : Leaves (decodeScheme p hasUdh offsets out) (p.contentsOf hasUdh offsets)
      ((p.scheme offsets).getD out.outDcs) := by
    unfold decodeScheme Packet.contentsOf Packet.encoding Packet.scheme
    by_cases hpos : offsets.dcs > 0
    · rw [if_pos hpos, if_pos hpos]
      refine leaves_check fun _ => leaves_bind fun octet hoctet => ?_
      rw [read_ok hoctet]
      exact decode_user_data_leaves _ _ _
    · rw [if_neg hpos, if_neg hpos]
      exact decode_user_data_leaves _ _ _
  unfold decodeFields
  by_cases hpos : offsets.pid > 0
  · rw [if_pos hpos]
    exact leaves_check fun _ => leaves_bind fun _ _ => hscheme
  · rw [if_neg hpos]
    exact hscheme

theorem decode_address_leaves (type : PduType) (first : UInt8) (offset : Nat) :
    Leaves (decodeAddress p type first offset out)
      (p.contentsOf (first &&& 0x40 != 0) (fieldOffsets p type first
        (((offset + 1) % 256 + (1 + ((p.data offset).toNat + 1) / 2)) % 256)))
      ((p.scheme (fieldOffsets p type first
        (((offset + 1) % 256 + (1 + ((p.data offset).toNat + 1) / 2)) % 256))).getD
          out.outDcs) := by
  unfold decodeAddress
  refine leaves_bind fun digits hdigits => leaves_check fun _ => leaves_bind fun number _ => ?_
  rw [read_ok hdigits]
  generalize ((offset + 1) % 256 + (1 + ((p.data offset).toNat + 1) / 2)) % 256 = body
  cases type with
  | smsDeliver =>
      unfold decodeDeliver
      refine leaves_check fun _ => leaves_bind fun _ _ => leaves_bind fun _ _ =>
        leaves_bind fun _ _ => ?_
      exact decode_fields_leaves _ _
  | smsSubmit =>
      unfold decodeSubmit
      refine leaves_check fun _ => ?_
      exact decode_fields_leaves _ _
  | smsStatusReport =>
      unfold decodeStatusReport
      refine leaves_check fun _ => leaves_bind fun _ _ => leaves_bind fun _ _ =>
        leaves_bind fun _ _ => ?_
      simp only [fieldOffsets, statusFields]
      by_cases hmore : (body + 15) % 256 < p.rawMessageLen
      · rw [if_pos hmore, if_pos hmore]
        refine leaves_bind fun indicator hindicator => ?_
        rw [read_ok hindicator]
        exact decode_fields_leaves _ _
      · rw [if_neg hmore, if_neg hmore]
        exact decode_fields_leaves _ _

/-- A PDU that begins where the number of the service centre ends. -/
theorem decode_pdu_leaves (p : Packet) (out : MessageData) :
    Leaves (decodePdu p p.pduOffset out) p.contents ((p.scheme p.fields).getD out.outDcs) := by
  unfold decodePdu Packet.contents Packet.fields
  refine leaves_bind fun first hfirst => ?_
  rw [read_ok hfirst]
  cases pduType (p.data p.pduOffset) with
  | none =>
      intro code other h hcode
      cases h
      exact absurd hcode (by decide)
  | some type =>
      cases type with
      | smsDeliver => exact decode_address_leaves _ _ _
      | smsSubmit =>
          refine leaves_check fun _ => leaves_bind fun _ _ => ?_
          exact decode_address_leaves _ _ _
      | smsStatusReport =>
          refine leaves_check fun _ => leaves_bind fun _ _ => ?_
          exact decode_address_leaves _ _ _

/-- A PDU that `pdu_decode` accepts leaves its text, up to the first 0, and its data coding scheme,
if it has one. -/
theorem pdu_decode_leaves (p : Packet) (out : MessageData) :
    Leaves (pduDecode p out) p.contents ((p.scheme p.fields).getD out.outDcs) := by
  unfold pduDecode
  refine leaves_bind fun smscLen hsmscLen => ?_
  rw [read_ok hsmscLen]
  by_cases hsmsc : p.data 0 > 0
  · rw [if_pos hsmsc]
    refine leaves_bind fun smsc _ => ?_
    have hoffset : p.pduOffset = ((p.data 0).toNat + 1) % 256 := if_pos hsmsc
    rw [← hoffset]
    exact decode_pdu_leaves p _
  · rw [if_neg hsmsc]
    have hoffset : p.pduOffset = 0 := if_neg hsmsc
    have hleaves := decode_pdu_leaves p out
    rwa [hoffset] at hleaves

end OpenQti.Sms
