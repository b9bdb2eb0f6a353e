import OpenQti.Sms.PduBounds

/-!
# Safety of the PDU decoder

Which packets `pdu_decode` decodes without a read past the end of the packet or a store past
the end of a buffer, and answers by a negative value if they are too short for the fields
they announce. The fields of a PDU follow one another, so what a packet announces is a number
of octets, `Packet.announcedOctets`; `PduFits` follows the decoder, whose offsets wrap at 256
and whose checks compare the size of the packet with offsets into the PDU.
-/

namespace OpenQti.Sms

open Bytes Except

/-! ## What a packet announces -/

namespace Packet

/-- The octets of user data announced by a length octet. A header announces its own length, and
counts as user data even if it is longer than these. -/
def userDataOctets (p : Packet) (encoding : SmsEncoding) (hasUdh : Bool) (lenOffset : Nat) : Nat :=
  let elements := (p.data lenOffset).toNat
  let octets := if encoding = .gsm7 then (7 * elements + 7) / 8 else elements
  if hasUdh then max octets ((p.data (lenOffset + 1)).toNat + 1) else octets

/-- The end of a status report with its optional fields, from its parameter indicator on. -/
def reportEnd (p : Packet) (hasUdh : Bool) (offset : Nat) : Nat :=
  let indicator := p.data offset
  let dcsOffset := offset + 1 + (if indicator &&& 0x01 ≠ 0 then 1 else 0)
  let lenOffset := dcsOffset + (if indicator &&& 0x02 ≠ 0 then 1 else 0)
  let encoding :=
    if indicator &&& 0x02 ≠ 0 then smsEncodingType (p.data dcsOffset) else .unknown
  if indicator &&& 0x04 ≠ 0 then lenOffset + 1 + p.userDataOctets encoding hasUdh lenOffset
  else lenOffset

/-- The end of a PDU whose address ends before `offset`. -/
def bodyEnd (p : Packet) (type : PduType) (first : UInt8) (offset : Nat) : Nat :=
  let hasUdh := first &&& 0x40 != 0
  let encoding := smsEncodingType (p.data (offset + 1))
  match type with
  | .smsDeliver => offset + 10 + p.userDataOctets encoding hasUdh (offset + 9)
  | .smsSubmit =>
      let lenOffset := offset + 2 + validityOctets first
      lenOffset + 1 + p.userDataOctets encoding hasUdh lenOffset
  | .smsStatusReport =>
      if offset + 15 < p.rawMessageLen then p.reportEnd hasUdh (offset + 15) else offset + 15

/-- The end of a PDU whose address has its length octet at `offset`. -/
def addressEnd (p : Packet) (type : PduType) (first : UInt8) (offset : Nat) : Nat :=
  p.bodyEnd type first (offset + 2 + ((p.data offset).toNat + 1) / 2)

/-- The octets of `msg.data` up to the end of the last field that the packet announces. An SMSC of
length 0 is no field: the length octet is then the first octet of the PDU proper. -/
def announcedOctets (p : Packet) : Nat :=
  let offset := if p.data 0 > 0 then (p.data 0).toNat + 1 else 0
  let first := p.data offset
  match pduType first with
  | none => offset + 1
  | some .smsDeliver => p.addressEnd .smsDeliver first (offset + 1)
  | some type => p.addressEnd type first (offset + 2)

/-- The packet holds the fields it announces. -/
def Complete (p : Packet) : Prop := incomingHeaderSize + p.announcedOctets ≤ p.size

instance (p : Packet) : Decidable p.Complete :=
  inferInstanceAs (Decidable (incomingHeaderSize + p.announcedOctets ≤ p.size))

end Packet

/-- The decoder neither reads past the end of the packet nor stores past the end of a buffer, and
returns a negative value if the packet is not complete. -/
def DecodesSafely (p : Packet) (out : MessageData) : Prop :=
  (pduDecode p out).Ensures (Answers p.Complete)

/-! ## When it does -/

/-- From the length octet of the address on: the octet is in the packet, and either the address is
found too long, or it can be decoded and either the fixed fields are found too long, or what
follows can be decoded and is complete. -/
def AddressFits (p : Packet) (type : PduType) (first : UInt8) (offset : Nat) : Prop :=
  let digits := (p.data offset).toNat
  let numberOffset := (offset + 1) % 256
  let bodyOffset := (numberOffset + (1 + (digits + 1) / 2)) % 256
  p.Within offset ∧ (p.size < numberOffset + (digits + 1) / 2 ∨
    NumberFits p numberOffset digits ∧ (p.size < bodyOffset + checkedOctets type first ∨
      BodyFits p type first bodyOffset ∧ p.Complete))

/-- From the first octet of the PDU proper on, by its type. -/
def PduProperFits (p : Packet) (offset : Nat) : Prop :=
  let first := p.data offset
  p.Within offset ∧
    match pduType first with
    | none => True
    | some .smsDeliver => AddressFits p .smsDeliver first ((offset + 1) % 256)
    | some type =>
        p.Within ((offset + 1) % 256) ∧ AddressFits p type first (((offset + 1) % 256 + 1) % 256)

/-- The SMSC, if there is one, and the PDU proper. -/
def PduFits (p : Packet) : Prop :=
  p.Within 0 ∧
    if p.data 0 > 0 then
      NumberFits p 1 (p.data 0).toNat ∧ PduProperFits p (((p.data 0).toNat + 1) % 256)
    else PduProperFits p 0

variable {p : Packet} {out : MessageData}

theorem ensures_decode_address (type : PduType) (first : UInt8) (offset : Nat) :
    (decodeAddress p type first offset out).Ensures (Answers p.Complete) ↔
      AddressFits p type first offset := by
  simp only [decodeAddress, AddressFits]
  rw [ensures_bind, ensures_read]
  refine and_congr_right fun _ => ensures_check fun _ => ?_
  rw [ensures_bind_const fun number => ?_, ensures_decode_number]
  cases type with
  | smsDeliver => exact ensures_decode_deliver _ _
  | smsSubmit =>
      refine (ensures_decode_submit first _ _).trans ?_
      simp only [BodyFits, checkedOctets, fieldOffsets, true_and]
  | smsStatusReport => exact ensures_decode_status_report _ _

theorem ensures_decode_pdu (offset : Nat) :
    (decodePdu p offset out).Ensures (Answers p.Complete) ↔ PduProperFits p offset := by
  simp only [decodePdu, PduProperFits]
  rw [ensures_bind, ensures_read]
  refine and_congr_right fun hfirst => ?_
  -- The octet before the reference is in the packet, so this check does not fail.
  have hcheck : ¬ p.size < (offset + 1) % 256 + 1 := by
    unfold Packet.Within incomingHeaderSize at hfirst
    omega
  have hunknown : Answers p.Complete (some (-1, out)) ↔ True :=
    iff_of_true (fun _ => ⟨_, _, rfl, by decide⟩) trivial
  cases pduType (p.data offset) with
  | none => rw [ensures_ok, hunknown]
  | some type =>
      cases type with
      | smsDeliver => exact ensures_decode_address _ _ _
      | smsSubmit => simp only [if_neg hcheck, ensures_bind, ensures_read, ensures_decode_address]
      | smsStatusReport =>
          simp only [if_neg hcheck, ensures_bind, ensures_read, ensures_decode_address]

/-- The decoder is safe on a packet exactly if what it looks at is in the packet and fits its
buffers, up to the field at which it stops, if it stops, and the packet is complete if it does
not. -/
theorem pdu_decode_safe_iff (p : Packet) (out : MessageData) :
    DecodesSafely p out ↔ PduFits p := by
  unfold DecodesSafely PduFits pduDecode
  rw [ensures_bind, ensures_read]
  refine and_congr_right fun _ => ?_
  by_cases hsmsc : p.data 0 > 0
  · simp only [if_pos hsmsc]
    rw [ensures_bind_const fun smsc => ensures_decode_pdu _, ensures_decode_number]
  · simp only [if_neg hsmsc]
    exact ensures_decode_pdu 0

/-- A packet with this PDU and a header of zeros. -/
def packetOf (pdu : List UInt8) : Packet where
  bytes := fun i => if i < incomingHeaderSize then 0 else pdu.getD (i - incomingHeaderSize) 0
  size := incomingHeaderSize + pdu.length
  header := Nat.le_add_right _ _

/-- A `SMS_DELIVER` without SMSC, from a number of two digits, up to the length of its text. -/
def deliverHead (elements : UInt8) : List UInt8 :=
  [0x00, 0x02, 0x91, 0x21, 0x00, 0x00, 0x22, 0x21, 0x02, 0x21, 0x00, 0x00, 0x00, elements]

/-- A text of two characters in two octets is decoded safely. -/
example (out : MessageData) : DecodesSafely (packetOf (deliverHead 2 ++ [0xC8, 0x34])) out :=
  ⟨_, rfl, fun h => absurd (by decide) h⟩

/-- The packet announces ten characters and ends after the first octet of them. All checks pass, and
the octet after the end is read. -/
theorem truncated_text_read_outside : ¬ ∀ p out, DecodesSafely p out := by
  intro h
  let out : MessageData := ⟨fun _ => 0, fun _ => 0, 0, false, fun _ => 0, 0⟩
  obtain ⟨result, hresult, -⟩ := h (packetOf (deliverHead 10 ++ [0xC8])) out
  have hfault : pduDecode (packetOf (deliverHead 10 ++ [0xC8])) out = .error (.read 15) := rfl
  rw [hfault] at hresult
  cases hresult

end OpenQti.Sms
