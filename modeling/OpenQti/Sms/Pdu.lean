import Mathlib.Logic.Function.Basic
import OpenQti.Lib.Bytes
import OpenQti.Lib.Loop

/-!
# The PDU decoder

`pdu_decode` of `sms.c` and the functions it calls. The packet is given by its bytes and its
size; the PDU is `msg.data`, which begins at byte 27. Every access to `msg.data` goes through
`Packet.read`, which faults at and after the end of the packet, and every store into a
buffer of fixed size through `store`, which faults at and after the end of the buffer.

The offsets and sizes of `pdu_decode` are `uint8_t`. A stored offset is therefore taken
`% 256`, while an index such as `data[offset + 1]` and a comparison such as
`size < offset + 9` are computed in `int`. Octets that are read for the log only are read
here as well; the log itself, and the dates, which go nowhere else, are left out.
-/

namespace OpenQti.Sms

open Bytes Loop

/-- The fixed part of `struct incoming_message` before `msg.data`. -/
def incomingHeaderSize : Nat := 27

/-- `-ENOMEM`. -/
def minusEnomem : Int := -12

/-- A packet handed to `pdu_decode`. -/
structure Packet where
  bytes : Bytes
  size : Nat
  header : incomingHeaderSize ≤ size

/-- What the decoder must not do: read `msg.data` past the end of the packet, or store past the end
of a buffer. -/
inductive PduFault where
  | read (index : Nat)
  | write (capacity index : Nat)
  deriving DecidableEq, Repr

/-- `MMSmsEncoding`. -/
inductive SmsEncoding where
  | unknown
  | gsm7
  | bits8
  | ucs2
  deriving DecidableEq, Repr

/-- The PDU types of `SMS_TP_MTI_MASK` that are decoded. -/
inductive PduType where
  | smsDeliver
  | smsSubmit
  | smsStatusReport
  deriving DecidableEq, Repr

/-- What `pdu_decode` fills in: `struct message_data`, and the data coding scheme through its last
argument. -/
structure MessageData where
  smsc : Bytes
  phoneNumber : Bytes
  dcs : UInt8
  rawMessage : Bool
  message : Bytes
  outDcs : UInt8

namespace Packet

/-- `msg->msg.data[i]`, in memory. -/
def data (p : Packet) (i : Nat) : UInt8 := p.bytes (incomingHeaderSize + i)

/-- The octet is in the packet. -/
def Within (p : Packet) (i : Nat) : Prop := incomingHeaderSize + i < p.size

instance (p : Packet) (i : Nat) : Decidable (p.Within i) :=
  inferInstanceAs (Decidable (incomingHeaderSize + i < p.size))

/-- An access to `msg->msg.data[i]`. -/
def read (p : Packet) (i : Nat) : Except PduFault UInt8 :=
  if p.Within i then .ok (p.data i) else .error (.read i)

/-- `msg->msg.raw_message_len`. -/
def rawMessageLen (p : Packet) : Nat := le16 p.bytes 25

end Packet

/-- `buffer[i] = value`, for a buffer of this capacity. -/
def store (capacity : Nat) (buffer : Bytes) (i : Nat) (value : UInt8) : Except PduFault Bytes :=
  if i < capacity then .ok (Function.update buffer i value) else .error (.write capacity i)

/-! ## Characters, numbers and dates -/

/-- One round of `gsm7_to_ascii`: the character at a bit position of the buffer at `base`. -/
def gsm7Char (p : Packet) (base startBit : Nat) : Except PduFault UInt8 := do
  let offset := startBit % 8
  let bitsHere := if offset = 0 then 7 else 8 - offset
  let bitsInNext := 7 - bitsHere
  let octet ← p.read (base + startBit / 8)
  let c := (octet >>> offset.toUInt8) &&& (0xFF >>> (8 - bitsHere).toUInt8)
  if bitsInNext ≠ 0 then do
    let next ← p.read (base + (startBit / 8 + 1))
    .ok (c ||| ((next &&& (0xFF >>> (8 - bitsInNext).toUInt8)) <<< bitsHere.toUInt8))
  else .ok c

/-- The loop of `gsm7_to_ascii` from character `i` on. -/
def gsm7Loop (p : Packet) (base bitOffset capacity : Nat) :
    Nat → Nat → Bytes → Except PduFault Bytes
  | 0, _, text => .ok text
  | remaining + 1, i, text => do
      let c ← gsm7Char p base (bitOffset + i * 7)
      let text ← store capacity text i c
      gsm7Loop p base bitOffset capacity remaining (i + 1) text

/-- `gsm7_to_ascii(data + base, length, text, …, bit_offset)`, for a text buffer of this
capacity. -/
def gsm7ToAscii (p : Packet) (base length bitOffset capacity : Nat) (text : Bytes) :
    Except PduFault Bytes :=
  gsm7Loop p base bitOffset capacity length 0 text

/-- The capacity of `smsc` and `phone_number`. -/
def numberCapacity : Nat := 64

/-- The loop of `decode_number` over the octets of a number from octet `i` on. -/
def numberLoop (p : Packet) (base : Nat) : Nat → Nat → Nat → Bytes → Except PduFault Bytes
  | 0, _, _, number => .ok number
  | remaining + 1, i, count, number => do
      let octet ← p.read (base + i)
      let number ← store numberCapacity number count ((octet &&& 0x0F) + 0x30)
      let number ← store numberCapacity number (count + 1) (((octet &&& 0xF0) >>> 4) + 0x30)
      let count := (count + 2) % 256
      -- a filler in the upper half ends the number, and its place is overwritten
      if octet > 0xF0 then store numberCapacity number (count - 1) 0
      else numberLoop p base remaining (i + 1) count number

/-- `decode_number(data + base, len, number)`. -/
def decodeNumber (p : Packet) (base len : Nat) (number : Bytes) : Except PduFault Bytes := do
  let first ← p.read base
  -- the type has been read by the time the length is looked at
  if len < 1 then store numberCapacity number 0 0x45
  else if first &&& 0x70 = 0x50 then
    gsm7ToAscii p (base + 1) (len - 1) 0 numberCapacity number
  else if first = 0x91 then do
    let number ← store numberCapacity number 0 0x2B
    numberLoop p base (len - 1) 1 1 number
  else numberLoop p base len 0 0 number

/-- `sms_decode_timestamp(data + base, …)`: the seven octets of a date. -/
def smsDecodeTimestamp (p : Packet) (base : Nat) : Except PduFault (List UInt8) :=
  (List.range 7).mapM fun k => p.read (base + k)

/-- `sms_encoding_type(dcs)`. -/
def smsEncodingType (dcs : UInt8) : SmsEncoding :=
  let group := (dcs >>> 4) &&& 0xF
  if group ≤ 3 then
    if dcs &&& 0x0C = 0x08 then .ucs2
    else if dcs &&& 0x0C = 0x04 then .bits8
    else .gsm7
  else if group = 0xE then .ucs2
  else if group = 0xF then (if dcs &&& 0x04 = 0 then .gsm7 else .bits8)
  else .gsm7

/-! ## The user data -/

/-- The switch of `pdu_decode` on the encoding: unpack the text, or copy the octets. -/
def decodeText (p : Packet) (encoding : SmsEncoding) (dataOffset sizeBytes elements bitOffset : Nat)
    (out : MessageData) : Except PduFault (Option (Int × MessageData)) :=
  if encoding = .gsm7 then do
    let text ← gsm7ToAscii p dataOffset elements bitOffset 160 fun _ => 0
    .ok (some (0, { out with
      rawMessage := false
      message := fun k =>
        if k < 160 then (if (List.range k).all (text · ≠ 0) then text k else 0)
        else out.message k }))
  -- too long for a message: an error is logged, and the call succeeds
  else if sizeBytes > 160 then .ok (some (0, out))
  else do
    let _ ← (List.range sizeBytes).mapM fun k => p.read (dataOffset + k)
    .ok (some (0, { out with rawMessage := true }))

/-- The octets an information element at `offset`, after its two header octets, is logged from. -/
def readElement (p : Packet) (id : UInt8) (offset last : Nat) : Except PduFault Unit :=
  if id = 0x00 then
    if offset + 2 ≥ last then .ok ()
    else do
      let _ ← p.read (offset + 2)
      let _ ← p.read (offset + 1)
      let _ ← p.read (offset + 3)
      .ok ()
  else if id = 0x08 then
    if offset + 3 ≥ last then .ok ()
    else do
      let part ← p.read (offset + 3)
      if part = 0 then .ok ()
      else do
        let parts ← p.read (offset + 2)
        if part > parts then .ok ()
        else do
          let _ ← p.read offset
          let _ ← p.read (offset + 1)
          .ok ()
  else .ok ()

/-- One round of the loop over the user data header, up to `last`. -/
def elementBody (p : Packet) (last offset : Nat) : Round Nat (Except PduFault Nat) :=
  if offset + 1 < last then
    let next : Except PduFault Nat := do
      let id ← p.read offset
      let len ← p.read ((offset + 1) % 256)
      let offset := (offset + 2) % 256
      readElement p id offset last
      .ok ((offset + len.toNat) % 256)
    match next with
    | .ok offset => .again offset
    | .error fault => .leave (.error fault)
  else .leave (.ok offset)

/-- The loop over the user data header, or `none` if it does not leave. -/
def elementLoop (p : Packet) (last offset : Nat) : Option (Except PduFault Nat) :=
  Loop.run (elementBody p last) 256 offset

/-- The user data with a header. The logged octet after the header is read before the check. -/
def decodeWithHeader (p : Packet) (encoding : SmsEncoding) (dataOffset sizeBytes elements : Nat)
    (out : MessageData) : Except PduFault (Option (Int × MessageData)) := do
  let headerLen ← p.read dataOffset
  let udhl := (headerLen.toNat + 1) % 256
  let last := (dataOffset + udhl) % 256
  let _ ← p.read (dataOffset + udhl)
  if p.size < dataOffset + udhl then .ok (some (minusEnomem, out))
  else
    match elementLoop p last ((dataOffset + 1) % 256) with
    | none => .ok none
    | some left => do
        let offset ← left
        let _ ← p.read offset
        -- the sizes are 8-bit differences and wrap if the header is longer than the data
        let dataOffset := (dataOffset + udhl) % 256
        let sizeBytes := (sizeBytes + 256 - udhl) % 256
        if encoding = .gsm7 then
          let bitOffset := (7 - udhl % 7) % 7
          let elements := (elements + 512 - (udhl * 8 + bitOffset) / 7) % 256
          decodeText p encoding dataOffset sizeBytes elements bitOffset out
        else
          let elements := (elements + 256 - udhl) % 256
          decodeText p encoding dataOffset sizeBytes elements 0 out

/-- The user data, from the length octet at `lenOffset` on; 0 stands for a PDU without user
data. -/
def decodeUserData (p : Packet) (encoding : SmsEncoding) (hasUdh : Bool) (lenOffset : Nat)
    (out : MessageData) : Except PduFault (Option (Int × MessageData)) := do
  -- logged whether or not there are user data
  let elements ← p.read lenOffset
  if lenOffset > 0 then
    if p.size < lenOffset + 1 then .ok (some (minusEnomem, out))
    else
      let elements := elements.toNat
      let sizeBytes := if encoding = .gsm7 then 7 * (elements + 1) / 8 else elements
      let dataOffset := (lenOffset + 1) % 256
      if p.size < dataOffset + 1 then .ok (some (minusEnomem, out))
      else if hasUdh then decodeWithHeader p encoding dataOffset sizeBytes elements out
      else decodeText p encoding dataOffset sizeBytes elements 0 out
  else .ok (some (0, out))

/-! ## The fields before the user data -/

/-- `tp_pid_offset`, `tp_dcs_offset` and `tp_user_data_len_offset`; 0 stands for a field that is not
there. -/
structure FieldOffsets where
  pid : Nat
  dcs : Nat
  userDataLen : Nat

/-- From the data coding scheme on: read it, if it is there, and decode the user data. -/
def decodeScheme (p : Packet) (hasUdh : Bool) (offsets : FieldOffsets) (out : MessageData) :
    Except PduFault (Option (Int × MessageData)) :=
  if offsets.dcs > 0 then
    if p.size < offsets.dcs + 1 then .ok (some (minusEnomem, out))
    else do
      let dcs ← p.read offsets.dcs
      decodeUserData p (smsEncodingType dcs) hasUdh offsets.userDataLen
        { out with dcs := dcs, outDcs := dcs }
  else decodeUserData p .unknown hasUdh offsets.userDataLen out

/-- From the protocol identifier on, which is logged. -/
def decodeFields (p : Packet) (hasUdh : Bool) (offsets : FieldOffsets) (out : MessageData) :
    Except PduFault (Option (Int × MessageData)) :=
  if offsets.pid > 0 then
    if p.size < offsets.pid + 1 then .ok (some (minusEnomem, out))
    else do
      let _ ← p.read offsets.pid
      decodeScheme p hasUdh offsets out
  else decodeScheme p hasUdh offsets out

/-- A `SMS_DELIVER` from the octet after the address on: identifier, coding scheme and date. The
octets that follow are logged. -/
def decodeDeliver (p : Packet) (hasUdh : Bool) (offset : Nat) (out : MessageData) :
    Except PduFault (Option (Int × MessageData)) :=
  if p.size < offset + 9 then .ok (some (minusEnomem, out))
  else do
    let _ ← smsDecodeTimestamp p ((offset + 2) % 256)
    let lenOffset := (offset + 9) % 256
    let _ ← p.read lenOffset
    let _ ← p.read (lenOffset + 1)
    decodeFields p hasUdh ⟨offset, (offset + 1) % 256, lenOffset⟩ out

/-- The octets of the validity period, by the validity format in the first octet. -/
def validityOctets (first : UInt8) : Nat :=
  if first &&& 0x18 = 0 then 0 else if first &&& 0x18 = 0x10 then 1 else 7

/-- A `SMS_SUBMIT` from the octet after the address on: identifier, coding scheme and validity. -/
def decodeSubmit (p : Packet) (first : UInt8) (hasUdh : Bool) (offset : Nat) (out : MessageData) :
    Except PduFault (Option (Int × MessageData)) :=
  if p.size < offset + 2 + (if first &&& 0x18 = 0 then 0 else 1) then
    .ok (some (minusEnomem, out))
  else
    decodeFields p hasUdh
      ⟨offset, (offset + 1) % 256, (offset + 2 + validityOctets first) % 256⟩ out

/-- The optional fields of a `SMS_STATUS_REPORT`, given the parameter indicator and the offset after
it. -/
def optionalFields (indicator : UInt8) (next : Nat) : FieldOffsets :=
  let pid := if indicator &&& 0x01 ≠ 0 then next else 0
  let next := if indicator &&& 0x01 ≠ 0 then (next + 1) % 256 else next
  let dcs := if indicator &&& 0x02 ≠ 0 then next else 0
  let next := if indicator &&& 0x02 ≠ 0 then (next + 1) % 256 else next
  ⟨pid, dcs, if indicator &&& 0x04 ≠ 0 then next else 0⟩

/-- A `SMS_STATUS_REPORT` from the octet after the address on: two dates, the status and, if the
message goes on, the parameter indicator. -/
def decodeStatusReport (p : Packet) (hasUdh : Bool) (offset : Nat) (out : MessageData) :
    Except PduFault (Option (Int × MessageData)) :=
  if p.size < offset + 15 then .ok (some (minusEnomem, out))
  else do
    let _ ← smsDecodeTimestamp p offset
    let _ ← smsDecodeTimestamp p ((offset + 7) % 256)
    let _ ← p.read ((offset + 14) % 256)
    let offset := (offset + 15) % 256
    if offset < p.rawMessageLen then do
      let indicator ← p.read offset
      decodeFields p hasUdh (optionalFields indicator ((offset + 1) % 256)) out
    else decodeFields p hasUdh ⟨0, 0, 0⟩ out

/-- The type of the PDU, by its first octet. -/
def pduType (first : UInt8) : Option PduType :=
  if first &&& 0x03 = 0x00 then some .smsDeliver
  else if first &&& 0x03 = 0x01 then some .smsSubmit
  else if first &&& 0x03 = 0x02 then some .smsStatusReport
  else none

/-- From the length octet of the address on. -/
def decodeAddress (p : Packet) (type : PduType) (first : UInt8) (offset : Nat) (out : MessageData) :
    Except PduFault (Option (Int × MessageData)) := do
  let digits ← p.read offset
  let sizeDigits := digits.toNat
  let sizeBytes := (sizeDigits + 1) / 2
  let offset := (offset + 1) % 256
  if p.size < offset + sizeBytes then .ok (some (minusEnomem, out))
  else do
    -- the number of digits, where the check has counted octets
    let phoneNumber ← decodeNumber p offset sizeDigits out.phoneNumber
    let out := { out with phoneNumber := phoneNumber }
    let offset := (offset + (1 + sizeBytes)) % 256
    let hasUdh := first &&& 0x40 != 0
    match type with
    | .smsDeliver => decodeDeliver p hasUdh offset out
    | .smsSubmit => decodeSubmit p first hasUdh offset out
    | .smsStatusReport => decodeStatusReport p hasUdh offset out

/-- From the first octet of the PDU proper on. -/
def decodePdu (p : Packet) (offset : Nat) (out : MessageData) :
    Except PduFault (Option (Int × MessageData)) := do
  let first ← p.read offset
  match pduType first with
  | none => .ok (some (-1, out))
  | some .smsDeliver => decodeAddress p .smsDeliver first ((offset + 1) % 256) out
  | some type =>
      let offset := (offset + 1) % 256
      if p.size < offset + 1 then .ok (some (minusEnomem, out))
      else do
        let _ ← p.read offset
        decodeAddress p type first ((offset + 1) % 256) out

/-- `pdu_decode(buffer, size, msg_out, out_dcs)`: a fault, or the value returned with what has been
filled in, or `none` if the call does not return. -/
def pduDecode (p : Packet) (out : MessageData) : Except PduFault (Option (Int × MessageData)) := do
  let smscLen ← p.read 0
  if smscLen > 0 then do
    let smsc ← decodeNumber p 1 smscLen.toNat out.smsc
    decodePdu p ((smscLen.toNat + 1) % 256) { out with smsc := smsc }
  else decodePdu p 0 out

end OpenQti.Sms
