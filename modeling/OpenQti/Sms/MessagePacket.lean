import OpenQti.Qmi.TlvPacket
import OpenQti.Sms.Gsm7
import OpenQti.Sms.Handed

/-!
# The packets of messages

`build_and_send_message` and `build_and_send_raw_message` fill in a `struct wms_build_message`
and write as much of it as the contents take. Its five nested sizes are computed one from the
other. `message_packets_framed` says that they agree with what is written, and that the TLV
walkers read the packet accordingly.

The text of an entry is not terminated if it takes the whole of `pkt`. What is read as the text
then goes on with the fields behind it, of which `is_raw` is 0 for a text.
-/

namespace OpenQti.Sms

open Bytes Buffer Except Qmi

/-- `QMI_RESULT_SUCCESS`. -/
def qmiResultSuccess : Nat := 0x0000

/-! ## The structures -/

/-- A `uint16_t` in memory. -/
def littleEndian (value : UInt16) : List UInt8 := [value.toUInt8, (value >>> 8).toUInt8]

/-- `struct qmux_packet`. -/
structure QmuxPacket where
  version : UInt8
  packetLength : UInt16
  control : UInt8
  service : UInt8
  instanceId : UInt8

def QmuxPacket.encode (p : QmuxPacket) : List UInt8 :=
  p.version :: littleEndian p.packetLength ++ [p.control, p.service, p.instanceId]

/-- `struct qmi_packet`. -/
structure QmiPacket where
  ctlid : UInt8
  transactionId : UInt16
  msgid : UInt16
  length : UInt16

def QmiPacket.encode (p : QmiPacket) : List UInt8 :=
  p.ctlid :: littleEndian p.transactionId ++ littleEndian p.msgid ++ littleEndian p.length

/-- `struct qmi_generic_result_ind`. -/
structure QmiGenericResultInd where
  resultCodeType : UInt8
  genericResultSize : UInt16
  result : UInt16
  response : UInt16

def QmiGenericResultInd.encode (r : QmiGenericResultInd) : List UInt8 :=
  r.resultCodeType :: littleEndian r.genericResultSize ++ littleEndian r.result ++
    littleEndian r.response

/-- `struct wms_raw_message_header`. -/
structure WmsRawMessageHeader where
  messageTlv : UInt8
  size : UInt16
  tlvVersion : UInt8

def WmsRawMessageHeader.encode (h : WmsRawMessageHeader) : List UInt8 :=
  h.messageTlv :: littleEndian h.size ++ [h.tlvVersion]

/-- `struct wms_hardcoded_phone_number`. -/
structure WmsHardcodedPhoneNumber where
  phoneNumberSize : UInt8
  isInternationalNumber : UInt8
  number : List UInt8
  six_bytes : number.length = 6

def WmsHardcodedPhoneNumber.encode (p : WmsHardcodedPhoneNumber) : List UInt8 :=
  p.phoneNumberSize :: p.isInternationalNumber :: p.number

/-- `struct wms_datetime`. -/
structure WmsDatetime where
  year : UInt8
  month : UInt8
  day : UInt8
  hour : UInt8
  minute : UInt8
  second : UInt8
  timezone : UInt8

def WmsDatetime.encode (d : WmsDatetime) : List UInt8 :=
  [d.year, d.month, d.day, d.hour, d.minute, d.second, d.timezone]

/-- `struct wms_user_data`, with the fields of its `struct wms_message_contents`. -/
structure WmsUserData where
  tlv : UInt8
  userDataSize : UInt16
  smsc : WmsHardcodedPhoneNumber
  unknown : UInt8
  phone : WmsHardcodedPhoneNumber
  tpPid : UInt8
  tpDcs : UInt8
  date : WmsDatetime
  contentSz : UInt8
  contents : Bytes

/-- What is in front of the contents. -/
def WmsUserData.encodeHeader (d : WmsUserData) : List UInt8 :=
  d.tlv :: littleEndian d.userDataSize ++ d.smsc.encode ++ [d.unknown] ++ d.phone.encode ++
    [d.tpPid, d.tpDcs] ++ d.date.encode ++ [d.contentSz]

def WmsUserData.encode (d : WmsUserData) : List UInt8 :=
  d.encodeHeader ++ (List.range maxMessageSize).map d.contents

/-- `struct wms_build_message`. -/
structure WmsBuildMessage where
  qmuxpkt : QmuxPacket
  qmipkt : QmiPacket
  indication : QmiGenericResultInd
  header : WmsRawMessageHeader
  data : WmsUserData

def WmsBuildMessage.encode (p : WmsBuildMessage) : List UInt8 :=
  p.qmuxpkt.encode ++ (p.qmipkt.encode ++ (p.indication.encode ++
    (p.header.encode ++ p.data.encode)))

/-! ## The code -/

/-- What the date of a message is made from: the fields of `localtime`, `get_timezone` and
`is_timezone_offset_negative`. -/
structure LocalTime where
  tmYear : Int
  tmMon : Int
  tmMday : Int
  tmHour : Int
  tmMin : Int
  tmSec : Int
  timezone : Int
  negativeOffset : Bool

/-- `swap_byte(source)`. -/
def swapByte (source : UInt8) : UInt8 :=
  let parsed : UInt8 := 0
  let parsed := (parsed <<< 4) + source % 10
  (parsed <<< 4) + source / 10

/-- The date in a message. `tmpyear` has a fallback, for a clock that has not been set. -/
def messageDate (fallback : UInt8) (now : LocalTime) : WmsDatetime :=
  let tmpyear := if now.tmYear > 100 then UInt8.ofInt (now.tmYear - 100) else fallback
  let timezone := swapByte (UInt8.ofInt (now.timezone * 4))
  { year := swapByte tmpyear
    month := swapByte (UInt8.ofInt (now.tmMon + 1))
    day := swapByte (UInt8.ofInt now.tmMday)
    hour := swapByte (UInt8.ofInt now.tmHour)
    minute := swapByte (UInt8.ofInt now.tmMin)
    second := swapByte (UInt8.ofInt now.tmSec)
    timezone := if now.negativeOffset then timezone ||| ((1 : UInt8) <<< 3) else timezone }

/-- The number of the sender, with the size that the field is given. -/
def hardcodedNumber (phoneNumberSize : UInt8) (isCb : Bool) : WmsHardcodedPhoneNumber where
  phoneNumberSize := phoneNumberSize
  isInternationalNumber := 0x91
  number := fillSenderPhoneNumber isCb
  six_bytes := rfl

/-- `sizeof(struct qmux_packet)`. -/
def qmuxPacketSize : Nat := 6

/-- `sizeof(struct qmi_packet)`. -/
def qmiPacketSize : Nat := 7

/-- `sizeof(struct qmi_generic_result_ind)`. -/
def qmiGenericResultIndSize : Nat := 7

/-- `sizeof(struct wms_raw_message_header)`. -/
def wmsRawMessageHeaderSize : Nat := 4

/-- `sizeof(struct wms_user_data)`. -/
def wmsUserDataSize : Nat := 190

/-- `fullpktsz`, for contents of this size. -/
def fullPktSz (size : Nat) : Nat :=
  qmuxPacketSize + qmiPacketSize + qmiGenericResultIndSize + wmsRawMessageHeaderSize +
    wmsUserDataSize - maxMessageSize + size

/-- The size that `qmipkt.length` is set to. -/
def qmiLengthOf (size : Nat) : UInt16 :=
  UInt16.ofNat (qmiGenericResultIndSize + wmsRawMessageHeaderSize + wmsUserDataSize -
    maxMessageSize + size)

/-- `this_sms` when it is written, for contents of `size` bytes. -/
def buildMessage (date : WmsDatetime) (transactionId : Nat) (isCb : Bool) (tpDcs : UInt8)
    (size : Nat) (contentSz : UInt8) (contents : Bytes) : WmsBuildMessage where
  qmuxpkt :=
    { version := 0x01
      packetLength := UInt16.ofNat (fullPktSz size - 1)
      control := 0x80
      service := 0x05
      instanceId := 0x01 }
  qmipkt :=
    { ctlid := 0x02
      transactionId := UInt16.ofNat transactionId
      msgid := UInt16.ofNat wmsReadMessage
      length := qmiLengthOf size }
  indication :=
    { resultCodeType := 0x02
      genericResultSize := 0x04
      result := 0x00
      response := 0x00 }
  header :=
    { messageTlv := 0x01
      size := qmiLengthOf size - UInt16.ofNat qmiGenericResultIndSize - 3 * 1
      tlvVersion := 0x01 }
  data :=
    { tlv := 0x06
      userDataSize := qmiLengthOf size - UInt16.ofNat qmiGenericResultIndSize -
        UInt16.ofNat wmsRawMessageHeaderSize - 3 * 1
      smsc := hardcodedNumber 0x07 isCb
      unknown := 0x04
      phone := hardcodedNumber 0x0c isCb
      tpPid := 0x00
      tpDcs := tpDcs
      date := date
      contentSz := contentSz
      contents := contents }

/-- The bytes that `strlen` and `ascii_to_gsm7` find from `pkt` on: the text, the length and the
id. -/
def Message.memory (m : Message) : Bytes := fun i =>
  if i < maxMessageSize then m.pkt i
  else if i < maxMessageSize + 4 then UInt8.ofInt (m.len / 256 ^ (i - maxMessageSize))
  else UInt8.ofNat (m.messageId / 256 ^ (i - maxMessageSize - 4))

/-- The string at `pkt` in the entry of a text. It ends at `is_raw` at the latest. -/
def Message.text (m : Message) : List UInt8 :=
  ((List.range (maxMessageSize + 8)).map m.memory).takeWhile (· ≠ 0)

/-- `build_and_send_message(fd, message_id)`: the packet that is written. -/
def buildAndSendMessage (now : LocalTime) (transactionId : Nat) (m : Message) :
    Except Overflow (List UInt8) := do
  let (msgoutput, ret) ← asciiToGsm7 maxMessageSize m.text fun _ => 0
  let ret := if ret > maxMessageSize then 160 else ret
  let contents ← memcpy maxMessageSize msgoutput ret fun _ => 0
  let thisSms := buildMessage (messageDate 24 now) transactionId m.isCb 0x00 ret
    (UInt8.ofNat m.text.length) contents
  .ok (thisSms.encode.take (fullPktSz ret))

/-- `build_and_send_raw_message(fd, message_id)`: the packet that is written. -/
def buildAndSendRawMessage (now : LocalTime) (transactionId : Nat) (m : Message) :
    Except Overflow (List UInt8) := do
  let m := padRaw m
  let contents ← memcpy maxMessageSize m.pkt (sizeT m.len) fun _ => 0
  let contentSz := if m.tpDcs = 0x00 then UInt8.ofInt ((m.len * 8).tdiv 7) else UInt8.ofInt m.len
  let thisSms := buildMessage (messageDate 22 now) transactionId m.isCb m.tpDcs (sizeT m.len)
    contentSz contents
  .ok (thisSms.encode.take (fullPktSz (sizeT m.len)))

/-- The packet that state 2 of `handle_message_state` writes for an entry. -/
def messageBytes (now : LocalTime) (transactionId : Nat) (m : Message) :
    Except Overflow (List UInt8) :=
  if m.isRaw then buildAndSendRawMessage now transactionId m
  else buildAndSendMessage now transactionId m

/-! ## The property -/

/-- The sizes in a packet of `len` bytes agree with it, and the walkers find the result, which is a
success, and the message. -/
structure Framed (bytes : Bytes) (len : Nat) : Prop where
  packetLength : le16 bytes 1 + 1 = len
  qmiLength : le16 bytes 11 + 13 = len
  tlvs : ∃ result message : Tlv, result.id = 0x02 ∧ message.id = 0x01 ∧
    Qmi.WellFormed bytes len [result, message]
  userDataSize : le16 bytes 25 + 27 = len
  count : countTlvsInMessage bytes len = some 2
  offset : getTlvOffsetById bytes len 0x01 = some 20
  success : didQmiOpFail bytes len = some qmiResultSuccess

/-! ## Sizes -/

variable {bytes : Bytes} {size : Nat}

theorem length_little_endian (value : UInt16) : (littleEndian value).length = 2 := rfl

/-- An integer is read back. -/
theorem le16_of_holds {value : UInt16} {offset : Nat}
    (h : Holds bytes offset (littleEndian value)) : le16 bytes offset = value.toNat := by
  obtain ⟨hlow, hhigh, -⟩ := by simpa only [littleEndian, holds_cons] using h
  have hvalue := value.toNat_lt
  simp only [le16, hlow, hhigh, UInt16.toNat_toUInt8, UInt16.toNat_shiftRight,
    Nat.shiftRight_eq_div_pow]
  simp
  omega

/-- The size field of a TLV is an integer in memory. -/
theorem little_endian_of_nat {n : Nat} (h : n < 65536) :
    littleEndian (UInt16.ofNat n) = [UInt8.ofNat (n % 256), UInt8.ofNat (n / 256)] := by
  have hlow : (UInt16.ofNat n).toUInt8 = UInt8.ofNat (n % 256) := by
    apply UInt8.toNat_inj.1
    simp
  have hhigh : (UInt16.ofNat n >>> 8).toUInt8 = UInt8.ofNat (n / 256) := by
    apply UInt8.toNat_inj.1
    simp [Nat.shiftRight_eq_div_pow]
    omega
  rw [littleEndian, hlow, hhigh]

theorem full_pkt_sz_eq (size : Nat) : fullPktSz size = 54 + size := rfl

theorem qmi_length_of_eq (size : Nat) : qmiLengthOf size = UInt16.ofNat (41 + size) := rfl

theorem header_size_eq (size : Nat) :
    qmiLengthOf size - UInt16.ofNat qmiGenericResultIndSize - 3 * 1 = UInt16.ofNat (31 + size) := by
  apply UInt16.toNat_inj.1
  simp [qmi_length_of_eq, qmiGenericResultIndSize, UInt16.toNat_sub]
  omega

theorem user_data_size_eq (size : Nat) :
    qmiLengthOf size - UInt16.ofNat qmiGenericResultIndSize -
      UInt16.ofNat wmsRawMessageHeaderSize - 3 * 1 = UInt16.ofNat (27 + size) := by
  apply UInt16.toNat_inj.1
  simp [qmi_length_of_eq, qmiGenericResultIndSize, wmsRawMessageHeaderSize, UInt16.toNat_sub]
  omega

/-! ## The packet -/

/-- The TLV of the result. -/
def resultTlv : Tlv := ⟨0x02, [0, 0, 0, 0], by decide⟩

section Written

variable {date : WmsDatetime} {transactionId : Nat} {isCb : Bool} {tpDcs contentSz : UInt8}
  {contents : Bytes}

theorem length_qmux_packet (p : QmuxPacket) : p.encode.length = 6 := rfl

theorem length_qmi_packet (p : QmiPacket) : p.encode.length = 7 := rfl

theorem length_user_data_header (d : WmsUserData) : d.encodeHeader.length = 30 := by
  simp [WmsUserData.encodeHeader, WmsHardcodedPhoneNumber.encode, WmsDatetime.encode,
    length_little_endian, d.smsc.six_bytes, d.phone.six_bytes]

/-- The value of the TLV of the message. -/
def messageValue (p : WmsBuildMessage) (size : Nat) : List UInt8 :=
  p.header.tlvVersion :: p.data.encodeHeader ++ (List.range size).map p.data.contents

theorem length_message_value (p : WmsBuildMessage) (size : Nat) :
    (messageValue p size).length = 31 + size := by
  simp [messageValue, length_user_data_header]
  omega

/-- What is written: the headers, the result, and the message. -/
theorem written_eq (hsize : size ≤ maxMessageSize) :
    let p := buildMessage date transactionId isCb tpDcs size contentSz contents
    p.encode.take (fullPktSz size) =
      p.qmuxpkt.encode ++ (p.qmipkt.encode ++ (resultTlv.encode ++
        (0x01 :: littleEndian (UInt16.ofNat (31 + size)) ++ messageValue p size))) := by
  intro p
  have hresult : p.indication.encode = resultTlv.encode := by
    change QmiGenericResultInd.encode ⟨0x02, 0x04, 0x00, 0x00⟩ = _
    decide
  have hheader : p.header.encode =
      0x01 :: littleEndian (UInt16.ofNat (31 + size)) ++ [p.header.tlvVersion] := by
    rw [← header_size_eq]
    rfl
  have hencode : p.encode = (p.qmuxpkt.encode ++ (p.qmipkt.encode ++ (resultTlv.encode ++
      (p.header.encode ++ p.data.encodeHeader)))) ++
        (List.range maxMessageSize).map p.data.contents := by
    simp only [WmsBuildMessage.encode, WmsUserData.encode, hresult, List.append_assoc]
  have hlength : fullPktSz size = (p.qmuxpkt.encode ++ (p.qmipkt.encode ++ (resultTlv.encode ++
      (p.header.encode ++ p.data.encodeHeader)))).length + size := by
    simp [full_pkt_sz_eq, length_qmux_packet, length_qmi_packet, WmsRawMessageHeader.encode,
      length_little_endian, length_user_data_header, resultTlv, Tlv.encode]
  have htake : (List.range maxMessageSize).take size = List.range size := by
    rw [List.take_range, Nat.min_eq_left hsize]
  rw [hencode, hlength, List.take_length_add_append, ← List.map_take, htake, hheader]
  simp [messageValue]

/-- The TLV of the message. -/
def messageTlv (p : WmsBuildMessage) (size : Nat) (h : size ≤ maxMessageSize) : Tlv :=
  ⟨0x01, messageValue p size, by
    rw [length_message_value]
    unfold maxMessageSize at h
    omega⟩

theorem encode_message_tlv (p : WmsBuildMessage) (hsize : size ≤ maxMessageSize) :
    (messageTlv p size hsize).encode =
      0x01 :: littleEndian (UInt16.ofNat (31 + size)) ++ messageValue p size := by
  have hmax : maxMessageSize = 160 := rfl
  rw [little_endian_of_nat (by omega), Tlv.encode, messageTlv]
  simp only [length_message_value]
  rfl

theorem length_message_tlvs (p : WmsBuildMessage) (hsize : size ≤ maxMessageSize) :
    (encodeTlvs [resultTlv, messageTlv p size hsize]).length = 41 + size := by
  rw [length_encode_tlvs_cons, length_encode_tlvs_cons]
  simp [Tlv.size, resultTlv, messageTlv, length_message_value, encodeTlvs]
  omega

variable {p : WmsBuildMessage}

/-- Where the parts of a packet are found, with contents of at most 160 bytes. -/
theorem holds_written (hp : p = buildMessage date transactionId isCb tpDcs size contentSz contents)
    (hsize : size ≤ maxMessageSize) (h : Holds bytes 0 (p.encode.take (fullPktSz size))) :
    Holds bytes 0 p.qmuxpkt.encode ∧ Holds bytes 6 p.qmipkt.encode ∧
      Qmi.WellFormed bytes (fullPktSz size) [resultTlv, messageTlv p size hsize] := by
  subst hp
  rw [written_eq hsize, holds_append, holds_append, ← encode_message_tlv _ hsize,
    length_qmux_packet, length_qmi_packet] at h
  obtain ⟨hqmux, hqmi, htlvs⟩ := h
  refine ⟨hqmux, hqmi, ?_, ?_⟩
  · simpa [encodeTlvs, encapsulatedQmiPacketSize] using htlvs
  · rw [length_message_tlvs, full_pkt_sz_eq, encapsulatedQmiPacketSize]
    omega

/-- The three size fields that are not those of the TLVs. -/
theorem sizes_of_written
    (hp : p = buildMessage date transactionId isCb tpDcs size contentSz contents)
    (hsize : size ≤ maxMessageSize) (h : Holds bytes 0 (p.encode.take (fullPktSz size))) :
    le16 bytes 1 = 53 + size ∧ le16 bytes 11 = 41 + size ∧ le16 bytes 25 = 27 + size := by
  obtain ⟨hqmux, hqmi, hwell⟩ := holds_written hp hsize h
  have hmax : maxMessageSize = 160 := rfl
  have hvalue : Holds bytes 23 (messageValue p size) := by
    obtain ⟨-, -, -, hrest⟩ := holds_encode_tlvs_cons hwell.holds
    exact (holds_encode_tlvs_cons hrest).2.2.1
  refine ⟨?_, ?_, ?_⟩
  · rw [QmuxPacket.encode, List.cons_append, holds_cons, holds_append] at hqmux
    rw [le16_of_holds hqmux.2.1, hp, buildMessage, full_pkt_sz_eq, UInt16.toNat_ofNat']
    omega
  · rw [QmiPacket.encode, holds_append] at hqmi
    have hlength : p.qmipkt.length = UInt16.ofNat (41 + size) := by
      rw [hp, ← qmi_length_of_eq]
      rfl
    rw [hlength] at hqmi
    have hread : le16 bytes 11 = (UInt16.ofNat (41 + size)).toNat := le16_of_holds hqmi.2
    rw [hread, UInt16.toNat_ofNat']
    omega
  · rw [messageValue, WmsUserData.encodeHeader] at hvalue
    simp only [List.cons_append, List.append_assoc, holds_cons, holds_append] at hvalue
    have hlength : p.data.userDataSize = UInt16.ofNat (27 + size) := by
      rw [hp, ← user_data_size_eq]
      rfl
    rw [hlength] at hvalue
    rw [le16_of_holds hvalue.2.2.1, UInt16.toNat_ofNat']
    omega

/-- A packet with contents of at most 160 bytes is framed. -/
theorem framed_of_written
    (hp : p = buildMessage date transactionId isCb tpDcs size contentSz contents)
    (hsize : size ≤ maxMessageSize) (h : Holds bytes 0 (p.encode.take (fullPktSz size))) :
    Framed bytes (fullPktSz size) := by
  obtain ⟨-, -, hwell⟩ := holds_written hp hsize h
  obtain ⟨hpacket, hqmi, huser⟩ := sizes_of_written hp hsize h
  have hmax : maxMessageSize = 160 := rfl
  rw [full_pkt_sz_eq] at hwell ⊢
  obtain ⟨hoffset, hcount, hresult⟩ :=
    walkers_well_formed _ _ _ hwell (by omega) (by omega)
  refine ⟨by omega, by omega, ⟨_, _, rfl, rfl, hwell⟩, by omega, hcount, ?_, ?_⟩
  · rw [hoffset 0x01]
    rfl
  · rw [hresult]
    rfl

theorem length_written
    (hp : p = buildMessage date transactionId isCb tpDcs size contentSz contents)
    (hsize : size ≤ maxMessageSize) : (p.encode.take (fullPktSz size)).length = fullPktSz size := by
  subst hp
  rw [written_eq hsize]
  simp [length_qmux_packet, length_qmi_packet, length_little_endian, length_message_value,
    resultTlv, Tlv.encode, full_pkt_sz_eq]
  omega

end Written

/-! ## The two functions -/

variable {m : Message}

/-- What `build_and_send_message` writes, if the characters fit `msgoutput`. -/
theorem build_and_send_message_eq (now : LocalTime) (transactionId : Nat) (m : Message)
    (hlength : (septets m.text).length ≤ 182) :
    ∃ msgoutput : Bytes, Packed (septets m.text) msgoutput ∧
      (∀ i, packedSize (septets m.text).length ≤ i → msgoutput i = 0) ∧
      buildAndSendMessage now transactionId m =
        .ok ((buildMessage (messageDate 24 now) transactionId m.isCb 0x00
          (min (septets m.text).length 160) (UInt8.ofNat m.text.length)
          fun k => if k < min (septets m.text).length 160 then msgoutput k else 0).encode.take
            (fullPktSz (min (septets m.text).length 160))) := by
  obtain ⟨⟨msgoutput, ret⟩, hpack, hret, hpacked, hframe⟩ :=
    ascii_to_gsm7_ok m.text (fun _ => 0) hlength
  refine ⟨msgoutput, hpacked, hframe, ?_⟩
  have houtput : asciiToGsm7 maxMessageSize m.text (fun _ => 0) = .ok (msgoutput, ret) := hpack
  have hclamp : (if ret > maxMessageSize then 160 else ret) = min (septets m.text).length 160 := by
    simp only at hret
    rw [hret]
    unfold maxMessageSize
    split_ifs <;> omega
  have hcopy : min (septets m.text).length 160 ≤ maxMessageSize := Nat.min_le_right _ _
  rw [buildAndSendMessage, houtput]
  simp only [bind, Except.bind]
  rw [hclamp, memcpy, if_pos hcopy]

theorem pad_raw_pad_raw (m : Message) : padRaw (padRaw m) = padRaw m := by
  by_cases hodd : m.tpDcs ≠ 0 ∧ m.len < maxMessageSize ∧ m.len % 2 ≠ 0
  · have heven : ¬ (m.len + 1) % 2 ≠ 0 := by omega
    simp [padRaw, hodd, heven]
  · simp only [padRaw, if_neg hodd]

/-- The packet of the queue's model determines the bytes: it has the entry as it is padded, and
padding it again changes nothing. -/
theorem message_packet_bytes (now : LocalTime) (messageId : Nat) (s : SmsRuntime) :
    ∃ m, messagePacket messageId (beforeSend messageId s) =
        .readMessage s.currTransactionId messageId m ∧
      messageBytes now s.currTransactionId m =
        messageBytes now s.currTransactionId (s.msg messageId) := by
  by_cases hraw : (s.msg messageId).isRaw = true
  · refine ⟨padRaw (s.msg messageId), ?_, ?_⟩
    · simp [messagePacket, beforeSend, hraw, SmsRuntime.modifyMsg]
    · have hpadded : (padRaw (s.msg messageId)).isRaw = true := by
        unfold padRaw
        split_ifs <;> exact hraw
      rw [messageBytes, if_pos hpadded, messageBytes, if_pos hraw, buildAndSendRawMessage,
        pad_raw_pad_raw, buildAndSendRawMessage]
  · refine ⟨s.msg messageId, ?_, rfl⟩
    simp [messagePacket, beforeSend, hraw]

/-- A length that has been padded still fits. -/
theorem pad_raw_len (hpos : 1 ≤ m.len) (hmax : m.len ≤ 160) :
    1 ≤ (padRaw m).len ∧ (padRaw m).len ≤ 160 := by
  unfold padRaw
  split_ifs with hodd
  · simp only [maxMessageSize] at hodd ⊢
    omega
  · exact ⟨hpos, hmax⟩

/-- The packets of every text of at most 160 bytes whose characters fit 160 bytes, and of every raw
message of 1 to 160 bytes, are framed. -/
theorem message_packets_framed (now : LocalTime) (transactionId : Nat) (m : Message) :
    (m.isRaw = false → m.text.length ≤ 160 → (septets m.text).length < 256 →
      packedSize (septets m.text).length ≤ 160 →
      (buildAndSendMessage now transactionId m).Ensures fun packet =>
        ∀ bytes, Holds bytes 0 packet → Framed bytes packet.length) ∧
    (m.isRaw = true → 1 ≤ m.len → m.len ≤ 160 →
      (buildAndSendRawMessage now transactionId m).Ensures fun packet =>
        ∀ bytes, Holds bytes 0 packet → Framed bytes packet.length) := by
  constructor
  · intro _ _ _ hsize
    have hlength : (septets m.text).length ≤ 182 := by
      unfold packedSize at hsize
      omega
    obtain ⟨msgoutput, -, -, hsent⟩ := build_and_send_message_eq now transactionId m hlength
    have hcopy : min (septets m.text).length 160 ≤ maxMessageSize := Nat.min_le_right _ _
    refine ⟨_, hsent, fun bytes hholds => ?_⟩
    rw [length_written rfl hcopy]
    exact framed_of_written rfl hcopy hholds
  · intro _ hpos hmax
    obtain ⟨hpos, hmax⟩ := pad_raw_len hpos hmax
    have hcopy : sizeT (padRaw m).len ≤ maxMessageSize := by
      unfold sizeT maxMessageSize
      omega
    have hsent := buildAndSendRawMessage.eq_def now transactionId m
    simp only [memcpy, if_pos hcopy, bind, Except.bind] at hsent
    refine ⟨_, hsent, fun bytes hholds => ?_⟩
    rw [length_written rfl hcopy]
    exact framed_of_written rfl hcopy hholds

/-- A date on which messages are sent. -/
def newYear : LocalTime := ⟨124, 0, 1, 12, 0, 0, 1, false⟩

/-- An entry with a text. -/
def textEntry (text : List UInt8) : Message := { Message.zero with pkt := Bytes.ofList text }

/-- An entry with contents of 16-bit characters. -/
def rawEntry (contents : List UInt8) : Message :=
  { Message.zero with
    pkt := Bytes.ofList contents
    len := contents.length
    isRaw := true
    tpDcs := 8 }

/-- The text `[hi]`, of six characters, and a raw message that is padded to four bytes. -/
theorem framed_text_and_raw :
    ((buildAndSendMessage newYear 7 (textEntry [91, 104, 105, 93])).Ensures fun packet =>
      ∀ bytes, Holds bytes 0 packet → Framed bytes packet.length) ∧
    (buildAndSendRawMessage newYear 7 (rawEntry [0, 104, 0])).Ensures fun packet =>
      ∀ bytes, Holds bytes 0 packet → Framed bytes packet.length :=
  ⟨(message_packets_framed newYear 7 (textEntry [91, 104, 105, 93])).1 rfl (by decide) (by decide)
      (by decide),
    (message_packets_framed newYear 7 (rawEntry [0, 104, 0])).2 rfl (by decide) (by decide)⟩

end OpenQti.Sms
