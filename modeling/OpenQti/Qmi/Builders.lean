import OpenQti.Call.Service
import OpenQti.Wds.StartRequest

/-!
# Builders and readers of service packets

`build_qmux_header`, `build_qmi_header` and `build_u8_tlv` of `qmi.c` lay a packet out in a buffer
through structures that are cast to it, and the readers take it apart the same way. The two sides
have nothing in common but the offsets: `builders_readers_agree` says that they meet.

A builder stores inside its buffer and leaves everything else alone (`Builds`), so what the earlier
ones have stored is still there after the last one.
-/

namespace OpenQti.Qmi

open Bytes Buffer
open Sms (QmuxPacket QmiPacket littleEndian)
open Wds (StartFault store headerSize buildQmuxHeader buildQmiHeader)

/-! ## Builders -/

/-- `build_u8_tlv(output, output_len, offset, id, data)`. -/
def buildU8Tlv (outputLen : Nat) (output : Bytes) (offset : Nat) (id data : UInt8) :
    Except StartFault Bytes :=
  if outputLen < offset + 4 then .error .header
  else store outputLen output offset (id :: littleEndian 0x01 ++ [data])

/-- Calls of `build_u8_tlv` from an offset on, each of them behind the TLV before. -/
def buildU8Tlvs (outputLen : Nat) : Nat → List (UInt8 × UInt8) → Bytes → Except StartFault Bytes
  | _, [], output => .ok output
  | offset, (id, data) :: rest, output => do
      let output ← buildU8Tlv outputLen output offset id data
      buildU8Tlvs outputLen (offset + 4) rest output

/-- The arguments of the builders of the two headers. -/
structure HeaderFields where
  control : UInt8
  service : UInt8
  instanceId : UInt8
  ctlid : UInt8
  transactionId : UInt16
  messageId : UInt16

/-- The bytes of a packet with `n` TLVs of one byte. -/
def packetSize (n : Nat) : Nat := 13 + 4 * n

/-- A packet is built in a buffer of its size, whatever the buffer holds: the headers first, and
then the TLVs. -/
def buildPacket (fields : HeaderFields) (pairs : List (UInt8 × UInt8)) (output : Bytes) :
    Except StartFault Bytes := do
  let output ← buildQmuxHeader (packetSize pairs.length) output fields.control fields.service
    fields.instanceId
  let output ← buildQmiHeader (packetSize pairs.length) output fields.ctlid fields.transactionId
    fields.messageId
  buildU8Tlvs (packetSize pairs.length) headerSize pairs output

/-! ## Readers -/

/-- `get_qmux_service_id(bytes, len)`. -/
def getQmuxServiceId (bytes : Bytes) : UInt8 := bytes 4

/-- `get_qmux_instance_id(bytes, len)`. -/
def getQmuxInstanceId (bytes : Bytes) : UInt8 := bytes 5

/-- `get_qmi_message_id(bytes, len)`. -/
def getQmiMessageId (bytes : Bytes) : UInt16 := UInt16.ofNat (Sms.qmiMsgid bytes)

/-- `get_qmi_message_type(bytes, len)`. -/
def getQmiMessageType (bytes : Bytes) : UInt16 := (bytes 6).toUInt16

/-- `get_transaction_id(bytes, len)`, which finds the QMI header in a
`struct encapsulated_qmi_packet`. -/
def getTransactionId (bytes : Bytes) : UInt16 := UInt16.ofNat (le16 bytes (6 + 1))

/-- The offset of the first pair with an id, and 0 if there is none. -/
def pairOffset (id : UInt8) (pairs : List (UInt8 × UInt8)) : Nat :=
  match pairs.findIdx? (fun pair => pair.1 = id) with
  | some k => 13 + 4 * k
  | none => 0

/-- Every reader gives back what the builders were given. -/
structure ReadBack (fields : HeaderFields) (pairs : List (UInt8 × UInt8)) (bytes : Bytes) :
    Prop where
  service : getQmuxServiceId bytes = fields.service
  instanceId : getQmuxInstanceId bytes = fields.instanceId
  qmiTransactionId : Call.getQmiTransactionId bytes = fields.transactionId
  transactionId : getTransactionId bytes = fields.transactionId
  messageId : getQmiMessageId bytes = fields.messageId
  messageType : getQmiMessageType bytes = fields.ctlid.toUInt16
  count : countTlvsInMessage bytes (packetSize pairs.length) = some pairs.length
  offset : ∀ id, getTlvOffsetById bytes (packetSize pairs.length) id = some (pairOffset id pairs)
  packetLength : le16 bytes 1 = packetSize pairs.length - 1
  qmiLength : le16 bytes 11 = 4 * pairs.length

/-! ## What a builder does -/

/-- A builder lays down bytes at an offset and leaves the rest of the buffer alone. -/
def Builds (built : Except StartFault Bytes) (output : Bytes) (offset : Nat) (data : List UInt8) :
    Prop :=
  ∃ bytes, built = .ok bytes ∧ Holds bytes offset data ∧
    ∀ j, j < offset ∨ offset + data.length ≤ j → bytes j = output j

variable {outputLen offset : Nat} (output : Bytes)

theorem store_builds (data : List UInt8) (hfits : offset + data.length ≤ outputLen) :
    Builds (store outputLen output offset data) output offset data := by
  obtain ⟨bytes, hput, hholds, hframe⟩ := put_all_spec output data hfits
  refine ⟨bytes, ?_, hholds, hframe⟩
  rw [store, hput]

theorem build_qmux_header_builds (control service instanceId : UInt8) (hlong : 6 ≤ outputLen) :
    Builds (buildQmuxHeader outputLen output control service instanceId) output 0
      (QmuxPacket.encode ⟨0x01, UInt16.ofNat (outputLen - 1), control, service, instanceId⟩) := by
  rw [buildQmuxHeader, if_neg (by omega)]
  apply store_builds
  rw [Sms.length_qmux_packet]
  omega

theorem build_qmi_header_builds (ctlid : UInt8) (transactionId messageId : UInt16)
    (hlong : 13 ≤ outputLen) :
    Builds (buildQmiHeader outputLen output ctlid transactionId messageId) output 6
      (QmiPacket.encode
        ⟨ctlid, transactionId, messageId, UInt16.ofNat (outputLen - 6 - 7)⟩) := by
  rw [buildQmiHeader, if_neg (by unfold headerSize; omega)]
  apply store_builds
  rw [Sms.length_qmi_packet]
  omega

/-- The TLV of a pair. -/
def u8Tlv (pair : UInt8 × UInt8) : Tlv := ⟨pair.1, [pair.2], by simp⟩

theorem length_encode_u8_tlvs (pairs : List (UInt8 × UInt8)) :
    (encodeTlvs (pairs.map u8Tlv)).length = 4 * pairs.length := by
  induction pairs with
  | nil => rfl
  | cons pair rest ih =>
      rw [List.map_cons, length_encode_tlvs_cons, ih, List.length_cons]
      show 3 + 1 + 4 * rest.length = _
      omega

theorem build_u8_tlv_builds (pair : UInt8 × UInt8) (hfits : offset + 4 ≤ outputLen) :
    Builds (buildU8Tlv outputLen output offset pair.1 pair.2) output offset
      (u8Tlv pair).encode := by
  rw [buildU8Tlv, if_neg (by omega)]
  have hencode : (u8Tlv pair).encode = pair.1 :: littleEndian 0x01 ++ [pair.2] := by
    have hone := Sms.little_endian_of_nat (by decide : 1 < 65536)
    show pair.1 :: [UInt8.ofNat (1 % 256), UInt8.ofNat (1 / 256)] ++ [pair.2] = _
    rw [← hone]
    rfl
  rw [hencode]
  exact store_builds output _ hfits

/-- The TLVs stand one behind the other: those that come later are behind the first one. -/
theorem build_u8_tlvs_builds (pairs : List (UInt8 × UInt8))
    (hfits : offset + 4 * pairs.length ≤ outputLen) :
    Builds (buildU8Tlvs outputLen offset pairs output) output offset
      (encodeTlvs (pairs.map u8Tlv)) := by
  induction pairs generalizing offset output with
  | nil => exact ⟨output, rfl, holds_nil _ _, fun _ _ => rfl⟩
  | cons pair rest ih =>
      rw [List.length_cons] at hfits
      obtain ⟨first, hbuilt, hfirst, hframe⟩ :=
        build_u8_tlv_builds output pair (by omega : offset + 4 ≤ outputLen)
      obtain ⟨bytes, hrest, hbehind, hbefore⟩ :=
        ih first (by omega : offset + 4 + 4 * rest.length ≤ outputLen)
      have hsize : (u8Tlv pair).encode.length = 4 := rfl
      have hlength := length_encode_u8_tlvs rest
      refine ⟨bytes, ?_, ?_, fun j hj => ?_⟩
      · rw [buildU8Tlvs, hbuilt]
        exact hrest
      · rw [List.map_cons, encode_tlvs_cons, holds_append]
        refine ⟨hfirst.congr fun i hi => hbefore _ (.inl ?_), hbehind⟩
        omega
      · rw [List.map_cons, length_encode_tlvs_cons,
          show (u8Tlv pair).size = 4 from rfl] at hj
        rw [hbefore j (by omega), hframe j (by omega)]

/-! ## The packet -/

/-- The two headers of a packet. -/
def packetHeader (fields : HeaderFields) (len : Nat) : List UInt8 :=
  QmuxPacket.encode
      ⟨0x01, UInt16.ofNat (len - 1), fields.control, fields.service, fields.instanceId⟩ ++
    QmiPacket.encode
      ⟨fields.ctlid, fields.transactionId, fields.messageId, UInt16.ofNat (len - 6 - 7)⟩

/-- The builders succeed, and nothing that one of them stores is lost to the next. -/
theorem build_packet_holds (fields : HeaderFields) (pairs : List (UInt8 × UInt8))
    (output : Bytes) :
    ∃ bytes, buildPacket fields pairs output = .ok bytes ∧
      Holds bytes 0 (packetHeader fields (packetSize pairs.length)) ∧
      Holds bytes 13 (encodeTlvs (pairs.map u8Tlv)) := by
  have hlong : 13 ≤ packetSize pairs.length := by
    unfold packetSize
    omega
  obtain ⟨qmux, hqmux, hfirst, -⟩ := build_qmux_header_builds output
    fields.control fields.service fields.instanceId (by omega : 6 ≤ packetSize pairs.length)
  obtain ⟨qmi, hqmi, hsecond, hkept⟩ := build_qmi_header_builds qmux
    fields.ctlid fields.transactionId fields.messageId hlong
  obtain ⟨bytes, htlvs, hthird, hframe⟩ := build_u8_tlvs_builds qmi pairs
    (Nat.le_refl (packetSize pairs.length))
  refine ⟨bytes, ?_, ?_, hthird⟩
  · rw [buildPacket, hqmux]
    show (buildQmiHeader _ _ _ _ _ >>= _) = _
    rw [hqmi]
    exact htlvs
  · rw [packetHeader, holds_append]
    refine ⟨hfirst.congr fun i hi => ?_, hsecond.congr fun i hi => ?_⟩
    · rw [Sms.length_qmux_packet] at hi
      rw [hframe _ (by omega), hkept _ (by omega)]
    · rw [Sms.length_qmi_packet] at hi
      rw [hframe _ (by omega)]

/-! ## Reading a packet -/

/-- The walk finds the TLV of the first pair with the id. -/
theorem firstOffset_u8_tlvs (id : UInt8) (offset : Nat) (pairs : List (UInt8 × UInt8)) :
    firstOffset id offset (pairs.map u8Tlv) =
      match pairs.findIdx? (fun pair => pair.1 = id) with
      | some k => offset + 4 * k
      | none => 0 := by
  induction pairs generalizing offset with
  | nil => rfl
  | cons pair rest ih =>
      rw [List.map_cons, firstOffset, List.findIdx?_cons, show (u8Tlv pair).id = pair.1 from rfl]
      by_cases hmatch : pair.1 = id
      · rw [if_pos hmatch]
        simp [hmatch]
      · rw [if_neg hmatch, ih]
        simp only [hmatch, decide_false, Bool.false_eq_true, if_false]
        cases rest.findIdx? (fun pair => pair.1 = id) with
        | none => rfl
        | some k =>
            show offset + 4 + 4 * k = offset + 4 * (k + 1)
            omega

theorem of_nat_le16 {bytes : Bytes} {value : UInt16} (h : le16 bytes offset = value.toNat) :
    UInt16.ofNat (le16 bytes offset) = value := by
  rw [h, UInt16.ofNat_toNat]

/-- The fields of the headers are read where they have been stored. -/
theorem header_fields_of_holds {fields : HeaderFields} {bytes : Bytes} {len : Nat}
    (h : Holds bytes 0 (packetHeader fields len)) :
    le16 bytes 1 = (UInt16.ofNat (len - 1)).toNat ∧ bytes 4 = fields.service ∧
      bytes 5 = fields.instanceId ∧ bytes 6 = fields.ctlid ∧
      le16 bytes 7 = fields.transactionId.toNat ∧ le16 bytes 9 = fields.messageId.toNat ∧
      le16 bytes 11 = (UInt16.ofNat (len - 6 - 7)).toNat := by
  rw [packetHeader, holds_append, Sms.length_qmux_packet] at h
  simp only [QmuxPacket.encode, QmiPacket.encode, List.cons_append, List.append_assoc, holds_cons,
    holds_append, Sms.length_little_endian] at h
  obtain ⟨⟨-, hlength, -, hservice, hinstance, -⟩, hctlid, htransaction, hmsgid, hqmi⟩ := h
  exact ⟨Sms.le16_of_holds hlength, hservice, hinstance, hctlid, Sms.le16_of_holds htransaction,
    Sms.le16_of_holds hmsgid, Sms.le16_of_holds hqmi⟩

/-- Whatever is given to the builders is what the readers return, for every number of TLVs that a
packet of 16-bit size holds. -/
theorem builders_readers_agree (fields : HeaderFields) (pairs : List (UInt8 × UInt8))
    (output : Bytes) (hpos : 1 ≤ pairs.length) (hmax : 13 + 4 * pairs.length ≤ 65535) :
    ∃ bytes, buildPacket fields pairs output = .ok bytes ∧ ReadBack fields pairs bytes := by
  obtain ⟨bytes, hbuilt, hheader, htlvs⟩ := build_packet_holds fields pairs output
  obtain ⟨hlength, hservice, hinstance, hctlid, htransaction, hmsgid, hqmi⟩ :=
    header_fields_of_holds hheader
  have hwell : WellFormed bytes (packetSize pairs.length) (pairs.map u8Tlv) :=
    ⟨htlvs, by rw [length_encode_u8_tlvs]; rfl⟩
  obtain ⟨hfind, hcount, -⟩ := walkers_well_formed bytes _ _ hwell
    (by unfold packetSize; omega) hmax
  refine ⟨bytes, hbuilt, hservice, hinstance, of_nat_le16 htransaction, of_nat_le16 htransaction,
    of_nat_le16 hmsgid, ?_, ?_, fun id => ?_, ?_, ?_⟩
  · rw [getQmiMessageType, hctlid]
  · rw [hcount, List.length_map]
  · rw [hfind id, firstOffset_u8_tlvs]
    rfl
  · rw [hlength, UInt16.toNat_ofNat_of_lt' (by unfold packetSize; simp only [UInt16.size]; omega)]
  · rw [hqmi, UInt16.toNat_ofNat_of_lt' (by unfold packetSize; simp only [UInt16.size]; omega)]
    unfold packetSize
    omega

/-- A request with two TLVs of one id, in a buffer of 21 bytes that holds something else before. -/
theorem builders_readers_two_tlvs :
    ∃ bytes, buildPacket ⟨0x00, 0x03, 0x01, 0x00, 7, 0x4d⟩ [(0x10, 1), (0x10, 2)]
        (fun _ => 0xff) = .ok bytes ∧
      ReadBack ⟨0x00, 0x03, 0x01, 0x00, 7, 0x4d⟩ [(0x10, 1), (0x10, 2)] bytes :=
  builders_readers_agree _ _ _ (by decide) (by decide)

end OpenQti.Qmi
