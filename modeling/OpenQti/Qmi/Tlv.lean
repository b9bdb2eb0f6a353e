import OpenQti.Lib.Bytes
import OpenQti.Lib.Loop

/-!
# The TLV walkers

`get_tlv_offset_by_id`, `did_qmi_op_fail` and `count_tlvs_in_message` of `qmi.c`. Each of
them follows the TLV headers of a QMI service packet from byte 13 on, with the current
offset `cur_byte` in a `uint16_t`.

Each function is a guard and a loop body, run as a `Loop`. The executable versions stop
after `2 ^ 16` rounds; `get_tlv_offset_by_id_iff` and its siblings show that a walk that
has not left by then never does, so `none` stands for a call that does not return.
-/

namespace OpenQti.Qmi

open Bytes Loop

/-- `sizeof(struct encapsulated_qmi_packet)`: a QMUX header of 6 bytes and a QMI header of 7. -/
def encapsulatedQmiPacketSize : Nat := 13

/-- `QMI_RESULT_FAILURE`. -/
def qmiResultFailure : Nat := 0x0001

/-- `QMI_RESULT_UNKNOWN`. -/
def qmiResultUnknown : Nat := 0x0002

/-- `-EINVAL`, with `EINVAL = 22`, converted to the `uint16_t` that is returned. -/
def minusEinval : Nat := 2 ^ 16 - 22

/-- `cur_byte += le16toh(this_tlv->len) + sizeof(uint8_t) + sizeof(uint16_t)` for the TLV at
`curByte`, stored back into the `uint16_t`. -/
def advance (bytes : Bytes) (curByte : Nat) : Nat :=
  (curByte + (le16 bytes (curByte + 1) + 1 + 2)) % 2 ^ 16

/-- One round of the loop of `get_tlv_offset_by_id`. -/
def getTlvOffsetByIdBody (bytes : Bytes) (len : Nat) (tlvid : UInt8) (curByte : Nat) :
    Round Nat Nat :=
  if curByte < len then
    if bytes curByte = tlvid then .leave curByte
    else if advance bytes curByte = 0 ∨ advance bytes curByte > len then .leave minusEinval
    else .again (advance bytes curByte)
  else .leave 0

/-- `get_tlv_offset_by_id(bytes, len, tlvid)`. -/
def getTlvOffsetById (bytes : Bytes) (len : Nat) (tlvid : UInt8) : Option Nat :=
  if len < encapsulatedQmiPacketSize + 4 then some 0
  else run (getTlvOffsetByIdBody bytes len tlvid) (2 ^ 16) encapsulatedQmiPacketSize

/-- One round of the loop of `did_qmi_op_fail`. The TLV is read as a
`struct qmi_generic_result_ind`: type, size, result, response. -/
def didQmiOpFailBody (bytes : Bytes) (len : Nat) (curByte : Nat) : Round Nat Nat :=
  if curByte < len then
    if bytes curByte = 0x02 ∧ le16 bytes (curByte + 1) = 0x04 then
      .leave (le16 bytes (curByte + 3))
    else if advance bytes curByte = 0 ∨ advance bytes curByte > len then
      .leave qmiResultFailure
    else .again (advance bytes curByte)
  else .leave qmiResultUnknown

/-- `did_qmi_op_fail(bytes, len)`. -/
def didQmiOpFail (bytes : Bytes) (len : Nat) : Option Nat :=
  if len < encapsulatedQmiPacketSize + 4 then some qmiResultFailure
  else run (didQmiOpFailBody bytes len) (2 ^ 16) encapsulatedQmiPacketSize

/-- One round of the loop of `count_tlvs_in_message`, on `cur_byte` and `num_tlvs`. -/
def countTlvsInMessageBody (bytes : Bytes) (len : Nat) : Nat × Nat → Round (Nat × Nat) Nat
  | (curByte, numTlvs) =>
      if curByte < len then
        let counted := (numTlvs + 1) % 2 ^ 16
        if advance bytes curByte = 0 ∨ advance bytes curByte > len then .leave counted
        else .again (advance bytes curByte, counted)
      else .leave numTlvs

/-- `count_tlvs_in_message(bytes, len)`. -/
def countTlvsInMessage (bytes : Bytes) (len : Nat) : Option Nat :=
  if len < encapsulatedQmiPacketSize + 4 then some 0
  else run (countTlvsInMessageBody bytes len) (2 ^ 16) (encapsulatedQmiPacketSize, 0)

/-- The part the three loops share: follow the headers, whatever the TLVs are. -/
def walkBody (bytes : Bytes) (len : Nat) (curByte : Nat) : Round Nat Unit :=
  if curByte < len then
    if advance bytes curByte = 0 ∨ advance bytes curByte > len then .leave ()
    else .again (advance bytes curByte)
  else .leave ()

variable {bytes : Bytes} {len : Nat} {tlvid : UInt8}

theorem advance_lt (bytes : Bytes) (curByte : Nat) : advance bytes curByte < 2 ^ 16 :=
  Nat.mod_lt _ (by decide)

/-- Without a wrap the offset moves past the header and the value. -/
theorem advance_of_lt {curByte : Nat} (h : curByte + 3 + le16 bytes (curByte + 1) < 2 ^ 16) :
    advance bytes curByte = curByte + 3 + le16 bytes (curByte + 1) := by
  unfold advance
  omega

theorem walk_body_again {curByte next : Nat} :
    walkBody bytes len curByte = .again next ↔
      curByte < len ∧ next = advance bytes curByte ∧ 0 < next ∧ next ≤ len := by
  unfold walkBody
  split_ifs <;> simp <;> omega

theorem get_tlv_offset_by_id_body_again {curByte next : Nat} :
    getTlvOffsetByIdBody bytes len tlvid curByte = .again next ↔
      bytes curByte ≠ tlvid ∧ walkBody bytes len curByte = .again next := by
  unfold getTlvOffsetByIdBody walkBody
  split_ifs <;> simp_all

theorem did_qmi_op_fail_body_again {curByte next : Nat} :
    didQmiOpFailBody bytes len curByte = .again next ↔
      ¬ (bytes curByte = 0x02 ∧ le16 bytes (curByte + 1) = 0x04) ∧
        walkBody bytes len curByte = .again next := by
  unfold didQmiOpFailBody walkBody
  split_ifs <;> simp_all

theorem count_tlvs_in_message_body_again {state next : Nat × Nat} :
    countTlvsInMessageBody bytes len state = .again next ↔
      walkBody bytes len state.1 = .again next.1 ∧ next.2 = (state.2 + 1) % 2 ^ 16 := by
  obtain ⟨curByte, numTlvs⟩ := state
  obtain ⟨following, counted⟩ := next
  simp only [countTlvsInMessageBody, walkBody]
  split_ifs <;> simp [eq_comm]

end OpenQti.Qmi
