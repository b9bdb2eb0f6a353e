import OpenQti.Qmi.Builders
import OpenQti.Qmi.ReceivedLists

/-!
# Builders and the size of their buffer

The builders of `qmi.c` compare the size of the buffer with the size of a structure before they
store through a pointer to it. `build_u32_tlv` compares with `struct qmi_generic_uint8_t_tlv` and
stores a `struct qmi_generic_uint32_t_tlv`, and both builders of TLVs compare with a sum that may
wrap. `builders_respect_iff` says for which arguments each of the four builders keeps to its buffer
and stores what its arguments say.

`OpenQti.Wds.StartRequest` and `OpenQti.Qmi.Builders` have the same builders for offsets at which no
sum wraps: the functions here return the buffer together with the value of the call, and
`qmux_header_refines` and its siblings relate the two.
-/

namespace OpenQti.Qmi.Builder

open Bytes Buffer
open ReceivedPacket (minusEnomem)
open Sms (QmuxPacket QmiPacket littleEndian)
open Wds (StartFault store headerSize)

/-! ## The functions -/

/-- The shape of a builder: it refuses a buffer of less than `needed` bytes, and stores the bytes of
a structure otherwise. -/
def build (needed : UInt32) (output : Bytes) (outputLen : UInt32) (offset : Nat)
    (data : List UInt8) : Except Overflow (Int × Bytes) :=
  if outputLen < needed then .ok (minusEnomem, output)
  else (putAll outputLen.toNat output offset data).map fun output => (0, output)

/-- `build_qmux_header(output, output_len, control, service, instance)`. -/
def buildQmuxHeader (output : Bytes) (outputLen : UInt32) (control service instanceId : UInt8) :
    Except Overflow (Int × Bytes) :=
  build 6 output outputLen 0
    (QmuxPacket.encode ⟨0x01, (outputLen - 1).toUInt16, control, service, instanceId⟩)

/-- `build_qmi_header(output, output_len, ctlid, transaction_id, message_id)`. -/
def buildQmiHeader (output : Bytes) (outputLen : UInt32) (ctlid : UInt8)
    (transactionId messageId : UInt16) : Except Overflow (Int × Bytes) :=
  build (6 + 7) output outputLen 6
    (QmiPacket.encode ⟨ctlid, transactionId, messageId, (outputLen - 6 - 7).toUInt16⟩)

/-- `struct qmi_generic_uint8_t_tlv`. -/
def encodeU8Tlv (id data : UInt8) : List UInt8 := id :: littleEndian 0x01 ++ [data]

/-- `struct qmi_generic_uint32_t_tlv`. -/
def encodeU32Tlv (id : UInt8) (data : UInt32) : List UInt8 :=
  id :: littleEndian 0x04 ++ littleEndian data.toUInt16 ++ littleEndian (data >>> 16).toUInt16

/-- `build_u8_tlv(output, output_len, offset, id, data)`. -/
def buildU8Tlv (output : Bytes) (outputLen offset : UInt32) (id data : UInt8) :
    Except Overflow (Int × Bytes) :=
  build (offset + 4) output outputLen offset.toNat (encodeU8Tlv id data)

/-- `build_u32_tlv(output, output_len, offset, id, data)`, which makes room for a
`struct qmi_generic_uint8_t_tlv`. -/
def buildU32Tlv (output : Bytes) (outputLen offset : UInt32) (id : UInt8) (data : UInt32) :
    Except Overflow (Int × Bytes) :=
  build (offset + 4) output outputLen offset.toNat (encodeU32Tlv id data)

/-! ## The builders without a wrap -/

/-- The buffer after a call, or the fault that it stands for. -/
def outcome (built : Except Overflow (Int × Bytes)) : Except StartFault Bytes :=
  match built with
  | .ok (result, output) => if result < 0 then .error .header else .ok output
  | .error fault => .error (.overflow fault)

theorem outcome_build (needed : UInt32) (output : Bytes) (outputLen : UInt32) (offset : Nat)
    (data : List UInt8) :
    outcome (build needed output outputLen offset data) =
      if outputLen.toNat < needed.toNat then .error .header
      else store outputLen.toNat output offset data := by
  rw [build]
  by_cases hrefused : outputLen < needed
  · rw [if_pos hrefused, if_pos (UInt32.lt_iff_toNat_lt.1 hrefused)]
    rfl
  · rw [if_neg hrefused, if_neg fun h => hrefused (UInt32.lt_iff_toNat_lt.2 h), store]
    cases putAll outputLen.toNat output offset data <;> rfl

/-- The length in a header. -/
theorem to_uint16_sub {outputLen k : UInt32} (h : ¬ outputLen.toNat < k.toNat) :
    (outputLen - k).toUInt16 = UInt16.ofNat (outputLen.toNat - k.toNat) := by
  have hbound := outputLen.toNat_lt
  apply UInt16.toNat_inj.1
  rw [UInt32.toNat_toUInt16, UInt32.toNat_sub, UInt16.toNat_ofNat']
  omega

theorem qmux_header_refines (output : Bytes) (outputLen : UInt32)
    (control service instanceId : UInt8) :
    Wds.buildQmuxHeader outputLen.toNat output control service instanceId =
      outcome (buildQmuxHeader output outputLen control service instanceId) := by
  rw [Wds.buildQmuxHeader, buildQmuxHeader, outcome_build]
  refine if_ctx_congr Iff.rfl (fun _ => rfl) fun hlong => ?_
  have hlength : (outputLen - 1).toUInt16 = UInt16.ofNat (outputLen.toNat - 1) :=
    to_uint16_sub fun h => hlong (Nat.lt_trans h (by decide))
  rw [hlength]

theorem qmi_header_refines (output : Bytes) (outputLen : UInt32) (ctlid : UInt8)
    (transactionId messageId : UInt16) :
    Wds.buildQmiHeader outputLen.toNat output ctlid transactionId messageId =
      outcome (buildQmiHeader output outputLen ctlid transactionId messageId) := by
  rw [Wds.buildQmiHeader, buildQmiHeader, outcome_build]
  refine if_ctx_congr Iff.rfl (fun _ => rfl) fun hlong => ?_
  have hlong : 6 + 7 ≤ outputLen.toNat := Nat.not_lt.1 hlong
  have hbody : (outputLen - 6).toNat = outputLen.toNat - 6 :=
    UInt32.toNat_sub_of_le _ _ (UInt32.le_iff_toNat_le.2 (Nat.le_trans (by decide) hlong))
  have hlength : (outputLen - 6 - 7).toUInt16 = UInt16.ofNat (outputLen.toNat - 6 - 7) := by
    rw [← hbody]
    refine to_uint16_sub ?_
    rw [hbody]
    simp only [UInt32.reduceToNat]
    omega
  rw [hlength]

theorem u8_tlv_refines (output : Bytes) (outputLen offset : UInt32) (id data : UInt8)
    (hwrap : offset.toNat + 4 < 2 ^ 32) :
    Qmi.buildU8Tlv outputLen.toNat output offset.toNat id data =
      outcome (buildU8Tlv output outputLen offset id data) := by
  have hsum : (offset + 4).toNat = offset.toNat + 4 := by
    rw [UInt32.toNat_add]
    exact Nat.mod_eq_of_lt hwrap
  rw [Qmi.buildU8Tlv, buildU8Tlv, outcome_build, hsum]
  rfl

/-! ## The property -/

/-- A builder of `size` bytes keeps to its buffer: it refuses and leaves everything as it was, or
the bytes are inside the buffer, no other ones change, and they are decoded again. -/
def Respects (built : Except Overflow (Int × Bytes)) (output : Bytes) (outputLen : UInt32)
    (offset size : Nat) (decoded : Bytes → Prop) : Prop :=
  ∃ result after, built = .ok (result, after) ∧
    ((result = minusEnomem ∧ after = output) ∨
      (result = 0 ∧ offset + size ≤ outputLen.toNat ∧
        (∀ j, j < offset ∨ offset + size ≤ j → after j = output j) ∧ decoded after))

section

variable (output : Bytes) (outputLen offset : UInt32)

def QmuxHeaderRespects (control service instanceId : UInt8) : Prop :=
  Respects (buildQmuxHeader output outputLen control service instanceId) output outputLen 0 6
    fun after => after 0 = 0x01 ∧ le16 after 1 + 1 = outputLen.toNat ∧ after 3 = control ∧
      after 4 = service ∧ after 5 = instanceId

def QmiHeaderRespects (ctlid : UInt8) (transactionId messageId : UInt16) : Prop :=
  Respects (buildQmiHeader output outputLen ctlid transactionId messageId) output outputLen 6 7
    fun after => after 6 = ctlid ∧ le16 after 7 = transactionId.toNat ∧
      le16 after 9 = messageId.toNat ∧ le16 after 11 + 13 = outputLen.toNat

def U8TlvRespects (id data : UInt8) : Prop :=
  Respects (buildU8Tlv output outputLen offset id data) output outputLen offset.toNat 4
    fun after => after offset.toNat = id ∧ le16 after (offset.toNat + 1) = 1 ∧
      after (offset.toNat + 3) = data

def U32TlvRespects (id : UInt8) (data : UInt32) : Prop :=
  Respects (buildU32Tlv output outputLen offset id data) output outputLen offset.toNat 7
    fun after => after offset.toNat = id ∧ le16 after (offset.toNat + 1) = 4 ∧
      le32 after (offset.toNat + 3) = data.toNat

end

/-- The sum that a builder of a TLV compares with does not wrap, or it refuses nevertheless. -/
def WrapHarmless (outputLen offset : UInt32) : Prop :=
  offset.toNat + 4 < 2 ^ 32 ∨ outputLen < offset + 4

/-! ## What a builder does -/

variable {needed outputLen : UInt32} {output : Bytes} {offset size : Nat} {data : List UInt8}
  {decoded : Bytes → Prop} {p : Prop}

/-- A builder keeps to its buffer if it refuses, or if its bytes are inside and decode. -/
theorem respects_build_iff (hpos : 0 < size) (hsize : data.length = size)
    (hdecoded : ∀ after, Holds after offset data → (decoded after ↔ p)) :
    Respects (build needed output outputLen offset data) output outputLen offset size decoded ↔
      outputLen < needed ∨ (offset + size ≤ outputLen.toNat ∧ p) := by
  rw [build]
  by_cases hrefused : outputLen < needed
  · rw [if_pos hrefused]
    exact iff_of_true ⟨_, _, rfl, .inl ⟨rfl, rfl⟩⟩ (.inl hrefused)
  rw [if_neg hrefused, or_iff_right hrefused]
  by_cases hfits : offset + size ≤ outputLen.toNat
  · obtain ⟨after, hput, hholds, hframe⟩ :=
      put_all_spec output data (by omega : offset + data.length ≤ outputLen.toNat)
    rw [hsize] at hframe
    rw [hput]
    constructor
    · rintro ⟨result, after', hresult, hkept⟩
      cases hresult
      rcases hkept with ⟨habsurd, -⟩ | ⟨-, -, -, hread⟩
      · exact absurd habsurd (by decide)
      · exact ⟨hfits, (hdecoded after hholds).1 hread⟩
    · intro h
      exact ⟨0, after, rfl, .inr ⟨rfl, hfits, hframe, (hdecoded after hholds).2 h.2⟩⟩
  · have hne : data ≠ [] := by
      rintro rfl
      rw [List.length_nil] at hsize
      omega
    obtain ⟨fault, hput⟩ :=
      put_all_overflow output hne (by omega : outputLen.toNat < offset + data.length)
    rw [hput]
    constructor
    · rintro ⟨_, _, hresult, -⟩
      cases hresult
    · exact fun h => absurd h.1 hfits

/-! ## The four builders -/

theorem qmux_header_respects_iff (output : Bytes) (outputLen : UInt32)
    (control service instanceId : UInt8) :
    QmuxHeaderRespects output outputLen control service instanceId ↔ outputLen.toNat ≤ 65536 := by
  have hdecoded : ∀ after, Holds after 0 (QmuxPacket.encode
        ⟨0x01, (outputLen - 1).toUInt16, control, service, instanceId⟩) →
      ((after 0 = 0x01 ∧ le16 after 1 + 1 = outputLen.toNat ∧ after 3 = control ∧
        after 4 = service ∧ after 5 = instanceId) ↔
        (outputLen - 1).toNat % 65536 + 1 = outputLen.toNat) := by
    intro after hholds
    simp only [QmuxPacket.encode, List.cons_append, holds_cons, holds_append,
      Sms.length_little_endian] at hholds
    obtain ⟨hversion, hlength, hcontrol, hservice, hinstance, -⟩ := hholds
    have hread := Sms.le16_of_holds hlength
    rw [UInt32.toNat_toUInt16] at hread
    rw [← hread]
    exact ⟨fun h => h.2.1, fun h => ⟨hversion, h, hcontrol, hservice, hinstance⟩⟩
  rw [QmuxHeaderRespects, buildQmuxHeader,
    respects_build_iff (by decide) (Sms.length_qmux_packet _) hdecoded,
    UInt32.lt_iff_toNat_lt, UInt32.toNat_sub]
  have hbound := outputLen.toNat_lt
  simp only [UInt32.reduceToNat]
  omega

theorem qmi_header_respects_iff (output : Bytes) (outputLen : UInt32) (ctlid : UInt8)
    (transactionId messageId : UInt16) :
    QmiHeaderRespects output outputLen ctlid transactionId messageId ↔
      outputLen.toNat ≤ 65535 + 13 := by
  have hdecoded : ∀ after, Holds after 6 (QmiPacket.encode
        ⟨ctlid, transactionId, messageId, (outputLen - 6 - 7).toUInt16⟩) →
      ((after 6 = ctlid ∧ le16 after 7 = transactionId.toNat ∧ le16 after 9 = messageId.toNat ∧
        le16 after 11 + 13 = outputLen.toNat) ↔
        (outputLen - 6 - 7).toNat % 65536 + 13 = outputLen.toNat) := by
    intro after hholds
    simp only [QmiPacket.encode, List.cons_append, List.append_assoc, holds_cons, holds_append,
      Sms.length_little_endian] at hholds
    obtain ⟨hctlid, htransaction, hmsgid, hlength⟩ := hholds
    have hread := Sms.le16_of_holds hlength
    rw [UInt32.toNat_toUInt16] at hread
    rw [← hread]
    exact ⟨fun h => h.2.2.2, fun h =>
      ⟨hctlid, Sms.le16_of_holds htransaction, Sms.le16_of_holds hmsgid, h⟩⟩
  rw [QmiHeaderRespects, buildQmiHeader,
    respects_build_iff (by decide) (Sms.length_qmi_packet _) hdecoded,
    UInt32.lt_iff_toNat_lt, UInt32.toNat_sub, UInt32.toNat_sub]
  have hbound := outputLen.toNat_lt
  simp only [UInt32.reduceToNat, UInt32.reduceAdd]
  omega

theorem length_encode_u8_tlv (id data : UInt8) : (encodeU8Tlv id data).length = 4 := rfl

theorem length_encode_u32_tlv (id : UInt8) (data : UInt32) : (encodeU32Tlv id data).length = 7 :=
  rfl

/-- The four bytes that a builder of a TLV has compared with are inside the buffer. -/
theorem wrap_harmless_iff {outputLen offset : UInt32} :
    WrapHarmless outputLen offset ↔
      outputLen < offset + 4 ∨ offset.toNat + 4 ≤ outputLen.toNat := by
  have hbound := outputLen.toNat_lt
  rw [WrapHarmless, UInt32.lt_iff_toNat_lt, UInt32.toNat_add]
  simp only [UInt32.reduceToNat]
  omega

theorem u8_tlv_respects_iff (output : Bytes) (outputLen offset : UInt32) (id data : UInt8) :
    U8TlvRespects output outputLen offset id data ↔ WrapHarmless outputLen offset := by
  have hdecoded : ∀ after, Holds after offset.toNat (encodeU8Tlv id data) →
      ((after offset.toNat = id ∧ le16 after (offset.toNat + 1) = 1 ∧
        after (offset.toNat + 3) = data) ↔ True) := by
    intro after hholds
    simp only [encodeU8Tlv, List.cons_append, holds_cons, holds_append,
      Sms.length_little_endian] at hholds
    obtain ⟨hid, hlength, hdata, -⟩ := hholds
    exact iff_of_true ⟨hid, Sms.le16_of_holds hlength, hdata⟩ trivial
  rw [U8TlvRespects, buildU8Tlv,
    respects_build_iff (by decide) (length_encode_u8_tlv id data) hdecoded, and_true,
    wrap_harmless_iff]

/-- The value of a `uint32_t` is read back from its bytes. -/
theorem le32_of_holds {after : Bytes} {value : UInt32}
    (h : Holds after offset (littleEndian value.toUInt16 ++ littleEndian (value >>> 16).toUInt16)) :
    le32 after offset = value.toNat := by
  rw [holds_append, Sms.length_little_endian] at h
  have hbound := value.toNat_lt
  rw [le32, Sms.le16_of_holds h.1, Sms.le16_of_holds h.2, UInt32.toNat_toUInt16,
    UInt32.toNat_toUInt16, UInt32.toNat_shiftRight, Nat.shiftRight_eq_div_pow]
  simp only [UInt32.reduceToNat, Nat.reduceMod, Nat.reducePow]
  omega

theorem u32_tlv_respects_iff (output : Bytes) (outputLen offset : UInt32) (id : UInt8)
    (data : UInt32) :
    U32TlvRespects output outputLen offset id data ↔
      WrapHarmless outputLen offset ∧
        ¬ (offset.toNat + 4 ≤ outputLen.toNat ∧ outputLen.toNat < offset.toNat + 7) := by
  have hdecoded : ∀ after, Holds after offset.toNat (encodeU32Tlv id data) →
      ((after offset.toNat = id ∧ le16 after (offset.toNat + 1) = 4 ∧
        le32 after (offset.toNat + 3) = data.toNat) ↔ True) := by
    intro after hholds
    rw [encodeU32Tlv, List.cons_append, List.cons_append, holds_cons, List.append_assoc,
      holds_append, Sms.length_little_endian] at hholds
    obtain ⟨hid, hlength, hdata⟩ := hholds
    exact iff_of_true ⟨hid, Sms.le16_of_holds hlength, le32_of_holds hdata⟩ trivial
  rw [U32TlvRespects, buildU32Tlv,
    respects_build_iff (by decide) (length_encode_u32_tlv id data) hdecoded, and_true,
    wrap_harmless_iff]
  have hbound := outputLen.toNat_lt
  rw [UInt32.lt_iff_toNat_lt, UInt32.toNat_add]
  simp only [UInt32.reduceToNat]
  omega

/-- Each builder keeps to its buffer, and what it stores decodes to its arguments, exactly for these
arguments: the length in a header has to fit its 16 bits, the sum of an offset and the size of a TLV
must not wrap, and the room for a 32-bit TLV must not be that of an 8-bit one. -/
theorem builders_respect_iff (output : Bytes) (outputLen : UInt32) :
    (∀ control service instanceId : UInt8,
      QmuxHeaderRespects output outputLen control service instanceId ↔
        outputLen.toNat ≤ 65536) ∧
      (∀ (ctlid : UInt8) (transactionId messageId : UInt16),
        QmiHeaderRespects output outputLen ctlid transactionId messageId ↔
          outputLen.toNat ≤ 65535 + 13) ∧
      (∀ (offset : UInt32) (id data : UInt8),
        U8TlvRespects output outputLen offset id data ↔ WrapHarmless outputLen offset) ∧
      ∀ (offset : UInt32) (id : UInt8) (data : UInt32),
        U32TlvRespects output outputLen offset id data ↔
          WrapHarmless outputLen offset ∧
            ¬ (offset.toNat + 4 ≤ outputLen.toNat ∧ outputLen.toNat < offset.toNat + 7) :=
  ⟨qmux_header_respects_iff output outputLen, qmi_header_respects_iff output outputLen,
    u8_tlv_respects_iff output outputLen, u32_tlv_respects_iff output outputLen⟩

/-- A 32-bit TLV is stored behind the headers in a buffer with room for an 8-bit one. -/
theorem u32_tlv_behind_buffer :
    ¬ ∀ (output : Bytes) (outputLen : UInt32),
      (∀ control service instanceId : UInt8,
        QmuxHeaderRespects output outputLen control service instanceId) ∧
      (∀ (ctlid : UInt8) (transactionId messageId : UInt16),
        QmiHeaderRespects output outputLen ctlid transactionId messageId) ∧
      (∀ (offset : UInt32) (id data : UInt8), U8TlvRespects output outputLen offset id data) ∧
      ∀ (offset : UInt32) (id : UInt8) (data : UInt32),
        U32TlvRespects output outputLen offset id data := by
  intro h
  obtain ⟨-, -, -, hu32⟩ := h (fun _ => 0) 17
  have hrespects := (u32_tlv_respects_iff _ _ _ _ _).1 (hu32 13 0x01 0x0004e330)
  exact hrespects.2 (by decide)

end OpenQti.Qmi.Builder
