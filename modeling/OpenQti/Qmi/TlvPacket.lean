import OpenQti.Qmi.TlvChain

/-!
# The TLV walkers on well-formed packets

A well-formed QMI service packet is a header of 13 bytes followed by the encodings of a
list of TLVs. On such a packet of 17 to 65535 bytes the three walkers agree with the list:
`walkers_well_formed` gives the result of each of them.

The three proofs are inductions over the TLVs still to be walked, with the walk standing
at the offset where their encoding begins.
-/

namespace OpenQti.Qmi

open Bytes Loop

/-- A TLV: an id and a value whose length fits the `uint16_t` length field. -/
structure Tlv where
  id : UInt8
  value : List UInt8
  length_lt : value.length < 2 ^ 16

namespace Tlv

/-- The bytes a TLV takes: id, length and value. -/
def size (tlv : Tlv) : Nat := 3 + tlv.value.length

/-- `struct empty_tlv`: the id, the length in little-endian order, and the value. -/
def encode (tlv : Tlv) : List UInt8 :=
  tlv.id :: UInt8.ofNat (tlv.value.length % 256) :: UInt8.ofNat (tlv.value.length / 256) ::
    tlv.value

theorem length_encode (tlv : Tlv) : tlv.encode.length = tlv.size := by
  simp [encode, size]
  omega

/-- The TLV is a result TLV: id `0x02` and four bytes. -/
def IsResult (tlv : Tlv) : Prop := tlv.id = 0x02 ∧ tlv.value.length = 4

instance (tlv : Tlv) : Decidable tlv.IsResult := inferInstanceAs (Decidable (_ ∧ _))

end Tlv

/-- The encoded TLVs, one after the other. -/
def encodeTlvs (tlvs : List Tlv) : List UInt8 := tlvs.flatMap Tlv.encode

/-- The offset of the first TLV with this id in a list that starts at `offset`, and 0 if there is
none. -/
def firstOffset (tlvid : UInt8) : Nat → List Tlv → Nat
  | _, [] => 0
  | offset, tlv :: rest =>
      if tlv.id = tlvid then offset else firstOffset tlvid (offset + tlv.size) rest

/-- The first 16 bits of the value of the first result TLV, if there is one. -/
def firstResult : List Tlv → Option Nat
  | [] => none
  | tlv :: rest =>
      if tlv.IsResult then some (Bytes.le16 (Bytes.ofList tlv.value) 0) else firstResult rest

/-- Memory holds a well-formed packet of `len` bytes: a QMUX and a QMI header, then the TLVs. -/
structure WellFormed (bytes : Bytes) (len : Nat) (tlvs : List Tlv) : Prop where
  holds : Holds bytes encapsulatedQmiPacketSize (encodeTlvs tlvs)
  length_eq : len = encapsulatedQmiPacketSize + (encodeTlvs tlvs).length

variable {bytes : Bytes} {len offset : Nat} {tlv : Tlv} {rest : List Tlv}

theorem encode_tlvs_cons : encodeTlvs (tlv :: rest) = tlv.encode ++ encodeTlvs rest := rfl

theorem length_encode_tlvs_cons :
    (encodeTlvs (tlv :: rest)).length = tlv.size + (encodeTlvs rest).length := by
  simp [encode_tlvs_cons, Tlv.length_encode]

/-- Where a TLV is encoded, its fields are read back. -/
theorem holds_encode_tlvs_cons (h : Holds bytes offset (encodeTlvs (tlv :: rest))) :
    bytes offset = tlv.id ∧ le16 bytes (offset + 1) = tlv.value.length ∧
      Holds bytes (offset + 3) tlv.value ∧
      Holds bytes (offset + tlv.size) (encodeTlvs rest) := by
  rw [encode_tlvs_cons, holds_append, Tlv.length_encode, Tlv.encode] at h
  obtain ⟨⟨hid, hlow, hhigh, hvalue⟩, hrest⟩ := by
    simpa only [holds_cons] using h
  refine ⟨hid, ?_, hvalue, hrest⟩
  have hlength := tlv.length_lt
  simp only [le16, hlow, hhigh, UInt8.toNat_ofNat']
  omega

/-- The step the three inductions share: at a TLV the walk is inside the packet, and it moves on
to the end of that TLV. -/
theorem walk_tlv (h : Holds bytes offset (encodeTlvs (tlv :: rest)))
    (hlen : len = offset + (encodeTlvs (tlv :: rest)).length) (hmax : len < 2 ^ 16) :
    offset < len ∧ advance bytes offset = offset + tlv.size ∧
      ¬ (advance bytes offset = 0 ∨ advance bytes offset > len) := by
  rw [length_encode_tlvs_cons] at hlen
  have hadvance : advance bytes offset = offset + tlv.size := by
    rw [advance_of_lt] <;> rw [(holds_encode_tlvs_cons h).2.1]
    · unfold Tlv.size
      omega
    · unfold Tlv.size at hlen
      omega
  have hsize : 3 ≤ tlv.size := Nat.le_add_right _ _
  omega

/-- `get_tlv_offset_by_id` from the start of a list of TLVs to its end. -/
theorem returns_get_tlv_offset_by_id (tlvid : UInt8) (tlvs : List Tlv)
    (h : Holds bytes offset (encodeTlvs tlvs)) (hlen : len = offset + (encodeTlvs tlvs).length)
    (hmax : len < 2 ^ 16) :
    Returns (getTlvOffsetByIdBody bytes len tlvid) offset (firstOffset tlvid offset tlvs) := by
  induction tlvs generalizing offset with
  | nil =>
      have hend : ¬ offset < len := by simp [hlen, encodeTlvs]
      have hbody : getTlvOffsetByIdBody bytes len tlvid offset = .leave 0 := by
        simp [getTlvOffsetByIdBody, hend]
      exact (returns_leave hbody).2 rfl
  | cons tlv rest ih =>
      obtain ⟨hlt, hadvance, hgood⟩ := walk_tlv h hlen hmax
      obtain ⟨hid, _, _, hrest⟩ := holds_encode_tlvs_cons h
      rw [length_encode_tlvs_cons] at hlen
      by_cases hmatch : tlv.id = tlvid
      · have hbody : getTlvOffsetByIdBody bytes len tlvid offset = .leave offset := by
          simp [getTlvOffsetByIdBody, hlt, hid, hmatch]
        exact (returns_leave hbody).2 (by simp [firstOffset, hmatch])
      · have hbody : getTlvOffsetByIdBody bytes len tlvid offset = .again (offset + tlv.size) := by
          rw [hadvance] at hgood
          simp only [getTlvOffsetByIdBody, hlt, hid, hmatch, hadvance, hgood, if_true, if_false]
        rw [returns_again hbody]
        simpa [firstOffset, hmatch] using ih hrest (by omega)

/-- `did_qmi_op_fail` from the start of a list of TLVs to its end. -/
theorem returns_did_qmi_op_fail (tlvs : List Tlv)
    (h : Holds bytes offset (encodeTlvs tlvs)) (hlen : len = offset + (encodeTlvs tlvs).length)
    (hmax : len < 2 ^ 16) :
    Returns (didQmiOpFailBody bytes len) offset ((firstResult tlvs).getD qmiResultUnknown) := by
  induction tlvs generalizing offset with
  | nil =>
      have hend : ¬ offset < len := by simp [hlen, encodeTlvs]
      have hbody : didQmiOpFailBody bytes len offset = .leave qmiResultUnknown := by
        simp [didQmiOpFailBody, hend]
      exact (returns_leave hbody).2 rfl
  | cons tlv rest ih =>
      obtain ⟨hlt, hadvance, hgood⟩ := walk_tlv h hlen hmax
      obtain ⟨hid, hlength, hvalue, hrest⟩ := holds_encode_tlvs_cons h
      rw [length_encode_tlvs_cons] at hlen
      by_cases hmatch : tlv.IsResult
      · have hbody : didQmiOpFailBody bytes len offset = .leave (le16 bytes (offset + 3)) := by
          simp [didQmiOpFailBody, hlt, hid, hlength, hmatch.1, hmatch.2]
        have hfirst := hvalue 0 (by simp [hmatch.2])
        have hsecond := hvalue 1 (by simp [hmatch.2])
        rw [Nat.add_zero] at hfirst
        refine (returns_leave hbody).2 ?_
        simp [firstResult, hmatch, le16, hfirst, hsecond, Bytes.ofList, hmatch.2]
      · have hbody : didQmiOpFailBody bytes len offset = .again (offset + tlv.size) := by
          rw [hadvance] at hgood
          have hother : ¬ (tlv.id = 0x02 ∧ tlv.value.length = 0x04) := hmatch
          simp only [didQmiOpFailBody, hlt, hid, hlength, hother, hadvance, hgood, if_true,
            if_false]
        rw [returns_again hbody]
        simpa [firstResult, hmatch] using ih hrest (by omega)

/-- `count_tlvs_in_message` from the start of a list of TLVs to its end. -/
theorem returns_count_tlvs_in_message (tlvs : List Tlv) (counted : Nat)
    (h : Holds bytes offset (encodeTlvs tlvs)) (hlen : len = offset + (encodeTlvs tlvs).length)
    (hmax : len < 2 ^ 16) (hcounted : counted ≤ offset) :
    Returns (countTlvsInMessageBody bytes len) (offset, counted) (counted + tlvs.length) := by
  induction tlvs generalizing offset counted with
  | nil =>
      have hend : ¬ offset < len := by simp [hlen, encodeTlvs]
      exact (returns_leave (by simp [countTlvsInMessageBody, hend])).2 rfl
  | cons tlv rest ih =>
      obtain ⟨hlt, hadvance, hgood⟩ := walk_tlv h hlen hmax
      obtain ⟨_, _, _, hrest⟩ := holds_encode_tlvs_cons h
      rw [length_encode_tlvs_cons] at hlen
      have hsize : 3 ≤ tlv.size := Nat.le_add_right _ _
      -- A TLV takes at least three bytes, so the counter stays below the offset and never wraps.
      have hnext : (counted + 1) % 2 ^ 16 = counted + 1 := Nat.mod_eq_of_lt (by omega)
      have hbody : countTlvsInMessageBody bytes len (offset, counted) =
          .again (offset + tlv.size, counted + 1) := by
        rw [hadvance] at hgood
        simp only [countTlvsInMessageBody, hlt, hadvance, hgood, hnext, if_true, if_false]
      rw [returns_again hbody, List.length_cons,
        show counted + (rest.length + 1) = counted + 1 + rest.length by omega]
      exact ih (counted + 1) hrest (by omega) (by omega)

/-- `get_tlv_offset_by_id` on a well-formed packet. -/
theorem get_tlv_offset_of_well_formed {tlvs : List Tlv} (h : WellFormed bytes len tlvs)
    (hmin : 17 ≤ len) (hmax : len ≤ 65535) (tlvid : UInt8) :
    getTlvOffsetById bytes len tlvid = some (firstOffset tlvid 13 tlvs) :=
  get_tlv_offset_by_id_iff.2 (.inr ⟨hmin,
    returns_get_tlv_offset_by_id tlvid tlvs h.holds h.length_eq (by omega)⟩)

/-- A TLV that is not in the list has no offset. -/
theorem firstOffset_of_none {tlvid : UInt8} {tlvs : List Tlv}
    (h : tlvs.find? (fun tlv => tlv.id = tlvid) = none) : firstOffset tlvid offset tlvs = 0 := by
  induction tlvs generalizing offset with
  | nil => rfl
  | cons tlv rest ih =>
      rw [List.find?_cons] at h
      by_cases hmatch : tlv.id = tlvid
      · simp [hmatch] at h
      · rw [firstOffset, if_neg hmatch]
        exact ih (by simpa [hmatch] using h)

/-- The first TLV with the wanted id is encoded where it is found. -/
theorem firstOffset_holds {tlvid : UInt8} {tlvs : List Tlv}
    (hholds : Holds bytes offset (encodeTlvs tlvs))
    (h : tlvs.find? (fun tlv => tlv.id = tlvid) = some tlv) :
    offset ≤ firstOffset tlvid offset tlvs ∧
      ∃ rest, Holds bytes (firstOffset tlvid offset tlvs) (encodeTlvs (tlv :: rest)) := by
  induction tlvs generalizing offset with
  | nil => cases h
  | cons first rest ih =>
      rw [List.find?_cons] at h
      by_cases hmatch : first.id = tlvid
      · simp only [hmatch, decide_true, Option.some.injEq] at h
        rw [firstOffset, if_pos hmatch]
        exact ⟨Nat.le_refl _, rest, h ▸ hholds⟩
      · rw [firstOffset, if_neg hmatch]
        simp only [hmatch, decide_false] at h
        obtain ⟨-, -, -, hrest⟩ := holds_encode_tlvs_cons hholds
        obtain ⟨hle, hheld⟩ := ih hrest h
        exact ⟨Nat.le_trans (Nat.le_add_right _ _) hle, hheld⟩

/-- The value of the first TLV with the wanted id follows its header. -/
theorem firstOffset_of_some {tlvid : UInt8} {tlvs : List Tlv}
    (hholds : Holds bytes offset (encodeTlvs tlvs))
    (h : tlvs.find? (fun tlv => tlv.id = tlvid) = some tlv) :
    offset ≤ firstOffset tlvid offset tlvs ∧
      Holds bytes (firstOffset tlvid offset tlvs + 3) tlv.value := by
  obtain ⟨hle, rest, hheld⟩ := firstOffset_holds hholds h
  exact ⟨hle, (holds_encode_tlvs_cons hheld).2.2.1⟩

/-- On a well-formed packet of 17 to 65535 bytes the look-up finds the first TLV with the wanted
id, the count is the number of TLVs, and the result is that of the first result TLV. -/
theorem walkers_well_formed (bytes : Bytes) (len : Nat) (tlvs : List Tlv)
    (h : WellFormed bytes len tlvs) (hmin : 17 ≤ len) (hmax : len ≤ 65535) :
    (∀ tlvid, getTlvOffsetById bytes len tlvid = some (firstOffset tlvid 13 tlvs)) ∧
      countTlvsInMessage bytes len = some tlvs.length ∧
      didQmiOpFail bytes len = some ((firstResult tlvs).getD qmiResultUnknown) := by
  have hlong : encapsulatedQmiPacketSize + 4 ≤ len := hmin
  have hsmall : len < 2 ^ 16 := by omega
  refine ⟨fun tlvid => ?_, ?_, ?_⟩
  · exact get_tlv_offset_of_well_formed h hmin hmax tlvid
  · have hcount := returns_count_tlvs_in_message tlvs 0 h.holds h.length_eq hsmall (Nat.zero_le _)
    rw [Nat.zero_add] at hcount
    exact count_tlvs_in_message_iff.2 (.inr ⟨hlong, hcount⟩)
  · exact did_qmi_op_fail_iff.2 (.inr ⟨hlong,
      returns_did_qmi_op_fail tlvs h.holds h.length_eq hsmall⟩)

/-- A reply with an empty TLV, an operation result, and a second TLV of the first one's id. -/
def sampleTlvs : List Tlv :=
  [⟨0x10, [], by decide⟩, ⟨0x02, [1, 0, 0x32, 0], by decide⟩, ⟨0x10, [7], by decide⟩]

/-- The walkers on the packet of 27 bytes made of `sampleTlvs`. -/
theorem walkers_sample_tlvs :
    getTlvOffsetById (Bytes.ofList (List.replicate 13 0 ++ encodeTlvs sampleTlvs)) 27 0x02 =
        some 16 ∧
      countTlvsInMessage (Bytes.ofList (List.replicate 13 0 ++ encodeTlvs sampleTlvs)) 27 =
        some 3 ∧
      didQmiOpFail (Bytes.ofList (List.replicate 13 0 ++ encodeTlvs sampleTlvs)) 27 =
        some qmiResultFailure := by
  have hpacket : WellFormed (Bytes.ofList (List.replicate 13 0 ++ encodeTlvs sampleTlvs)) 27
      sampleTlvs := ⟨by unfold Holds; decide, by decide⟩
  have hwalk := walkers_well_formed _ _ _ hpacket (by decide) (by decide)
  exact ⟨hwalk.1 0x02, hwalk.2.1, hwalk.2.2⟩

end OpenQti.Qmi
