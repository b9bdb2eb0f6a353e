import Mathlib.Algebra.BigOperators.Group.Finset.Basic
import Mathlib.Algebra.BigOperators.Intervals
import OpenQti.Sms.PduSafety

/-!
# The loop over the user data header

`pdu_decode` goes through the information elements of a user data header with an 8-bit
offset, to which each element adds its size. The size is given by an octet of the message, so
the sum may wrap and the offset may come back to an element that has been read before. The
loop then goes on for ever. `header_loop_terminates_iff` says which headers do this: those
in which some elements that follow one another add up to a multiple of 256 octets.
-/

namespace OpenQti.Sms

open Loop

/-! ## The elements of a header -/

/-- The size of the information element at `offset`: its two header octets and its data. -/
def elementSize (p : Packet) (offset : Nat) : Nat := 2 + (p.data (offset + 1)).toNat

/-- The offset of an information element, given the offset of the first one and the number of
elements before it. -/
def elementOffset (p : Packet) (first : Nat) : Nat → Nat
  | 0 => first
  | count + 1 =>
      (elementOffset p first count + elementSize p (elementOffset p first count)) % 256

/-- `tp_user_data_offset + 1`, as the loop variable holds it. -/
def firstElement (dataOffset : Nat) : Nat := (dataOffset + 1) % 256

/-- The variable `end` of `pdu_decode`. -/
def headerEnd (p : Packet) (dataOffset : Nat) : Nat :=
  (dataOffset + headerOctets p dataOffset) % 256

/-- The loop over the header at `dataOffset` leaves it. The octets are those in memory, whether or
not they are still in the packet. -/
def HeaderLoopTerminates (p : Packet) (dataOffset : Nat) : Prop :=
  Terminates (elementEndBody p (headerEnd p dataOffset)) (firstElement dataOffset)

/-- The first `count` elements begin before the last octet of the header, so that they are read. -/
def ElementsRead (p : Packet) (dataOffset count : Nat) : Prop :=
  ∀ k < count, elementOffset p (firstElement dataOffset) k + 1 < headerEnd p dataOffset

/-- No elements that follow one another in the header add up to a multiple of 256 octets. -/
def NoElementsWrap (p : Packet) (dataOffset : Nat) : Prop :=
  ∀ start count, 0 < count → ElementsRead p dataOffset (start + count) →
    ¬ 256 ∣ ∑ k ∈ Finset.range count,
      elementSize p (elementOffset p (firstElement dataOffset) (start + k))

variable {p : Packet} {first last dataOffset : Nat}

theorem element_offset_lt (hfirst : first < 256) (count : Nat) :
    elementOffset p first count < 256 := by
  cases count with
  | zero => exact hfirst
  | succ count => exact Nat.mod_lt _ (by decide)

/-- The sizes of the elements in between lead from one element to a later one. -/
theorem element_offset_add (hfirst : first < 256) (start count : Nat) :
    elementOffset p first (start + count) =
      (elementOffset p first start +
        ∑ k ∈ Finset.range count, elementSize p (elementOffset p first (start + k))) % 256 := by
  induction count with
  | zero =>
      rw [Finset.sum_range_zero, Nat.add_zero, Nat.add_zero,
        Nat.mod_eq_of_lt (element_offset_lt hfirst start)]
  | succ count ih =>
      rw [Finset.sum_range_succ, ← Nat.add_assoc, ← Nat.add_assoc, elementOffset]
      generalize elementSize p (elementOffset p first (start + count)) = size
      rw [ih, Nat.mod_add_mod]

/-- Elements that follow one another lead back to the first of them exactly if they add up to a
multiple of 256 octets. -/
theorem element_offset_returns_iff (hfirst : first < 256) (start count : Nat) :
    elementOffset p first (start + count) = elementOffset p first start ↔
      256 ∣ ∑ k ∈ Finset.range count, elementSize p (elementOffset p first (start + k)) := by
  have hlt := element_offset_lt hfirst start (p := p)
  rw [element_offset_add hfirst]
  omega

/-! ## The rounds of the loop -/

/-- A round goes from an element to the next, while there are two octets left. -/
theorem element_end_body_again {offset next : Nat} :
    elementEndBody p last offset = .again next ↔
      offset + 1 < last ∧ next = (offset + elementSize p offset) % 256 := by
  unfold elementEndBody elementSize
  rw [← Nat.add_assoc]
  split_ifs with hin
  · rw [Round.again.injEq, and_iff_right hin, eq_comm]
  · exact iff_of_false nofun fun h => hin h.1

/-- After a number of rounds the loop is at the element of that number, if all before it are
read. -/
theorem after_element_end_body (rounds current : Nat) :
    after (elementEndBody p last) rounds first = some current ↔
      (∀ k < rounds, elementOffset p first k + 1 < last) ∧
        current = elementOffset p first rounds := by
  induction rounds generalizing current with
  | zero =>
      refine ⟨fun h => ⟨nofun, ?_⟩, fun h => ?_⟩
      · exact (Option.some.inj h).symm
      · exact congrArg some h.2.symm
  | succ rounds ih =>
      rw [after_succ]
      constructor
      · rintro ⟨before, hbefore, hagain⟩
        obtain ⟨hread, rfl⟩ := (ih before).1 hbefore
        obtain ⟨hin, rfl⟩ := element_end_body_again.1 hagain
        refine ⟨fun k hk => ?_, rfl⟩
        obtain hlt | rfl := Nat.lt_succ_iff_lt_or_eq.1 hk
        · exact hread k hlt
        · exact hin
      · rintro ⟨hread, rfl⟩
        refine ⟨_, (ih _).2 ⟨fun k hk => hread k (by omega), rfl⟩, ?_⟩
        exact element_end_body_again.2 ⟨hread rounds (by omega), rfl⟩

/-- The loop is never in more than 256 states. -/
theorem after_element_end_body_mem (hfirst : first < 256) (rounds current : Nat)
    (h : after (elementEndBody p last) rounds first = some current) :
    current ∈ Finset.range 256 := by
  obtain ⟨-, rfl⟩ := (after_element_end_body rounds current).1 h
  exact Finset.mem_range.2 (element_offset_lt hfirst rounds)

/-- The loop over the user data header leaves it exactly if no elements that follow one another in
it add up to a multiple of 256 octets. -/
theorem header_loop_terminates_iff (p : Packet) (dataOffset : Nat) :
    HeaderLoopTerminates p dataOffset ↔ NoElementsWrap p dataOffset := by
  have hfirst : firstElement dataOffset < 256 := Nat.mod_lt _ (by decide)
  rw [HeaderLoopTerminates, terminates_iff_no_revisit _ (after_element_end_body_mem hfirst)]
  constructor
  · intro hfresh start count hpos hread hsum
    have hreturns := (element_offset_returns_iff hfirst start count).2 hsum
    refine hfresh start (start + count) _ (by omega)
      ((after_element_end_body _ _).2 ⟨fun k hk => hread k (by omega), rfl⟩) ?_
    exact (after_element_end_body _ _).2 ⟨hread, hreturns.symm⟩
  · intro hnone start second current hlt hstart hsecond
    obtain ⟨count, rfl⟩ : ∃ count, second = start + count := ⟨second - start, by omega⟩
    obtain ⟨-, rfl⟩ := (after_element_end_body _ _).1 hstart
    obtain ⟨hread, hreturns⟩ := (after_element_end_body _ _).1 hsecond
    exact hnone start count (by omega) hread
      ((element_offset_returns_iff hfirst start count).1 hreturns.symm)

/-! ## The call that does not return -/

theorem element_loop_none_iff (hlast : p.Within (dataOffset + headerOctets p dataOffset)) :
    elementLoop p (headerEnd p dataOffset) (firstElement dataOffset) = none ↔
      ¬ HeaderLoopTerminates p dataOffset := by
  have hfirst : firstElement dataOffset < 256 := Nat.mod_lt _ (by decide)
  have hreturns : ∀ offset,
      Returns (elementEndBody p (headerEnd p dataOffset)) (firstElement dataOffset) offset ↔
        elementEnd p (headerEnd p dataOffset) (firstElement dataOffset) = some offset := by
    intro offset
    rw [run_card (Finset.range 256) (after_element_end_body_mem hfirst), Finset.card_range,
      elementEnd]
  have hin : p.Within (headerEnd p dataOffset) := hlast.mono (Nat.mod_le _ _)
  rw [element_loop_eq hin (Nat.mod_lt _ (by decide)),
    Option.map_eq_none_iff, HeaderLoopTerminates, Terminates, not_exists,
    Option.eq_none_iff_forall_ne_some]
  exact forall_congr' fun offset => not_congr (hreturns offset).symm

/-- Text is decoded, or a fault ends the call. -/
theorem decode_text_returns (encoding : SmsEncoding)
    (dataOffset sizeBytes elements bitOffset : Nat) (out : MessageData) :
    decodeText p encoding dataOffset sizeBytes elements bitOffset out ≠ .ok none := by
  unfold decodeText
  intro h
  split_ifs at h
  · obtain ⟨text, -, hok⟩ := Except.bind_ok h
    cases hok
  · cases h
  · obtain ⟨octets, -, hok⟩ := Except.bind_ok h
    cases hok

/-- `pdu_decode` does not return from a header that is in the packet exactly if the loop over its
elements does not. -/
theorem decode_with_header_none_iff (hlast : p.Within (dataOffset + headerOctets p dataOffset))
    (encoding : SmsEncoding) (sizeBytes elements : Nat) (out : MessageData) :
    decodeWithHeader p encoding dataOffset sizeBytes elements out = .ok none ↔
      ¬ HeaderLoopTerminates p dataOffset := by
  have hstart : p.Within dataOffset := hlast.mono (Nat.le_add_right _ _)
  have hcheck : ¬ p.size < dataOffset + headerOctets p dataOffset := by
    unfold Packet.Within at hlast
    omega
  rw [← element_loop_none_iff hlast]
  simp only [decodeWithHeader, Packet.read, if_pos hstart, bind, Except.bind]
  simp only [← headerOctets.eq_1, ← headerEnd.eq_1, ← firstElement.eq_1, if_pos hlast,
    if_neg hcheck]
  cases elementLoop p (headerEnd p dataOffset) (firstElement dataOffset) with
  | none => simp
  | some left =>
      -- what comes after the loop may fault, but it returns
      refine iff_of_false (fun h => ?_) (fun h => by cases h)
      obtain ⟨offset, -, hoffset⟩ := Except.bind_ok h
      obtain ⟨octet, -, hoctet⟩ := Except.bind_ok hoffset
      split_ifs at hoctet
      · exact decode_text_returns _ _ _ _ _ _ hoctet
      · exact decode_text_returns _ _ _ _ _ _ hoctet

/-- A message from a number of two digits with a header of one information element, whose length
octet is 254. -/
def returningElement : Packet :=
  packetOf [0x01, 0x91, 0x40, 0x02, 0x91, 0x21, 0x00, 0x00, 0x22, 0x21, 0x02, 0x21, 0x00, 0x00,
    0x00, 0x08, 0x03, 0x00, 0xFE, 0x00, 0x00]

/-- The element has 256 octets, so the offset comes back to it, and `pdu_decode` does not return. -/
example (out : MessageData) : pduDecode returningElement out = .ok none := rfl

theorem header_loop_not_total :
    ¬ ∀ (p : Packet) (dataOffset : Nat), HeaderLoopTerminates p dataOffset := by
  intro h
  -- the loop is at the octet 17 at first and again after one round
  have hperiod : 0 < 1 := by decide
  exact not_terminates_of_revisit hperiod (rfl : after _ 0 _ = some 17) rfl (h returningElement 16)

end OpenQti.Sms
