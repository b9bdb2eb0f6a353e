import OpenQti.Call.DoNotDisturb

/-!
# The callers in a status event

A status event of the voice service has one record for each call: a call id, a presentation and a
number. `handle_voice_service_call_status` goes through as many records as there are calls, but it
notes the size of the first one only, so that every round but the first reads the second record. All
numbers are copied to the same array, which is not cleared in between and which has no room for the
terminator of a number of 20 bytes. `callers_identified_iff` says for which records every round uses
its own one.
-/

namespace OpenQti.Call

open Bytes Qmi Except
open Sms (PacketAction qmiMsgid)

/-! ## The packets -/

/-- A record of the TLV of the remote numbers. -/
structure CallRecord where
  callId : UInt8
  presentation : UInt8
  number : List UInt8
  fits : number.length ≤ maxPhoneNumberLength

/-- The bytes of a record. -/
def CallRecord.encode (record : CallRecord) : List UInt8 :=
  record.callId :: record.presentation :: UInt8.ofNat record.number.length :: record.number

/-- A status event with at least one call: the TLV of the call has the number of calls, and that of
the remote numbers has it, too, and a record for each call. -/
structure StatusPacket extends CallPacket where
  first : CallRecord
  later : List CallRecord
  isStatus : qmiMsgid bytes = VoiceMsgid.callStatus.code
  few : later.length < 255
  info : ∃ tlv, tlvs.find? (fun tlv => tlv.id = tlvCallInfo) = some tlv ∧
    tlv.value[0]? = some (UInt8.ofNat (later.length + 1))
  remote : ∃ tlv, tlvs.find? (fun tlv => tlv.id = tlvRemoteNumber) = some tlv ∧
    tlv.value = UInt8.ofNat (later.length + 1) :: (first :: later).flatMap CallRecord.encode

/-! ## The property -/

section

variable (s : CallRt) (callwait : UInt8) (bytes : Bytes) (info offset : Nat)

/-- The scan before round `i`. -/
def scanBefore (i : Nat) : Except CallFault StatusScan :=
  (List.range i).foldlM (statusRound s callwait bytes info offset) .start

end

/-- A round has used a record: the array holds its number as a text, whatever is behind the array,
and the call that has been hung up, if any, is its call. -/
structure UsesRecord (before after : StatusScan) (record : CallRecord) : Prop where
  number : ∀ behind, cString (after.phoneNumber ++ behind) = record.number
  length : after.lastLength = record.number.length
  callId : ∀ transactionId callId,
    .hangUp transactionId callId ∈ after.outputs.drop before.outputs.length →
      callId = record.callId

/-- Every round stays inside the array and uses its own record. -/
def CallersIdentified (s : CallRt) (callwait : UInt8) (packet : StatusPacket) : Prop :=
  ∃ offset info, tlvOffset packet.bytes packet.len tlvRemoteNumber = .ok offset ∧ offset ≠ 0 ∧
    tlvOffset packet.bytes packet.len tlvCallInfo = .ok info ∧
    (numInstances packet.bytes info).toNat = packet.later.length + 1 ∧
    ∀ i record, (packet.first :: packet.later)[i]? = some record →
      ∃ before after, scanBefore s callwait packet.bytes info offset i = .ok before ∧
        statusRound s callwait packet.bytes info offset before i = .ok after ∧
        UsesRecord before after record

/-- The number is a text with room for its terminator. -/
def CallRecord.IsText (record : CallRecord) : Prop :=
  record.number.length < maxPhoneNumberLength ∧ 0 ∉ record.number

/-! ## The rounds -/

variable {s : CallRt} {callwait : UInt8} {bytes : Bytes} {info offset : Nat}
  {scan : StatusScan} {record : CallRecord}

/-- The scan with the number of a record. -/
def StatusScan.with (scan : StatusScan) (record : CallRecord) : StatusScan :=
  { scan with
    phoneNumber := overwrite scan.phoneNumber record.number
    lastLength := record.number.length }

/-- Where a record is encoded, its number is copied. The structure begins one byte before it. -/
theorem copy_of_holds (h : Holds bytes (offset + 1) record.encode) :
    scan.copy bytes offset = .ok (scan.with record) := by
  obtain ⟨-, -, hlength, hnumber⟩ := by
    simpa only [CallRecord.encode, holds_cons] using h
  have hfits := record.fits
  have hsize : (bytes (offset + 3)).toNat = record.number.length := by
    rw [show offset + 3 = offset + 1 + 1 + 1 by omega, hlength, UInt8.toNat_ofNat']
    unfold maxPhoneNumberLength at hfits
    omega
  have hbytes : (List.range record.number.length).map (fun k => bytes (offset + 4 + k)) =
      record.number := by
    refine List.ext_getElem (by simp) fun k hk hlt => ?_
    rw [List.getElem_map, List.getElem_range, show offset + 4 + k = offset + 1 + 1 + 1 + 1 + k by
      omega, hnumber k hlt]
  simp only [StatusScan.copy, StatusScan.with, hsize, if_pos hfits, hbytes]

/-- What the first round does after the number has been copied. -/
theorem announce_first_spec (s : CallRt) (callwait : UInt8) (bytes : Bytes) (info offset : Nat)
    (scan : StatusScan) (houtputs : scan.outputs = []) :
    (announceFirst s callwait bytes info offset scan).phoneNumber = scan.phoneNumber ∧
      (announceFirst s callwait bytes info offset scan).lastLength = scan.lastLength ∧
      ∀ transactionId callId,
        .hangUp transactionId callId ∈
            (announceFirst s callwait bytes info offset scan).outputs →
          callId = bytes (offset + 3 + 1) := by
  simp only [announceFirst]
  split_ifs <;> simp [houtputs]

/-- The first round copies the first number. -/
theorem first_round (h : Holds bytes (offset + 4) record.encode) :
    ∃ after, statusRound s callwait bytes info offset .start 0 = .ok after ∧
      after.phoneNumber = overwrite StatusScan.start.phoneNumber record.number ∧
      after.lastLength = record.number.length ∧ after.prevNumSize = record.number.length + 3 ∧
      ∀ transactionId callId, .hangUp transactionId callId ∈ after.outputs →
        callId = record.callId := by
  have hcallId : bytes (offset + 3 + 1) = record.callId := (holds_cons.1 h).1
  obtain ⟨hnumber, hlength, houtputs⟩ :=
    announce_first_spec s callwait bytes info offset (StatusScan.start.with record) rfl
  refine ⟨announceFirst s callwait bytes info offset (StatusScan.start.with record), ?_, hnumber,
    hlength, announce_size _, fun transactionId callId hsent => ?_⟩
  · rw [statusRound, if_pos rfl, copy_of_holds h]
    rfl
  · rw [← hcallId]
    exact houtputs transactionId callId hsent

/-- Every later round copies the number behind the first one. -/
theorem later_round {i : Nat} (hi : i ≠ 0)
    (h : Holds bytes (offset + 3 + scan.prevNumSize + 1) record.encode) :
    ∃ after, statusRound s callwait bytes info offset scan i = .ok after ∧
      after.phoneNumber = overwrite scan.phoneNumber record.number ∧
      after.lastLength = record.number.length ∧ after.prevNumSize = scan.prevNumSize ∧
      after.outputs = scan.outputs := by
  rw [statusRound, if_neg hi, copy_of_holds h]
  refine ⟨_, rfl, ?_⟩
  split_ifs <;> exact ⟨rfl, rfl, rfl, rfl⟩

/-- The record that round `i` reads. -/
def recordRead (first : CallRecord) (later : List CallRecord) (i : Nat) : CallRecord :=
  if i = 0 then first else later.headD first

/-- The array to which the number is copied in round `i`. -/
def arrayBefore (first : CallRecord) (i : Nat) : List UInt8 :=
  if i = 0 then StatusScan.start.phoneNumber
  else overwrite StatusScan.start.phoneNumber first.number

theorem overwrite_overwrite (array number : List UInt8) :
    overwrite (overwrite array number) number = overwrite array number := by
  simp [overwrite]

variable {first : CallRecord} {later : List CallRecord}

/-- What round `i` finds and leaves, in terms of the records. -/
structure RoundSpec (first : CallRecord) (later : List CallRecord) (i : Nat)
    (before after : StatusScan) : Prop where
  phoneNumber : after.phoneNumber =
    overwrite (arrayBefore first i) (recordRead first later i).number
  lastLength : after.lastLength = (recordRead first later i).number.length
  prevNumSize : after.prevNumSize = first.number.length + 3
  callId : ∀ transactionId callId,
    .hangUp transactionId callId ∈ after.outputs.drop before.outputs.length →
      i = 0 ∧ callId = first.callId

/-- The rounds: the first one reads the first record, and all others the second one. -/
theorem rounds_spec (h : Holds bytes (offset + 4) ((first :: later).flatMap CallRecord.encode))
    (i : Nat) (hi : i ≤ later.length) :
    ∃ before after, scanBefore s callwait bytes info offset i = .ok before ∧
      statusRound s callwait bytes info offset before i = .ok after ∧
      RoundSpec first later i before after := by
  rw [List.flatMap_cons, holds_append] at h
  obtain ⟨hfirst, hlater⟩ := h
  induction i with
  | zero =>
      obtain ⟨after, hround, hnumber, hlength, hsize, hcallId⟩ := first_round hfirst
      exact ⟨.start, after, rfl, hround, hnumber, hlength, hsize,
        fun transactionId callId hsent => ⟨rfl, hcallId transactionId callId hsent⟩⟩
  | succ i ih =>
      obtain ⟨before, between, hbefore, hround, hspec⟩ := ih (by omega)
      obtain ⟨second, others, rfl⟩ := List.exists_cons_of_length_pos (by omega : 0 < later.length)
      rw [List.flatMap_cons, holds_append] at hlater
      have hsecond : Holds bytes (offset + 3 + between.prevNumSize + 1) second.encode := by
        have hplace : offset + 3 + between.prevNumSize + 1 = offset + 4 + first.encode.length := by
          simp only [hspec.prevNumSize, CallRecord.encode, List.length_cons]
          omega
        rw [hplace]
        exact hlater.1
      obtain ⟨after, hnext, hnumber, hlength, hsize, houtputs⟩ :=
        later_round (Nat.succ_ne_zero i) hsecond
      refine ⟨between, after, ?_, hnext, ?_, hlength, hsize.trans hspec.prevNumSize, ?_⟩
      · simp only [scanBefore, List.range_succ, List.foldlM_append, List.foldlM_cons,
          List.foldlM_nil, bind_pure] at hbefore ⊢
        rw [hbefore]
        exact hround
      · rw [hnumber, hspec.phoneNumber]
        simp only [arrayBefore, recordRead, Nat.succ_ne_zero, if_false, List.headD_cons]
        -- from the third round on the same number is copied again
        split_ifs
        · rfl
        · exact overwrite_overwrite _ _
      · rw [houtputs]
        simp

/-! ## Texts in the array -/

/-- A number that has been copied is read back if it is followed by a terminator. -/
theorem text_iff {array number : List UInt8} :
    (∀ behind, cString (overwrite array number ++ behind) = number) ↔
      0 ∉ number ∧ array[number.length]? = some 0 := by
  simp only [overwrite, cString, List.append_assoc]
  constructor
  · intro h
    have hclean : 0 ∉ number := by
      rw [← h []]
      exact Text.zero_not_mem_take_while _
    refine ⟨hclean, ?_⟩
    have hone := h [1]
    rw [Text.take_while_append hclean, List.append_right_eq_self] at hone
    cases hrest : array.drop number.length with
    | nil => simp [hrest] at hone
    | cons c rest =>
        have hzero : c = 0 := by
          by_contra hne
          simp [hrest, hne] at hone
        rw [← hzero, ← List.head?_drop, hrest, List.head?_cons]
  · rintro ⟨hclean, hend⟩ behind
    rw [← List.head?_drop] at hend
    obtain ⟨rest, hrest⟩ := List.head?_eq_some_iff.1 hend
    rw [Text.take_while_append hclean, hrest]
    simp

theorem first_text_iff :
    (∀ behind, cString (overwrite (arrayBefore first 0) first.number ++ behind) = first.number) ↔
      first.IsText := by
  rw [text_iff, CallRecord.IsText, and_comm]
  simp only [arrayBefore, if_true, StatusScan.start, List.getElem?_replicate]
  split_ifs with hroom
  · simp [hroom]
  · simp [hroom]

/-- The text of the first number ends at its terminator, and there are only terminators behind. -/
theorem first_number_zero_iff (hfirst : first.IsText) {i k : Nat} (hi : i ≠ 0) :
    (arrayBefore first i)[k]? = some 0 ↔ first.number.length ≤ k ∧ k < maxPhoneNumberLength := by
  obtain ⟨hfits, hclean⟩ := hfirst
  rw [arrayBefore, if_neg hi, overwrite, StatusScan.start, List.drop_replicate]
  by_cases hinside : k < first.number.length
  · rw [List.getElem?_append_left hinside, List.getElem?_eq_getElem hinside, Option.some.injEq]
    refine iff_of_false (fun hzero => ?_) (by omega)
    exact hclean (hzero ▸ List.getElem_mem hinside)
  · rw [List.getElem?_append_right (by omega), List.getElem?_replicate]
    split_ifs with hroom
    · exact iff_of_true rfl (by omega)
    · exact iff_of_false (by simp) (by omega)

/-- The number of a later record is read back if it covers the first one. -/
theorem later_text_iff (hfirst : first.IsText) {i : Nat} (hi : i ≠ 0) :
    (∀ behind, cString (overwrite (arrayBefore first i) record.number ++ behind) =
        record.number) ↔
      record.IsText ∧ first.number.length ≤ record.number.length := by
  rw [text_iff, first_number_zero_iff hfirst hi, CallRecord.IsText]
  exact ⟨fun h => ⟨⟨h.2.2, h.1⟩, h.2.1⟩, fun h => ⟨h.1.2, h.2, h.1.1⟩⟩

/-! ## The packets that are read right -/

/-- The rounds of a status event. -/
theorem packet_rounds (packet : StatusPacket) :
    ∃ offset info, tlvOffset packet.bytes packet.len tlvRemoteNumber = .ok offset ∧ offset ≠ 0 ∧
      tlvOffset packet.bytes packet.len tlvCallInfo = .ok info ∧
      (numInstances packet.bytes info).toNat = packet.later.length + 1 ∧
      Holds packet.bytes (offset + 4)
        ((packet.first :: packet.later).flatMap CallRecord.encode) := by
  obtain ⟨remote, hremote, hvalue⟩ := packet.remote
  obtain ⟨info, hinfo, hcount⟩ := packet.info
  have hlong : 17 ≤ packet.len := packet.length_le hremote (by rw [hvalue]; simp)
  obtain ⟨hpresent, hrecords⟩ := packet.value_of_find hremote
  obtain ⟨hinfoPresent, hinfoHolds⟩ := packet.value_of_find hinfo
  rw [hvalue, holds_cons] at hrecords
  refine ⟨_, _, packet.offset_eq hlong _, hpresent, packet.offset_eq hlong _, ?_, hrecords.2⟩
  obtain ⟨hnonempty, hcount⟩ := List.getElem?_eq_some_iff.1 hcount
  have hbyte := hinfoHolds 0 hnonempty
  have hfew := packet.few
  rw [hcount, Nat.add_zero] at hbyte
  rw [numInstances, metaByte, if_neg hinfoPresent, hbyte, UInt8.toNat_ofNat']
  omega

/-- A round uses its own record if the number that it copies is read back as that of the record. -/
def ReadBack (first : CallRecord) (later : List CallRecord) (i : Nat) (record : CallRecord) :
    Prop :=
  (∀ behind, cString (overwrite (arrayBefore first i) (recordRead first later i).number ++ behind) =
      record.number) ∧
    (recordRead first later i).number.length = record.number.length

theorem identified_iff_read_back (s : CallRt) (callwait : UInt8) (packet : StatusPacket) :
    CallersIdentified s callwait packet ↔
      ∀ i record, (packet.first :: packet.later)[i]? = some record →
        ReadBack packet.first packet.later i record := by
  obtain ⟨offset, info, hremote, hpresent, hinfo, hcount, hrecords⟩ := packet_rounds packet
  constructor
  · rintro ⟨offset', info', hremote', -, hinfo', -, hrounds⟩ i record hrecord
    rw [hremote, Except.ok.injEq] at hremote'
    rw [hinfo, Except.ok.injEq] at hinfo'
    subst hremote' hinfo'
    obtain ⟨before, after, hbefore, hround, huses⟩ := hrounds i record hrecord
    have hi : i ≤ packet.later.length := by
      have hlt := (List.getElem?_eq_some_iff.1 hrecord).1
      rw [List.length_cons] at hlt
      omega
    obtain ⟨before', after', hbefore', hround', hspec⟩ := rounds_spec hrecords i hi
    rw [hbefore, Except.ok.injEq] at hbefore'
    subst hbefore'
    rw [hround, Except.ok.injEq] at hround'
    subst hround'
    exact ⟨hspec.phoneNumber ▸ huses.number, hspec.lastLength ▸ huses.length⟩
  · intro h
    refine ⟨offset, info, hremote, hpresent, hinfo, hcount, fun i record hrecord => ?_⟩
    have hi : i ≤ packet.later.length := by
      have hlt := (List.getElem?_eq_some_iff.1 hrecord).1
      rw [List.length_cons] at hlt
      omega
    obtain ⟨before, after, hbefore, hround, hspec⟩ := rounds_spec hrecords i hi
    obtain ⟨hnumber, hlength⟩ := h i record hrecord
    refine ⟨before, after, hbefore, hround, hspec.phoneNumber ▸ hnumber,
      hspec.lastLength.trans hlength, fun transactionId callId hsent => ?_⟩
    obtain ⟨rfl, rfl⟩ := hspec.callId transactionId callId hsent
    rw [List.getElem?_cons_zero, Option.some.injEq] at hrecord
    rw [hrecord]

/-- For every state, every setting for waiting calls and every status event, every round uses its
own record if and only if all numbers are texts with room for a terminator, and the numbers of all
records but the first one are the same and not shorter than the first one. -/
theorem callers_identified_iff (s : CallRt) (callwait : UInt8) (packet : StatusPacket) :
    CallersIdentified s callwait packet ↔
      packet.first.IsText ∧ ∀ record ∈ packet.later,
        record.IsText ∧ packet.first.number.length ≤ record.number.length ∧
          ∀ other ∈ packet.later, other.number = record.number := by
  rw [identified_iff_read_back]
  generalize packet.first = first
  generalize packet.later = later
  constructor
  · intro h
    have hfirst : first.IsText := first_text_iff.1 (h 0 first rfl).1
    refine ⟨hfirst, ?_⟩
    cases later with
    | nil => exact fun record hrecord => absurd hrecord List.not_mem_nil
    | cons second others =>
        have hsecond := (later_text_iff hfirst Nat.one_ne_zero).1 (h 1 second rfl).1
        -- what the array holds from the second round on is the second number
        have hsame : ∀ record ∈ second :: others, record.number = second.number := by
          intro record hrecord
          obtain ⟨k, hk⟩ := List.mem_iff_getElem?.1 hrecord
          have hread := (h (k + 1) record hk).1 []
          have htext := (later_text_iff hfirst (Nat.succ_ne_zero k)).2 hsecond []
          exact hread.symm.trans htext
        intro record hrecord
        have hnumber := hsame record hrecord
        refine ⟨?_, ?_, fun other hother => ?_⟩
        · rw [CallRecord.IsText, hnumber]
          exact hsecond.1
        · rw [hnumber]
          exact hsecond.2
        · rw [hsame other hother, hnumber]
  · rintro ⟨hfirst, hlater⟩ i record hrecord
    cases i with
    | zero =>
        rw [List.getElem?_cons_zero, Option.some.injEq] at hrecord
        subst hrecord
        exact ⟨first_text_iff.2 hfirst, rfl⟩
    | succ i =>
        rw [List.getElem?_cons_succ] at hrecord
        have hmem := List.mem_of_getElem? hrecord
        obtain ⟨htext, hcovers, hsame⟩ := hlater record hmem
        obtain ⟨second, others, rfl⟩ := List.exists_cons_of_ne_nil (List.ne_nil_of_mem hmem)
        have hnumber : second.number = record.number := hsame second List.mem_cons_self
        refine ⟨?_, congrArg List.length hnumber⟩
        rw [recordRead, if_neg (Nat.succ_ne_zero i), List.headD_cons, hnumber]
        exact (later_text_iff hfirst (Nat.succ_ne_zero i)).2 ⟨htext, hcovers⟩

/-- Two calls, of which the second one waits. -/
def twoCallsInfo : Qmi.Tlv :=
  ⟨tlvCallInfo, [0x02, 0x01, 0x03, 0, 0x02, 0x04, 0, 0, 0x02, 0x02, 0, 0x02, 0x04, 0, 0], by decide⟩

/-- Their numbers, `"112"` and `"60"`. -/
def twoNumbers : Qmi.Tlv :=
  ⟨tlvRemoteNumber, [0x02, 0x01, 0, 0x03, 0x31, 0x31, 0x32, 0x02, 0, 0x02, 0x36, 0x30], by decide⟩

/-- A call from a shorter number during a call from a longer one. -/
def shorterSecondNumber : StatusPacket where
  bytes := sampleStatus [twoCallsInfo, twoNumbers]
  len := 46
  tlvs := [twoCallsInfo, twoNumbers]
  wellFormed := ⟨by unfold Holds; decide, by decide⟩
  short := by decide
  first := ⟨0x01, 0, [0x31, 0x31, 0x32], by decide⟩
  later := [⟨0x02, 0, [0x36, 0x30], by decide⟩]
  isStatus := rfl
  few := by decide
  info := ⟨twoCallsInfo, rfl, rfl⟩
  remote := ⟨twoNumbers, rfl, rfl⟩

/-- The second number is read as `"602"`. -/
theorem shorter_second_number_mixed :
    ¬ ∀ (s : CallRt) (callwait : UInt8) (packet : StatusPacket),
      CallersIdentified s callwait packet := by
  intro h
  have hread := (identified_iff_read_back .zero 0 shorterSecondNumber).1 (h _ _ _) 1 _ rfl
  exact absurd (hread.1 []) (by decide)

end OpenQti.Call
