import OpenQti.Lib.Buffer
import OpenQti.Lib.Ensures
import OpenQti.Qmi.TlvChain

/-!
# Lists of the baseband

`pdc_read_config_list`, the software versions in `handle_incoming_dms_message` and
`update_operator_name` walk over records whose lengths the records announce themselves. Every access
to the packet and to a string of the client is checked here, those of `did_qmi_op_fail` and
`get_tlv_offset_by_id` included.

The list of configurations is checked after each record, when its header has been read already. The
versions are checked before each record, without the headers and without the text; texts are logged
up to a 0 wherever it comes, and two messages of the log lack an argument. The name of the operator
is compared with the size of the packet as if it started there, and its length less 2 may wrap.
`lists_inside_iff` says for which packets each function stays inside and rejects a list that does
not fit.

`set_log_level` knows no level above `MSG_WARN`, and nothing sets that one: messages of the level
`MSG_INFO` are always written. `print_modem_information` and the last message of
`update_operator_name`, which write the strings of the client, are left out.
-/

namespace OpenQti.Qmi

open Bytes Loop Except

/-- A packet of the internal QMI client. -/
structure ReceivedPacket where
  bytes : Bytes
  len : Nat

/-- What the functions must not do. -/
inductive ListFault where
  /-- A byte behind the packet is read. -/
  | read (index : Nat)
  | write (overflow : Buffer.Overflow)
  /-- A conversion of a format has no argument, or one of another type. -/
  | strayArgument
  /-- A loop over TLVs never ends. -/
  | loops
  deriving DecidableEq, Repr

namespace ReceivedPacket

/-- `-ENOMEM`. -/
def minusEnomem : Int := -12

/-- `QMI_RESULT_SUCCESS`. -/
def qmiResultSuccess : Nat := 0x0000

/-- `DMS_MODEM_INFO_MAX_STR_LEN`. -/
def dmsModemInfoMaxStrLen : Nat := 256

/-- The size of `operator_name`. -/
def operatorNameSize : Nat := 32

variable (p : ReceivedPacket)

/-! ## Accesses -/

/-- These bytes are read. -/
def reads (index size : Nat) : Except ListFault Unit :=
  if index + size ≤ p.len then .ok () else .error (.read index)

/-- The header at `cur_byte` is read in a round of `get_tlv_offset_by_id`. -/
def readsHeader (curByte : Nat) : Except ListFault Unit :=
  if curByte < p.len then p.reads curByte 3 else .ok ()

/-- `get_tlv_offset_by_id(buf, buf_len, tlvid)`. -/
def getTlvOffset (tlvid : UInt8) : Except ListFault Nat :=
  if p.len < encapsulatedQmiPacketSize + 4 then .ok 0
  else runGuarded p.readsHeader .loops (getTlvOffsetByIdBody p.bytes p.len tlvid) (2 ^ 16)
    encapsulatedQmiPacketSize

/-- The header at `cur_byte` is read in a round of `did_qmi_op_fail`, and the whole TLV if it is the
result. -/
def readsResult (curByte : Nat) : Except ListFault Unit :=
  if curByte < p.len then
    if p.bytes curByte = 0x02 ∧ le16 p.bytes (curByte + 1) = 0x04 then p.reads curByte 7
    else p.reads curByte 3
  else .ok ()

/-- `did_qmi_op_fail(buf, buf_len)`. -/
def opResult : Except ListFault Nat :=
  if p.len < encapsulatedQmiPacketSize + 4 then .ok qmiResultFailure
  else runGuarded p.readsResult .loops (didQmiOpFailBody p.bytes p.len) (2 ^ 16)
    encapsulatedQmiPacketSize

/-- A text is read up to a 0, and at most this many bytes. -/
def readsText : Nat → Nat → Except ListFault (List UInt8)
  | 0, _ => .ok []
  | size + 1, index => do
      p.reads index 1
      if p.bytes index = 0 then .ok []
      else do
        let rest ← readsText size (index + 1)
        .ok (p.bytes index :: rest)

/-- A text is written to the log: it is read up to a 0. One that has none in the packet is longer
than the packet. -/
def logsText (index : Nat) : Except ListFault (List UInt8) := p.readsText (p.len + 1) index

/-! ## Configurations -/

/-- The loop of `pdc_read_config_list`. -/
def configLoop : Nat → Nat → Except ListFault Int
  | 0, _ => .ok 0
  | count + 1, pktoffset => do
      p.reads pktoffset 5
      let next := pktoffset + 5 + (p.bytes (pktoffset + 4)).toNat
      if next > p.len then .ok minusEnomem else configLoop count next

/-- `pdc_read_config_list(buf, buf_len)`. -/
def pdcReadConfigList : Except ListFault Int := do
  let _ ← p.opResult
  let offset ← p.getTlvOffset 0x11
  if offset = 0 then .ok 0
  else do
    p.reads (offset + 3) 1
    p.configLoop (p.bytes (offset + 3)).toNat (offset + 4)

end ReceivedPacket

/-! ## Software versions -/

/-- The strings of `struct fw_parts`. -/
inductive FirmwareSection where
  | primary
  | sbl
  | tz
  | tzSec
  | rpm
  | aboot
  | apps
  | mpss
  | adsp
  deriving DecidableEq, Repr

/-- The sections that are told apart in the list of versions. -/
def FirmwareSection.ofCode (code : Nat) : Option FirmwareSection :=
  if code = 0x01 then some .sbl
  else if code = 0x02 then some .tz
  else if code = 0x03 then some .tzSec
  else if code = 0x04 then some .rpm
  else if code = 0x07 then some .aboot
  else if code = 0x08 then some .apps
  else if code = 0x09 then some .mpss
  else if code = 0x0a then some .adsp
  else none

/-- `firmware_sections`. -/
abbrev FirmwareSections := FirmwareSection → Bytes

namespace ReceivedPacket

variable (p : ReceivedPacket)

/-- `strncpy` from the packet into a section. -/
def copiesText (index size : Nat) (part : FirmwareSection) (sections : FirmwareSections) :
    Except ListFault FirmwareSections := do
  let text ← p.readsText size index
  let array ← (Buffer.strncpy dmsModemInfoMaxStrLen text size (sections part)).mapError .write
  .ok (Function.update sections part array)

/-- The TLV `0x01`. -/
def primaryVersion (offset : Nat) (sections : FirmwareSections) :
    Except ListFault FirmwareSections :=
  if offset = 0 then .ok sections
  else do
    p.reads (offset + 1) 2
    if le16 p.bytes (offset + 1) ≤ dmsModemInfoMaxStrLen then
      p.copiesText (offset + 3) (le16 p.bytes (offset + 1)) .primary sections
    else .ok sections

/-- The text of a record in the list of versions. -/
def versionText (record : Nat) (sections : FirmwareSections) :
    Except ListFault FirmwareSections :=
  if p.bytes (record + 4) = 0 then .ok sections
  else do
    let _ ← p.logsText (record + 5)
    match FirmwareSection.ofCode (le32 p.bytes record) with
    | some part => p.copiesText (record + 5) (p.bytes (record + 4)).toNat part sections
    -- the number of the section is logged as a text, and the last conversion has no argument
    | none => .error .strayArgument

/-- The loop over the list of versions; `current` is `curr_sw_ver_offset + offset`. -/
def versionLoop : Nat → Nat → FirmwareSections → Except ListFault (Int × FirmwareSections)
  | 0, _, sections => .ok (0, sections)
  | count + 1, current, sections =>
      if current > p.len then do
        -- the name of the function is missing in the error that is written before the return
        Except.error .strayArgument
        .ok (minusEnomem, sections)
      else do
        p.reads (current + 4) 5
        let sections ← p.versionText (current + 4) sections
        versionLoop count (current + (p.bytes (current + 8)).toNat + 5) sections

/-- The TLV `0x10`. -/
def versionList (offset : Nat) (sections : FirmwareSections) :
    Except ListFault (Int × FirmwareSections) :=
  if offset = 0 then .ok (0, sections)
  else do
    p.reads (offset + 3) 1
    p.versionLoop (p.bytes (offset + 3)).toNat offset sections

/-- `DMS_GET_SOFTWARE_VERSION` in `handle_incoming_dms_message`. -/
def dmsGetSoftwareVersion (sections : FirmwareSections) :
    Except ListFault (Int × FirmwareSections) := do
  let result ← p.opResult
  if result = qmiResultSuccess then do
    let offset ← p.getTlvOffset 0x01
    let sections ← p.primaryVersion offset sections
    let offset ← p.getTlvOffset 0x10
    p.versionList offset sections
  else .ok (0, sections)

/-! ## The name of the operator -/

/-- `name->len - sizeof(uint16_t)`, without a sign. -/
def nameSize (offset : Nat) : Nat := (le16 p.bytes (offset + 1) + (2 ^ 32 - 2)) % 2 ^ 32

/-- `memcpy` from the packet into `operator_name`. -/
def copiesName (offset : Nat) (operatorName : Bytes) : Except ListFault Bytes := do
  if p.nameSize offset = 0 then .ok operatorName
  else do
    p.reads (offset + 5) (p.nameSize offset)
    (Buffer.memcpy operatorNameSize (fun k => p.bytes (offset + 5 + k)) (p.nameSize offset)
      operatorName).mapError .write

/-- The TLV `0x11`, of which only the length is looked at. -/
def operatorCode (operatorName : Bytes) : Except ListFault Bytes := do
  let offset ← p.getTlvOffset 0x11
  if offset = 0 then .ok operatorName
  else do
    p.reads (offset + 1) 2
    .ok operatorName

/-- `update_operator_name(buf, buf_len)`. -/
def updateOperatorName (operatorName : Bytes) : Except ListFault Bytes := do
  let offset ← p.getTlvOffset 0x10
  if offset = 0 then p.operatorCode operatorName
  else do
    p.reads (offset + 1) 2
    if p.len < le16 p.bytes (offset + 1) then .ok operatorName
    else do
      let operatorName ← p.copiesName offset operatorName
      p.operatorCode operatorName

/-! ## What is inside the packet -/

/-- `get_tlv_offset_by_id` returns this offset, and the headers it looks at are in the packet. -/
structure LookedUp (tlvid : UInt8) (offset : Nat) : Prop where
  returned : getTlvOffsetById p.bytes p.len tlvid = some offset
  headers : encapsulatedQmiPacketSize + 4 ≤ p.len → ∀ rounds current,
    after (getTlvOffsetByIdBody p.bytes p.len tlvid) rounds encapsulatedQmiPacketSize =
      some current → current < p.len → current + 3 ≤ p.len

/-- `did_qmi_op_fail` returns this result, and all that it looks at is in the packet. -/
structure ResultRead (result : Nat) : Prop where
  returned : didQmiOpFail p.bytes p.len = some result
  headers : encapsulatedQmiPacketSize + 4 ≤ p.len → ∀ rounds current,
    after (didQmiOpFailBody p.bytes p.len) rounds encapsulatedQmiPacketSize = some current →
      current < p.len → current + 3 ≤ p.len ∧
        (p.bytes current = 0x02 → le16 p.bytes (current + 1) = 0x04 → current + 7 ≤ p.len)

/-- The records of a list have a header of 5 bytes, the last of which is the length of what follows.
This is where record `i` starts if the first one starts at `start`. -/
def recordStart : Nat → Nat → Nat
  | start, 0 => start
  | start, i + 1 => recordStart (start + 5 + (p.bytes (start + 4)).toNat) i

/-- The number of records in the list of a TLV. -/
def recordCount (offset : Nat) : Nat := (p.bytes (offset + 3)).toNat

/-- The list of a TLV ends inside the packet. -/
def RecordsFit (offset : Nat) : Prop := p.recordStart (offset + 4) (p.recordCount offset) ≤ p.len

/-- The contents of a TLV end inside the packet. -/
def ContentsFit (offset : Nat) : Prop := offset + 3 + le16 p.bytes (offset + 1) ≤ p.len

/-- A text that starts here is terminated in the packet. -/
def Terminated (index : Nat) : Prop := ∃ k, index ≤ k ∧ k < p.len ∧ p.bytes k = 0

/-- The header of a record is in the packet if the records before it are. -/
def HeadersInside (start count : Nat) : Prop :=
  ∀ i < count, p.recordStart start i ≤ p.len → p.recordStart start i + 5 ≤ p.len

/-- A record in the list of versions: its header is in the packet, and if it has a text, the section
is known and the text is terminated. -/
structure VersionInside (record : Nat) : Prop where
  header : record + 5 ≤ p.len
  section_known : p.bytes (record + 4) ≠ 0 →
    (FirmwareSection.ofCode (le32 p.bytes record)).isSome = true
  terminated : p.bytes (record + 4) ≠ 0 → p.Terminated (record + 5)

/-- `pdc_read_config_list` stays inside the packet and rejects a list that does not fit. -/
def ConfigListRight : Prop :=
  p.pdcReadConfigList.Ensures fun result =>
    ∀ offset, getTlvOffsetById p.bytes p.len 0x11 = some offset → offset ≠ 0 →
      ¬ p.RecordsFit offset → result = minusEnomem

/-- The TLVs up to that of the list and the headers of its records are in the packet, as far as the
records before them are. -/
def ConfigListInside : Prop :=
  ∃ result offset, p.ResultRead result ∧ p.LookedUp 0x11 offset ∧
    (offset ≠ 0 → offset + 4 ≤ p.len ∧ p.HeadersInside (offset + 4) (p.recordCount offset))

/-- `DMS_GET_SOFTWARE_VERSION`: whatever the sections are before, everything stays inside, a version
that does not fit is not taken, and a list that does not fit is rejected. -/
def VersionsRight : Prop :=
  ∀ sections, (p.dmsGetSoftwareVersion sections).Ensures fun result =>
    didQmiOpFail p.bytes p.len = some qmiResultSuccess →
      (∀ offset, getTlvOffsetById p.bytes p.len 0x01 = some offset → offset ≠ 0 →
        ¬ p.ContentsFit offset → result.2 .primary = sections .primary) ∧
      ∀ offset, getTlvOffsetById p.bytes p.len 0x10 = some offset → offset ≠ 0 →
        ¬ p.RecordsFit offset → result.1 = minusEnomem

/-- The TLVs that are looked at are in the packet, the primary version fits or is too long for the
section, the list fits, and its texts are terminated and belong to known sections. -/
def VersionsInside : Prop :=
  ∃ result, p.ResultRead result ∧
    (result = qmiResultSuccess → ∃ primary versions,
      p.LookedUp 0x01 primary ∧
      (primary ≠ 0 → primary + 3 ≤ p.len ∧
        (le16 p.bytes (primary + 1) ≤ dmsModemInfoMaxStrLen → p.ContentsFit primary)) ∧
      p.LookedUp 0x10 versions ∧
      (versions ≠ 0 → versions + 4 ≤ p.len ∧ p.RecordsFit versions ∧
        ∀ i < p.recordCount versions, p.VersionInside (p.recordStart (versions + 4) i)))

/-- `update_operator_name`: whatever the name is before, everything stays inside, and a name that
does not fit is not taken. -/
def OperatorNameRight : Prop :=
  ∀ operatorName, (p.updateOperatorName operatorName).Ensures fun result =>
    ∀ offset, getTlvOffsetById p.bytes p.len 0x10 = some offset → offset ≠ 0 →
      ¬ p.ContentsFit offset → result = operatorName

/-- The name is longer than the packet. -/
def NameTooLong (offset : Nat) : Prop := offset ≠ 0 ∧ p.len < le16 p.bytes (offset + 1)

/-- The TLVs that are looked at are in the packet, and a name that is not longer than the packet has
between 0 and 32 bytes after its instance, all of them in the packet. -/
def OperatorNameInside : Prop :=
  ∃ offset, p.LookedUp 0x10 offset ∧
    (offset ≠ 0 → offset + 3 ≤ p.len ∧ (le16 p.bytes (offset + 1) ≤ p.len →
      2 ≤ le16 p.bytes (offset + 1) ∧ le16 p.bytes (offset + 1) ≤ 2 + operatorNameSize ∧
        (le16 p.bytes (offset + 1) = 2 ∨ p.ContentsFit offset))) ∧
    (¬ p.NameTooLong offset → ∃ code, p.LookedUp 0x11 code ∧ (code ≠ 0 → code + 3 ≤ p.len))

section Lookups

variable {p}

theorem reads_ensures {index size : Nat} {post : Unit → Prop} :
    (p.reads index size).Ensures post ↔ index + size ≤ p.len ∧ post () := by
  rw [reads, ensures_ite, ensures_ok, ensures_error]
  tauto

theorem reads_header_ok {current : Nat} :
    p.readsHeader current = .ok () ↔ (current < p.len → current + 3 ≤ p.len) := by
  by_cases hlt : current < p.len
  · by_cases hinside : current + 3 ≤ p.len <;> simp [readsHeader, reads, hlt, hinside]
  · simp [readsHeader, hlt]

theorem reads_result_ok {current : Nat} :
    p.readsResult current = .ok () ↔
      (current < p.len → current + 3 ≤ p.len ∧
        (p.bytes current = 0x02 → le16 p.bytes (current + 1) = 0x04 → current + 7 ≤ p.len)) := by
  by_cases hlt : current < p.len
  · rw [readsResult, if_pos hlt]
    by_cases hresult : p.bytes current = 0x02 ∧ le16 p.bytes (current + 1) = 0x04
    · rw [if_pos hresult, reads]
      by_cases hinside : current + 7 ≤ p.len
      · rw [if_pos hinside]
        exact iff_of_true rfl fun _ => ⟨by omega, fun _ _ => hinside⟩
      · rw [if_neg hinside]
        exact iff_of_false (by simp) fun h => hinside ((h hlt).2 hresult.1 hresult.2)
    · rw [if_neg hresult, reads]
      by_cases hinside : current + 3 ≤ p.len
      · rw [if_pos hinside]
        exact iff_of_true rfl fun _ => ⟨hinside, fun hid hsize => absurd ⟨hid, hsize⟩ hresult⟩
      · rw [if_neg hinside]
        exact iff_of_false (by simp) fun h => hinside (h hlt).1
  · simp [readsResult, hlt]

theorem get_tlv_offset_ok {tlvid : UInt8} {offset : Nat} :
    p.getTlvOffset tlvid = .ok offset ↔ p.LookedUp tlvid offset := by
  by_cases hshort : p.len < encapsulatedQmiPacketSize + 4
  · rw [getTlvOffset, if_pos hshort]
    constructor
    · intro h
      cases h
      exact ⟨if_pos hshort, fun hlong => absurd hshort (by omega)⟩
    · intro h
      have hreturned := h.returned
      rw [getTlvOffsetById, if_pos hshort] at hreturned
      cases hreturned
      rfl
  · rw [getTlvOffset, if_neg hshort, run_guarded_iff]
    simp only [reads_header_ok]
    constructor
    · rintro ⟨hrun, hheaders⟩
      exact ⟨by rw [getTlvOffsetById, if_neg hshort, hrun], fun _ => hheaders⟩
    · rintro ⟨hreturned, hheaders⟩
      rw [getTlvOffsetById, if_neg hshort] at hreturned
      exact ⟨hreturned, hheaders (by omega)⟩

theorem op_result_ok {result : Nat} : p.opResult = .ok result ↔ p.ResultRead result := by
  by_cases hshort : p.len < encapsulatedQmiPacketSize + 4
  · rw [opResult, if_pos hshort]
    constructor
    · intro h
      cases h
      exact ⟨if_pos hshort, fun hlong => absurd hshort (by omega)⟩
    · intro h
      have hreturned := h.returned
      rw [didQmiOpFail, if_pos hshort] at hreturned
      cases hreturned
      rfl
  · rw [opResult, if_neg hshort, run_guarded_iff]
    simp only [reads_result_ok]
    constructor
    · rintro ⟨hrun, hheaders⟩
      exact ⟨by rw [didQmiOpFail, if_neg hshort, hrun], fun _ => hheaders⟩
    · rintro ⟨hreturned, hheaders⟩
      rw [didQmiOpFail, if_neg hshort] at hreturned
      exact ⟨hreturned, hheaders (by omega)⟩

/-- What comes after a look-up gets the offset. -/
theorem get_tlv_offset_ensures {tlvid : UInt8} {post : Nat → Prop} :
    (p.getTlvOffset tlvid).Ensures post ↔ ∃ offset, p.LookedUp tlvid offset ∧ post offset := by
  simp only [Ensures, get_tlv_offset_ok]

theorem LookedUp.eq {tlvid : UInt8} {offset other : Nat} (h : p.LookedUp tlvid offset)
    (hother : getTlvOffsetById p.bytes p.len tlvid = some other) : other = offset :=
  Option.some.inj (hother.symm.trans h.returned)

theorem op_result_ensures {post : Nat → Prop} :
    p.opResult.Ensures post ↔ ∃ result, p.ResultRead result ∧ post result := by
  simp only [Ensures, op_result_ok]

end Lookups

/-! ## The list of configurations -/

section Configs

variable {p}

theorem le_record_start (start i : Nat) : start ≤ p.recordStart start i := by
  induction i generalizing start with
  | zero => exact le_rfl
  | succ i ih => exact le_trans (by omega) (ih _)

theorem headers_inside_succ {start count : Nat} :
    p.HeadersInside start (count + 1) ↔
      (start ≤ p.len → start + 5 ≤ p.len) ∧
        p.HeadersInside (start + 5 + (p.bytes (start + 4)).toNat) count := by
  constructor
  · intro h
    exact ⟨h 0 (Nat.succ_pos count), fun i hi => h (i + 1) (Nat.succ_lt_succ hi)⟩
  · rintro ⟨hfirst, hrest⟩ i hi
    cases i with
    | zero => exact hfirst
    | succ i => exact hrest i (Nat.lt_of_succ_lt_succ hi)

/-- The loop reads the headers, and rejects a list exactly if it does not fit. -/
theorem config_loop_ensures {start count : Nat} {post : Int → Prop} (hstart : start ≤ p.len) :
    (p.configLoop count start).Ensures post ↔
      p.HeadersInside start count ∧
        post (if p.recordStart start count ≤ p.len then 0 else minusEnomem) := by
  induction count generalizing start with
  | zero => simp [configLoop, ensures_ok, HeadersInside, recordStart, hstart]
  | succ count ih =>
      rw [configLoop, ensures_bind, reads_ensures, ensures_ite, ensures_ok, headers_inside_succ,
        recordStart]
      by_cases hnext : start + 5 + (p.bytes (start + 4)).toNat ≤ p.len
      · simp only [Nat.not_lt.2 hnext, false_imp_iff, not_false_eq_true, true_imp_iff,
          true_and, ih hnext, hstart, and_assoc]
      · have hbehind : ∀ i,
            ¬ p.recordStart (start + 5 + (p.bytes (start + 4)).toNat) i ≤ p.len := by
          intro i hi
          exact hnext ((le_record_start _ i).trans hi)
        have hvacuous : p.HeadersInside (start + 5 + (p.bytes (start + 4)).toNat) count :=
          fun i _ hi => absurd hi (hbehind i)
        simp only [Nat.not_le.1 hnext, true_imp_iff, not_true_eq_false, false_imp_iff,
          and_true, hstart, hvacuous, if_neg (hbehind count)]

theorem config_list_right_iff : p.ConfigListRight ↔ p.ConfigListInside := by
  rw [ConfigListRight, pdcReadConfigList, ensures_bind, op_result_ensures, ConfigListInside]
  refine exists_congr fun result => ?_
  rw [ensures_bind, get_tlv_offset_ensures, ← exists_and_left]
  refine exists_congr fun offset => and_congr_right fun _ => and_congr_right fun hlooked => ?_
  by_cases hzero : offset = 0
  · have hnone : ∀ other, getTlvOffsetById p.bytes p.len 0x11 = some other → other = 0 := by
      intro other hother
      exact (hlooked.eq hother).trans hzero
    rw [if_pos hzero, ensures_ok]
    exact iff_of_true (fun other hother hne => absurd (hnone other hother) hne)
      fun hne => absurd hzero hne
  · rw [if_neg hzero, ensures_bind, reads_ensures]
    refine ⟨?_, ?_⟩
    · rintro ⟨hheader, hloop⟩
      exact fun _ => ⟨hheader, ((config_loop_ensures (by omega)).1 hloop).1⟩
    · intro h
      obtain ⟨hheader, hrecords⟩ := h hzero
      refine ⟨hheader, (config_loop_ensures (by omega)).2 ⟨hrecords, ?_⟩⟩
      intro other hother _ hlong
      obtain rfl := hlooked.eq hother
      exact if_neg hlong

end Configs

/-! ## The versions -/

section Versions

variable {p} {sections after : FirmwareSections} {part : FirmwareSection}

theorem terminated_succ {index : Nat} (hne : p.bytes index ≠ 0) :
    p.Terminated index ↔ p.Terminated (index + 1) := by
  constructor
  · rintro ⟨k, hle, hlt, hzero⟩
    have hk : k ≠ index := fun h => hne (h ▸ hzero)
    exact ⟨k, by omega, hlt, hzero⟩
  · rintro ⟨k, hle, hlt, hzero⟩
    exact ⟨k, by omega, hlt, hzero⟩

/-- A text is read inside the packet if all bytes that are asked for are there, or a 0 is. -/
theorem reads_text_ensures {size index : Nat} :
    ((p.readsText size index).Ensures fun _ => True) ↔
      size = 0 ∨ index + size ≤ p.len ∨ p.Terminated index := by
  induction size generalizing index with
  | zero => simp [readsText, ensures_ok]
  | succ size ih =>
      rw [readsText, ensures_bind, reads_ensures, ensures_ite, ensures_ok]
      by_cases hinside : index + 1 ≤ p.len
      · by_cases hzero : p.bytes index = 0
        · have hhere : p.Terminated index := ⟨index, le_rfl, hinside, hzero⟩
          simp [hinside, hzero, hhere]
        · simp only [ensures_bind, ensures_ok, ih, terminated_succ hzero, hinside, hzero]
          have hsum : index + 1 + size = index + (size + 1) := by omega
          rw [hsum]
          have hnone : size = 0 → index + (size + 1) ≤ p.len := by
            intro h
            omega
          simp only [false_imp_iff, not_false_eq_true, true_imp_iff, true_and,
            Nat.succ_ne_zero, false_or]
          exact ⟨fun h => h.elim (fun h0 => Or.inl (hnone h0)) id, Or.inr⟩
      · have hnever : ¬ p.Terminated index := by
          rintro ⟨k, hle, hlt, -⟩
          omega
        have hlong : ¬ index + (size + 1) ≤ p.len := by omega
        simp [hinside, hnever, hlong]

theorem logs_text_ensures {index : Nat} :
    ((p.logsText index).Ensures fun _ => True) ↔ p.Terminated index := by
  rw [logsText, reads_text_ensures]
  have hlong : ¬ index + (p.len + 1) ≤ p.len := by omega
  simp [hlong]

/-- A text that fits the section is copied if it can be read. -/
theorem copies_text_ensures {index size : Nat} (hsize : size ≤ dmsModemInfoMaxStrLen) :
    ((p.copiesText index size part sections).Ensures fun _ => True) ↔
      size = 0 ∨ index + size ≤ p.len ∨ p.Terminated index := by
  rw [← reads_text_ensures, copiesText, ensures_bind]
  have hcopy : ∀ text, (Buffer.strncpy dmsModemInfoMaxStrLen text size (sections part)).Ensures
      fun _ => True := fun text => ⟨_, Buffer.strncpy_eq text _ hsize, trivial⟩
  simp only [ensures_bind, ensures_map_error, ensures_ok, hcopy]

/-- Only one section changes. -/
theorem copies_text_other {index size : Nat} {other : FirmwareSection}
    (h : p.copiesText index size part sections = .ok after) (hother : other ≠ part) :
    after other = sections other := by
  obtain ⟨text, -, h⟩ := bind_ok h
  obtain ⟨array, -, h⟩ := bind_ok h
  cases h
  exact Function.update_of_ne hother _ _

/-- The first byte of the section does not depend on what was there. -/
theorem copies_text_first (part : FirmwareSection) (index : Nat) {size : Nat} (hpos : 0 < size)
    (hsize : size ≤ dmsModemInfoMaxStrLen) :
    ∃ first, ∀ sections after, p.copiesText index size part sections = .ok after →
      after part 0 = first := by
  cases htext : p.readsText size index with
  | error fault =>
      refine ⟨0, fun sections after h => ?_⟩
      rw [copiesText, htext] at h
      cases h
  | ok text =>
      refine ⟨text.getD 0 0, fun sections after h => ?_⟩
      obtain ⟨_, hread, h⟩ := bind_ok h
      cases htext.symm.trans hread
      obtain ⟨array, harray, h⟩ := bind_ok h
      rw [Buffer.strncpy_eq text _ hsize] at harray
      cases harray
      cases h
      rw [Function.update_self, if_pos hpos]

/-- The text of a record: it is logged, and then copied. -/
theorem version_text_ensures {record : Nat} :
    ((p.versionText record sections).Ensures fun _ => True) ↔
      (p.bytes (record + 4) ≠ 0 →
        (FirmwareSection.ofCode (le32 p.bytes record)).isSome = true ∧
          p.Terminated (record + 5)) := by
  rw [versionText, ensures_ite, ensures_ok]
  have hsize : (p.bytes (record + 4)).toNat ≤ dmsModemInfoMaxStrLen := by
    have hlt := (p.bytes (record + 4)).toNat_lt
    rw [dmsModemInfoMaxStrLen]
    omega
  cases FirmwareSection.ofCode (le32 p.bytes record) with
  | none =>
      rw [ensures_bind_const fun _ => ensures_error]
      simp
  | some part =>
      rw [ensures_bind_const fun _ => copies_text_ensures hsize, logs_text_ensures]
      simp only [implies_true, true_and, Option.isSome_some, ne_eq]
      exact imp_congr_right fun _ => ⟨And.left, fun h => ⟨h, Or.inr (Or.inr h)⟩⟩

theorem of_code_ne_primary {code : Nat} (h : FirmwareSection.ofCode code = some part) :
    part ≠ .primary := by
  rintro rfl
  revert h
  unfold FirmwareSection.ofCode
  split_ifs <;> simp

theorem version_text_primary {record : Nat} (h : p.versionText record sections = .ok after) :
    after .primary = sections .primary := by
  rw [versionText] at h
  split_ifs at h with hzero
  · cases h
    rfl
  · obtain ⟨_, -, h⟩ := bind_ok h
    cases hpart : FirmwareSection.ofCode (le32 p.bytes record) with
    | none =>
        rw [hpart] at h
        cases h
    | some part =>
        rw [hpart] at h
        exact copies_text_other h (of_code_ne_primary hpart).symm

/-- The loop over the versions never returns an error: it faults before. -/
theorem version_loop_result {count current : Nat} {result : Int × FirmwareSections}
    (h : p.versionLoop count current sections = .ok result) :
    result.1 = 0 ∧ result.2 .primary = sections .primary := by
  induction count generalizing current sections with
  | zero =>
      cases h
      exact ⟨rfl, rfl⟩
  | succ count ih =>
      rw [versionLoop] at h
      split_ifs at h with hbehind
      · cases h
      · obtain ⟨_, -, h⟩ := bind_ok h
        obtain ⟨sections, htext, h⟩ := bind_ok h
        rw [← version_text_primary htext]
        exact ih h

/-- The loop gets through if all records are in the packet. -/
theorem version_loop_ensures {count current : Nat} :
    ((p.versionLoop count current sections).Ensures fun _ => True) ↔
      ∀ i < count, p.VersionInside (p.recordStart (current + 4) i) := by
  induction count generalizing current sections with
  | zero => simp [versionLoop, ensures_ok]
  | succ count ih =>
      have hnext : ∀ sections, ((p.versionLoop count
          (current + (p.bytes (current + 8)).toNat + 5) sections).Ensures fun _ => True) ↔
          ∀ i < count, p.VersionInside (p.recordStart (current + 4) (i + 1)) := by
        intro sections
        have hstart : current + (p.bytes (current + 8)).toNat + 5 + 4 =
            current + 4 + 5 + (p.bytes (current + 8)).toNat := by omega
        rw [ih, hstart]
        rfl
      have hsplit : (∀ i < count + 1, p.VersionInside (p.recordStart (current + 4) i)) ↔
          p.VersionInside (current + 4) ∧
            ∀ i < count, p.VersionInside (p.recordStart (current + 4) (i + 1)) := by
        rw [Nat.forall_lt_succ_left]
        rfl
      rw [versionLoop, hsplit]
      by_cases hbehind : current > p.len
      · rw [if_pos hbehind]
        refine iff_of_false (by simp [Ensures, bind, Except.bind]) fun h => ?_
        have hheader := h.1.header
        omega
      · rw [if_neg hbehind, ensures_bind, reads_ensures, ensures_bind_const hnext,
          version_text_ensures, ← and_assoc]
        refine and_congr_left fun _ => ⟨fun h => ⟨h.1, fun hne => (h.2 hne).1,
          fun hne => (h.2 hne).2⟩, fun h => ⟨h.header, fun hne => ⟨h.section_known hne,
          h.terminated hne⟩⟩⟩

theorem primary_version_ensures (sections : FirmwareSections) {offset : Nat} :
    ((p.primaryVersion offset sections).Ensures fun _ => True) ↔
      (offset ≠ 0 → offset + 3 ≤ p.len ∧ (le16 p.bytes (offset + 1) ≤ dmsModemInfoMaxStrLen →
        le16 p.bytes (offset + 1) = 0 ∨ p.ContentsFit offset ∨ p.Terminated (offset + 3))) := by
  by_cases hzero : offset = 0
  · rw [primaryVersion, if_pos hzero, ensures_ok]
    exact iff_of_true trivial fun hne => absurd hzero hne
  · rw [primaryVersion, if_neg hzero, ensures_bind, reads_ensures, ensures_ite, ensures_ok]
    by_cases hsize : le16 p.bytes (offset + 1) ≤ dmsModemInfoMaxStrLen
    · rw [copies_text_ensures hsize]
      simp [hsize, hzero, ContentsFit, Nat.add_assoc]
    · simp [hsize, hzero, Nat.add_assoc]

/-- If the primary version does not fit and is left alone whatever it was, it is too long. -/
theorem primary_version_unchanged {offset : Nat} (hfound : offset ≠ 0)
    (hheader : offset + 3 ≤ p.len) (hlong : ¬ p.ContentsFit offset)
    (h : ∀ sections, ∃ after, p.primaryVersion offset sections = .ok after ∧
      after .primary = sections .primary) :
    ¬ le16 p.bytes (offset + 1) ≤ dmsModemInfoMaxStrLen := by
  intro hsize
  have hpos : 0 < le16 p.bytes (offset + 1) := by
    rw [ContentsFit] at hlong
    omega
  obtain ⟨first, hfirst⟩ := copies_text_first (p := p) .primary (offset + 3) hpos hsize
  have hsame : ∀ byte : UInt8, byte = first := by
    intro byte
    obtain ⟨after, hafter, hkept⟩ := h fun _ _ => byte
    rw [primaryVersion, if_neg hfound] at hafter
    obtain ⟨_, -, hafter⟩ := bind_ok hafter
    rw [if_pos hsize] at hafter
    rw [← hfirst _ _ hafter, hkept]
  exact absurd ((hsame 0).trans (hsame 1).symm) (by decide)

theorem version_list_ensures (sections : FirmwareSections) {offset : Nat} :
    ((p.versionList offset sections).Ensures fun _ => True) ↔
      (offset ≠ 0 → offset + 4 ≤ p.len ∧
        ∀ i < p.recordCount offset, p.VersionInside (p.recordStart (offset + 4) i)) := by
  by_cases hzero : offset = 0
  · rw [versionList, if_pos hzero, ensures_ok]
    exact iff_of_true trivial fun hne => absurd hzero hne
  · rw [versionList, if_neg hzero, ensures_bind, reads_ensures, version_loop_ensures]
    exact ⟨fun h _ => h, fun h => h hzero⟩

theorem version_list_result {offset : Nat} {result : Int × FirmwareSections}
    (h : p.versionList offset sections = .ok result) :
    result.1 = 0 ∧ result.2 .primary = sections .primary := by
  rw [versionList] at h
  split_ifs at h with hzero
  · cases h
    exact ⟨rfl, rfl⟩
  · obtain ⟨_, -, h⟩ := bind_ok h
    exact version_loop_result h

theorem versions_inside_of_right (h : p.VersionsRight) : p.VersionsInside := by
  obtain ⟨_, hrun, -⟩ := h fun _ _ => 0
  obtain ⟨result, hresult, hrun⟩ := bind_ok hrun
  have hread := op_result_ok.1 hresult
  refine ⟨result, hread, ?_⟩
  rintro rfl
  rw [if_pos rfl] at hrun
  obtain ⟨primary, hprimary, hrun⟩ := bind_ok hrun
  obtain ⟨_, -, hrun⟩ := bind_ok hrun
  obtain ⟨versions, hversions, -⟩ := bind_ok hrun
  have hfirst := get_tlv_offset_ok.1 hprimary
  have hsecond := get_tlv_offset_ok.1 hversions
  -- the parts of a run, whatever the sections are before
  have hparts : ∀ sections, ∃ middle result, p.primaryVersion primary sections = .ok middle ∧
      p.versionList versions middle = .ok result ∧
      (primary ≠ 0 → ¬ p.ContentsFit primary → result.2 .primary = sections .primary) ∧
      (versions ≠ 0 → ¬ p.RecordsFit versions → result.1 = minusEnomem) := by
    intro sections
    obtain ⟨result, hrun, hright⟩ := h sections
    obtain ⟨hfits, hrejected⟩ := hright hread.returned
    obtain ⟨_, hop, hrun⟩ := bind_ok hrun
    cases hresult.symm.trans hop
    rw [if_pos rfl] at hrun
    obtain ⟨_, hoffset, hrun⟩ := bind_ok hrun
    cases hprimary.symm.trans hoffset
    obtain ⟨middle, hmiddle, hrun⟩ := bind_ok hrun
    obtain ⟨_, hoffset, hrun⟩ := bind_ok hrun
    cases hversions.symm.trans hoffset
    exact ⟨middle, result, hmiddle, hrun, hfits _ hfirst.returned, hrejected _ hsecond.returned⟩
  refine ⟨primary, versions, hfirst, fun hne => ?_, hsecond, fun hne => ?_⟩
  · obtain ⟨middle, _, hmiddle, -⟩ := hparts fun _ _ => 0
    have hheader := ((primary_version_ensures _).1 ⟨middle, hmiddle, trivial⟩ hne).1
    refine ⟨hheader, fun hsize => ?_⟩
    by_contra hlong
    refine primary_version_unchanged hne hheader hlong (fun sections => ?_) hsize
    obtain ⟨middle, result, hmiddle, hlist, hkept, -⟩ := hparts sections
    exact ⟨middle, hmiddle, (version_list_result hlist).2.symm.trans (hkept hne hlong)⟩
  · obtain ⟨middle, result, -, hlist, -, hrejected⟩ := hparts fun _ _ => 0
    obtain ⟨hheader, hrecords⟩ := (version_list_ensures _).1 ⟨result, hlist, trivial⟩ hne
    refine ⟨hheader, ?_, hrecords⟩
    by_contra hlong
    have herror := hrejected hne hlong
    rw [(version_list_result hlist).1] at herror
    exact absurd herror (by decide)

theorem versions_right_of_inside (h : p.VersionsInside) : p.VersionsRight := by
  obtain ⟨result, hread, hlists⟩ := h
  intro sections
  rw [dmsGetSoftwareVersion, bind_of_eq_ok (op_result_ok.2 hread)]
  by_cases hsuccess : result = qmiResultSuccess
  · obtain ⟨primary, versions, hfirst, hprimary, hsecond, hversions⟩ := hlists hsuccess
    obtain ⟨middle, hmiddle, -⟩ := (primary_version_ensures sections).2 fun hne =>
      ⟨(hprimary hne).1, fun hsize => Or.inr (Or.inl ((hprimary hne).2 hsize))⟩
    obtain ⟨final, hfinal, -⟩ := (version_list_ensures middle).2 fun hne =>
      ⟨(hversions hne).1, (hversions hne).2.2⟩
    rw [if_pos hsuccess, bind_of_eq_ok (get_tlv_offset_ok.2 hfirst), bind_of_eq_ok hmiddle,
      bind_of_eq_ok (get_tlv_offset_ok.2 hsecond)]
    refine ⟨final, hfinal, fun _ => ⟨?_, ?_⟩⟩
    · intro offset hoffset hne hlong
      obtain rfl := hfirst.eq hoffset
      rw [(version_list_result hfinal).2]
      have hsize : ¬ le16 p.bytes (offset + 1) ≤ dmsModemInfoMaxStrLen :=
        fun hsize => hlong ((hprimary hne).2 hsize)
      rw [primaryVersion, if_neg hne] at hmiddle
      obtain ⟨_, -, hmiddle⟩ := bind_ok hmiddle
      rw [if_neg hsize] at hmiddle
      cases hmiddle
      rfl
    · intro offset hoffset hne hlong
      obtain rfl := hsecond.eq hoffset
      exact absurd (hversions hne).2.1 hlong
  · rw [if_neg hsuccess, ensures_ok]
    intro hreturned
    exact absurd (Option.some.inj (hread.returned.symm.trans hreturned)) hsuccess

end Versions

/-! ## The operator -/

section Operator

variable {p} {operatorName : Bytes} {offset : Nat}

theorem name_size_eq (h : 2 ≤ le16 p.bytes (offset + 1)) :
    p.nameSize offset = le16 p.bytes (offset + 1) - 2 := by
  have hlow := (p.bytes (offset + 1)).toNat_lt
  have hhigh := (p.bytes (offset + 1 + 1)).toNat_lt
  rw [nameSize, le16] at *
  omega

/-- A length of 0 or 1 wraps. -/
theorem name_size_wraps (h : le16 p.bytes (offset + 1) < 2) :
    operatorNameSize < p.nameSize offset := by
  rw [nameSize, operatorNameSize]
  omega

/-- The name is copied if there is room for it and all of it is in the packet. -/
theorem copies_name_ensures {post : Bytes → Prop} :
    (p.copiesName offset operatorName).Ensures post ↔
      (p.nameSize offset = 0 ∧ post operatorName) ∨
        (p.nameSize offset ≠ 0 ∧ offset + 5 + p.nameSize offset ≤ p.len ∧
          p.nameSize offset ≤ operatorNameSize ∧
          post fun k => if k < p.nameSize offset then p.bytes (offset + 5 + k)
            else operatorName k) := by
  by_cases hzero : p.nameSize offset = 0
  · rw [copiesName, if_pos hzero, ensures_ok]
    simp [hzero]
  · rw [copiesName, if_neg hzero, ensures_bind, reads_ensures, ensures_map_error, Buffer.memcpy,
      ensures_ite, ensures_ok, ensures_error]
    by_cases hroom : p.nameSize offset ≤ operatorNameSize
    · simp only [hzero, hroom, true_imp_iff, not_true_eq_false, false_imp_iff, and_true, ne_eq,
        not_false_eq_true, true_and, false_and, false_or]
    · simp only [hzero, hroom, false_imp_iff, not_false_eq_true, true_imp_iff, and_false, ne_eq,
        false_and, false_or]

theorem operator_code_ensures {post : Bytes → Prop} :
    (p.operatorCode operatorName).Ensures post ↔
      (∃ code, p.LookedUp 0x11 code ∧ (code ≠ 0 → code + 3 ≤ p.len)) ∧ post operatorName := by
  rw [operatorCode, ensures_bind, get_tlv_offset_ensures, ← exists_and_right]
  refine exists_congr fun code => ?_
  rw [and_assoc]
  refine and_congr_right fun _ => ?_
  by_cases hzero : code = 0
  · rw [if_pos hzero, ensures_ok]
    simp [hzero]
  · rw [if_neg hzero, ensures_bind, reads_ensures, ensures_ok]
    simp [hzero, Nat.add_assoc]

/-- The name can be copied: in terms of its length. -/
theorem name_size_iff :
    p.nameSize offset = 0 ∨
        (p.nameSize offset ≠ 0 ∧ offset + 5 + p.nameSize offset ≤ p.len ∧
          p.nameSize offset ≤ operatorNameSize) ↔
      2 ≤ le16 p.bytes (offset + 1) ∧ le16 p.bytes (offset + 1) ≤ 2 + operatorNameSize ∧
        (le16 p.bytes (offset + 1) = 2 ∨ p.ContentsFit offset) := by
  rw [ContentsFit]
  by_cases hlong : 2 ≤ le16 p.bytes (offset + 1)
  · rw [name_size_eq hlong]
    omega
  · have hwraps := name_size_wraps (Nat.not_le.1 hlong)
    omega

/-- A name that is copied fits. -/
theorem contents_fit_of_copied (hnonzero : p.nameSize offset ≠ 0)
    (hinside : offset + 5 + p.nameSize offset ≤ p.len)
    (hroom : p.nameSize offset ≤ operatorNameSize) : p.ContentsFit offset := by
  have hiff := name_size_iff.1 (Or.inr ⟨hnonzero, hinside, hroom⟩)
  have hsize := name_size_eq hiff.1
  rw [ContentsFit]
  omega

/-- A name that is not longer than the packet is copied, and the code is looked at. -/
theorem copied_and_code_iff :
    ((p.copiesName offset operatorName).Ensures fun name =>
        (p.operatorCode name).Ensures fun result =>
          offset ≠ 0 → ¬ p.ContentsFit offset → result = operatorName) ↔
      (2 ≤ le16 p.bytes (offset + 1) ∧ le16 p.bytes (offset + 1) ≤ 2 + operatorNameSize ∧
        (le16 p.bytes (offset + 1) = 2 ∨ p.ContentsFit offset)) ∧
      ∃ code, p.LookedUp 0x11 code ∧ (code ≠ 0 → code + 3 ≤ p.len) := by
  simp only [copies_name_ensures, operator_code_ensures]
  rw [← name_size_iff]
  constructor
  · rintro (⟨hzero, hcode, -⟩ | ⟨hnonzero, hinside, hroom, hcode, -⟩)
    · exact ⟨Or.inl hzero, hcode⟩
    · exact ⟨Or.inr ⟨hnonzero, hinside, hroom⟩, hcode⟩
  · rintro ⟨hzero | ⟨hnonzero, hinside, hroom⟩, hcode⟩
    · exact Or.inl ⟨hzero, hcode, fun _ _ => trivial⟩
    · exact Or.inr ⟨hnonzero, hinside, hroom, hcode,
        fun _ hlong => absurd (contents_fit_of_copied hnonzero hinside hroom) hlong⟩

theorem update_operator_name_iff :
    ((p.updateOperatorName operatorName).Ensures fun result =>
        ∀ offset, getTlvOffsetById p.bytes p.len 0x10 = some offset → offset ≠ 0 →
          ¬ p.ContentsFit offset → result = operatorName) ↔ p.OperatorNameInside := by
  rw [updateOperatorName, ensures_bind, get_tlv_offset_ensures, OperatorNameInside]
  refine exists_congr fun offset => and_congr_right fun hlooked => ?_
  have hpost : ∀ result, (∀ other, getTlvOffsetById p.bytes p.len 0x10 = some other → other ≠ 0 →
      ¬ p.ContentsFit other → result = operatorName) ↔
      (offset ≠ 0 → ¬ p.ContentsFit offset → result = operatorName) := by
    intro result
    refine ⟨fun h => h offset hlooked.returned, fun h other hother => ?_⟩
    rw [hlooked.eq hother]
    exact h
  simp only [hpost]
  by_cases hzero : offset = 0
  · rw [if_pos hzero, operator_code_ensures]
    simp [hzero, NameTooLong]
  · rw [if_neg hzero, ensures_bind, reads_ensures, ensures_ite, ensures_ok]
    by_cases hlong : p.len < le16 p.bytes (offset + 1)
    · simp [hzero, hlong, NameTooLong, Nat.add_assoc]
    · rw [ensures_bind, copied_and_code_iff]
      simp only [hlong, false_imp_iff, true_and, not_false_eq_true, true_imp_iff, ne_eq, hzero,
        NameTooLong, and_false, Nat.not_lt.1 hlong, and_assoc, Nat.add_assoc, Nat.reduceAdd]

theorem operator_name_right_iff : p.OperatorNameRight ↔ p.OperatorNameInside := by
  constructor
  · intro h
    exact update_operator_name_iff.1 (h fun _ => 0)
  · intro h operatorName
    exact update_operator_name_iff.2 h

end Operator

/-- For every packet, each of the three functions stays inside the packet and its strings, and
rejects what does not fit, exactly under its condition on the packet. -/
theorem lists_inside_iff (p : ReceivedPacket) :
    (p.ConfigListRight ↔ p.ConfigListInside) ∧ (p.VersionsRight ↔ p.VersionsInside) ∧
      (p.OperatorNameRight ↔ p.OperatorNameInside) :=
  ⟨config_list_right_iff, ⟨versions_inside_of_right, versions_right_of_inside⟩,
    operator_name_right_iff⟩

/-- A packet that ends with the name of an operator, which has 38 bytes. -/
def longOperatorName : ReceivedPacket where
  bytes := ofList ([1, 55, 0, 0x80, 3, 1, 4, 0, 0, 0x3a, 0, 43, 0] ++ [0x10, 40, 0, 0, 0] ++
    List.replicate 38 0x41)
  len := 56

/-- 38 bytes are copied to the 32 of `operator_name`. -/
theorem operator_name_overflows :
    ¬ ∀ p : ReceivedPacket, p.ConfigListRight ∧ p.VersionsRight ∧ p.OperatorNameRight := by
  intro h
  obtain ⟨offset, hlooked, hname, -⟩ := operator_name_right_iff.1 (h longOperatorName).2.2
  obtain rfl : 13 = offset := hlooked.eq rfl
  obtain ⟨-, hsize, -⟩ := (hname (by decide)).2 (by decide)
  exact absurd hsize (by decide)

end ReceivedPacket

end OpenQti.Qmi
