import OpenQti.Lib.Text
import OpenQti.Qmi.TlvPacket
import OpenQti.Sms.Handed

/-!
# The packet printer

`pretty_print_qmi_pkt` and `pretty_print_tlvs` of `logger.c` print a packet for the log: all its
bytes, its headers, and its TLVs one by one. The printer follows the TLVs as the walkers of `qmi.c`
do, but with the current offset in a `size_t`, so it never comes back to an offset; and it compares
the length of a TLV with the size of the whole packet, and not with what is left of it.

What is printed is a list of `Line`s, one for each call of `fprintf` or loop of such calls, and
beside it the printer keeps the indices of the bytes that it has read. `printer_right_iff` says for
which packets these are all inside; the TLVs of a well-formed packet are printed in any case.
-/

namespace OpenQti.Qmi

open Bytes Loop
open Sms (sizeT)
open Text (ascii sprintf padded hexadecimal)

/-! ## Lines -/

/-- A table of names, as `qmi_services`, `qmi_error_codes` and the commands of the services are. -/
abbrev NameTable := List (Nat × List UInt8)

/-- The name of the first entry with the id, or the text that is returned without one. -/
def NameTable.find (table : NameTable) (unknown : String) (id : Nat) : List UInt8 :=
  match List.find? (fun entry => entry.1 = id) table with
  | some entry => entry.2
  | none => ascii unknown

/-- The tables from which the printer takes names. -/
structure Names where
  qmiServices : NameTable
  qmiErrorCodes : NameTable
  controlServiceCommands : NameTable
  wdsSvcCommands : NameTable
  dmsSvcCommands : NameTable
  voiceSvcCommands : NameTable
  nasSvcCommands : NameTable

section

variable (names : Names)

/-- `get_service_name(service_id)`. -/
def getServiceName (service : UInt8) : List UInt8 :=
  names.qmiServices.find "Unknown service" service.toNat

/-- `get_qmi_error_string(result_code)`. -/
def getQmiErrorString (resultCode : Nat) : List UInt8 :=
  names.qmiErrorCodes.find "Unknown error" resultCode

/-- `get_ctl_command(msgid)`. -/
def getCtlCommand (msgid : Nat) : List UInt8 :=
  names.controlServiceCommands.find "Control service: Unknown command\n" msgid

/-- `get_command_desc(service, msgid)`. -/
def getCommandDesc (service : UInt8) (msgid : Nat) : List UInt8 :=
  match service with
  | 0x01 => names.wdsSvcCommands.find "WDS service: Unknown command\n" msgid
  | 0x02 => names.dmsSvcCommands.find "DMS: Unknown command\n" msgid
  | 0x00 => getCtlCommand names msgid
  | 0x09 => names.voiceSvcCommands.find "Voice: Unknown command\n" msgid
  | 0x03 => names.nasSvcCommands.find "NAS: Unknown command\n" msgid
  | _ => ascii "Unknown command\n"

end

/-- What the printer prints. -/
inductive Line where
  | raw (pktsize : Nat) (direction : List UInt8) (bytes : List UInt8)
  | qmux (version : UInt8) (packetLength : Nat) (control service instanceId : UInt8)
  | qmiControl (ctlid transactionId : UInt8) (msgid length : Nat)
  | qmiService (ctlid : UInt8) (transactionId msgid length : Nat) (service : UInt8)
  | serviceName (service : UInt8)
  | messageId (msgid : Nat)
  | tlv (id : UInt8) (len : Nat)
  | data (value : List UInt8)
  | indication (result response : Nat)
  /-- The remaining size is too short for the header of a TLV. -/
  | tooShort
  /-- The length of a TLV is more than the size of the packet. -/
  | tooShortInLoop
  | qmiTooShort
  | qmuxTooShort
  | rule
  deriving DecidableEq, Repr

/-- `%.2x`. -/
def hex2 (value : UInt8) : List UInt8 := padded 2 48 (hexadecimal value.toNat)

/-- `%.4x`. -/
def hex4 (value : Nat) : List UInt8 := padded 4 48 (hexadecimal value)

/-- The text of a line. -/
def Line.text (names : Names) : Line → List UInt8
  | .raw pktsize direction bytes =>
      sprintf "RAW:\n - Length = %.4x\n - Direction = %s\ndata = [" [hex4 pktsize, direction] ++
        bytes.flatMap (fun byte => sprintf "%02x:" [hex2 byte]) ++ ascii "]\n"
  | .qmux version packetLength control service instanceId =>
      sprintf ("QMUX:\n - Version: %.2x\n - Length = %.4x\n - Control = %.2x\n" ++
          " - Service = %.2x\n - Client = %.2x\n\n")
        [hex2 version, hex4 packetLength, hex2 control, hex2 service, hex2 instanceId]
  | .qmiControl ctlid transactionId msgid length =>
      sprintf ("QMI (Control):\n - ctl/flags = %.2x\n - Transaction ID = %.2x\n" ++
          " - Message ID = %.4x (%s)\n - QMI Message size = %.4x\n")
        [hex2 ctlid, hex2 transactionId, hex4 msgid, getCtlCommand names msgid, hex4 length]
  | .qmiService ctlid transactionId msgid length service =>
      sprintf ("QMI (Service):\n - ctl/flags = %.2x\n - Transaction ID = %.4x\n" ++
          " - Message ID = %.4x (%s)\n - QMI Message size = %.4x\n")
        [hex2 ctlid, hex4 transactionId, hex4 msgid, getCommandDesc names service msgid,
          hex4 length]
  | .serviceName service => sprintf " - Service: %s\n" [getServiceName names service]
  | .messageId msgid => sprintf " - Message ID: 0x%.4x\n" [hex4 msgid]
  | .tlv id len => sprintf "  -> [Type]: %.2x\n   -> Len: %.4x\n   -> Data: " [hex2 id, hex4 len]
  | .data value => ((value.map hex2).intersperse (ascii ":")).flatten ++ ascii "\n"
  | .indication result response =>
      ascii "   -> QMI Result indication: " ++
        (if result = qmiResultFailure then ascii "Failed:" else ascii "Succeeded:") ++
        sprintf "Code 0x%.4x (%s)\n" [hex4 response, getQmiErrorString names response]
  | .tooShort =>
      sprintf "%s: Remaining size of the message is too short\n" [ascii "pretty_print_tlvs"]
  | .tooShortInLoop =>
      sprintf "%s loop: Remaining size of the message is too short\n" [ascii "pretty_print_tlvs"]
  | .qmiTooShort => ascii "QMI message is too short!\n"
  | .qmuxTooShort => ascii "QMUX message is too short!\n"
  | .rule => ascii "------\n"

/-- The line is one of a TLV. -/
def Line.isTlv : Line → Bool
  | .tlv _ _ | .data _ | .indication _ _ => true
  | _ => false

/-! ## The functions -/

/-- What has been printed, and the indices of the bytes that have been read for it. -/
structure Printing where
  lines : List Line
  reads : List Nat

/-- Something is printed behind what is there. -/
def Printing.print (printing : Printing) (lines : List Line) (reads : List Nat) : Printing :=
  ⟨printing.lines ++ lines, printing.reads ++ reads⟩

/-- The indices of `count` bytes from an offset on. -/
def indices (offset count : Nat) : List Nat := (List.range count).map (offset + ·)

/-- The bytes of a part of the packet. -/
def slice (bytes : Bytes) (offset count : Nat) : List UInt8 := (indices offset count).map bytes

section

variable (bytes : Bytes) (pktsize : Int)

/-- One round of the loop of `pretty_print_tlvs`. `curr_offset` is a `size_t`, with which `pktsize`
is compared as another one; the length of the TLV is compared with it as an `int`. -/
def prettyPrintTlvsBody (state : Nat × Printing) : Round (Nat × Printing) Printing :=
  let (currOffset, printing) := state
  if (currOffset + 3) % 2 ^ 32 > sizeT pktsize then .leave (printing.print [.tooShort] [])
  else
    let id := bytes currOffset
    let len := le16 bytes (currOffset + 1)
    let printing := printing.print [.tlv id len] (indices currOffset 3)
    if (len : Int) > pktsize then .leave (printing.print [.tooShortInLoop] [])
    else
      let next := (currOffset + (len + 1 + 2)) % 2 ^ 32
      let printing := printing.print [.data (slice bytes (currOffset + 3) len)]
        (indices (currOffset + 3) len)
      let printing :=
        if id = 0x02 ∧ len = 0x0004 then
          printing.print [.indication (le16 bytes (currOffset + 3)) (le16 bytes (currOffset + 5))]
            (indices (currOffset + 3) 4)
        else printing
      if next < sizeT pktsize then .again (next, printing) else .leave printing

/-- `pretty_print_tlvs(fd, initial_offset, service, msgid, buf, pktsize)`. -/
def prettyPrintTlvs (initialOffset : Nat) (service : UInt8) (msgid : Nat) : Option Printing :=
  run (prettyPrintTlvsBody bytes pktsize) (sizeT pktsize + 1)
    (initialOffset, ⟨[.serviceName service, .messageId msgid], []⟩)

/-- The TLVs behind a QMI header of this length. -/
def printTlvsOf (initialOffset msgid length : Nat) : Option Printing :=
  if length > 0 then prettyPrintTlvs bytes pktsize initialOffset (bytes 4) msgid
  else some ⟨[], []⟩

/-- The part of `pretty_print_qmi_pkt` behind the QMUX header. -/
def printQmi : Option Printing :=
  if bytes 4 = 0 ∧ 6 + 6 ≤ sizeT pktsize then
    (printTlvsOf bytes pktsize (6 + 6) (le16 bytes 8) (le16 bytes 10)).map fun tlvs =>
      Printing.print
        ⟨[.qmiControl (bytes 6) (bytes 7) (le16 bytes 8) (le16 bytes 10)], indices 6 6⟩
        tlvs.lines tlvs.reads
  else if bytes 4 ≠ 0 ∧ 6 + 7 ≤ sizeT pktsize then
    (printTlvsOf bytes pktsize (6 + 7) (le16 bytes 9) (le16 bytes 11)).map fun tlvs =>
      Printing.print
        ⟨[.qmiService (bytes 6) (le16 bytes 7) (le16 bytes 9) (le16 bytes 11) (bytes 4)],
          indices 6 7⟩
        tlvs.lines tlvs.reads
  else some ⟨[.qmiTooShort], []⟩

/-- The part of `pretty_print_qmi_pkt` behind the raw bytes. -/
def printQmux : Option Printing :=
  if sizeT pktsize > 6 then
    (printQmi bytes pktsize).map fun qmi =>
      Printing.print
        ⟨[.qmux (bytes 0) (le16 bytes 1) (bytes 3) (bytes 4) (bytes 5)], indices 0 6⟩
        qmi.lines qmi.reads
  else some ⟨[.qmuxTooShort], []⟩

/-- `pretty_print_qmi_pkt(direction, buf, pktsize)`, without the file that it prints to. -/
def prettyPrintQmiPkt (direction : List UInt8) : Option Printing :=
  (printQmux bytes pktsize).map fun qmux =>
    (Printing.print
      ⟨[.raw (sizeT pktsize) direction (slice bytes 0 pktsize.toNat)], indices 0 pktsize.toNat⟩
      qmux.lines qmux.reads).print [.rule] []

end

/-! ## The property -/

/-- The lines of a TLV. -/
def tlvLines (tlv : Tlv) : List Line :=
  [.tlv tlv.id tlv.value.length, .data tlv.value] ++
    if tlv.IsResult then [.indication (le16 (ofList tlv.value) 0) (le16 (ofList tlv.value) 2)]
    else []

/-- The printer returns, reads nothing but the packet, and prints these TLVs and no other ones. -/
def PrintsRight (size : Nat) (printed : Option Printing) (isPacket : List Tlv → Prop) : Prop :=
  ∃ printing, printed = some printing ∧ (∀ i ∈ printing.reads, i < size) ∧
    ∀ tlvs, isPacket tlvs → printing.lines.filter Line.isTlv = tlvs.flatMap tlvLines

/-- The bytes before the TLVs: a QMUX header, and a QMI header that is shorter without a service. -/
def headersSize (bytes : Bytes) : Nat := if bytes 4 = 0 then 6 + 6 else 6 + 7

/-- The packet consists of its headers and the TLVs, and the QMI header has their length. -/
structure WellFormedPacket (bytes : Bytes) (size : Nat) (tlvs : List Tlv) : Prop where
  holds : Holds bytes (headersSize bytes) (encodeTlvs tlvs)
  size_eq : size = headersSize bytes + (encodeTlvs tlvs).length
  length_eq : le16 bytes (headersSize bytes - 2) = (encodeTlvs tlvs).length

/-- Wherever TLVs that follow one another from the offset on end, the next one is inside the packet,
or its length is more than the size of the packet. -/
def TlvsFit (bytes : Bytes) (size offset : Nat) : Prop :=
  ∀ tlvs, Holds bytes offset (encodeTlvs tlvs) → offset + (encodeTlvs tlvs).length + 3 ≤ size →
    offset + (encodeTlvs tlvs).length + 3 +
        le16 bytes (offset + (encodeTlvs tlvs).length + 1) ≤ size ∨
      size < le16 bytes (offset + (encodeTlvs tlvs).length + 1)

/-- The packet is too short for TLVs, or it has none according to its QMI header, or they fit. -/
def PacketFits (bytes : Bytes) (size : Nat) : Prop :=
  headersSize bytes ≤ size → 0 < le16 bytes (headersSize bytes - 2) →
    TlvsFit bytes size (headersSize bytes)

/-! ## TLVs in memory -/

variable {bytes : Bytes} {size offset : Nat}

theorem mem_indices {count i : Nat} :
    i ∈ indices offset count ↔ offset ≤ i ∧ i < offset + count := by
  rw [indices, List.mem_map]
  constructor
  · rintro ⟨k, hk, rfl⟩
    rw [List.mem_range] at hk
    omega
  · intro h
    exact ⟨i - offset, List.mem_range.2 (by omega), by omega⟩

theorem length_slice (bytes : Bytes) (offset count : Nat) :
    (slice bytes offset count).length = count := by
  simp [slice, indices]

theorem holds_slice (bytes : Bytes) (offset count : Nat) :
    Holds bytes offset (slice bytes offset count) := by
  intro i hi
  simp [slice, indices]

/-- What memory holds is what is taken from it. -/
theorem slice_of_holds {value : List UInt8} (h : Holds bytes offset value) :
    slice bytes offset value.length = value := by
  refine List.ext_getElem (length_slice _ _ _) fun i hi hvalue => ?_
  rw [← h i hvalue]
  exact (holds_slice bytes offset value.length i hi).symm

theorem le16_slice {count k : Nat} (h : k + 1 < count) :
    le16 (ofList (slice bytes offset count)) k = le16 bytes (offset + k) := by
  have hbyte : ∀ i < count, ofList (slice bytes offset count) i = bytes (offset + i) := by
    intro i hi
    have hlt : i < (slice bytes offset count).length := by rwa [length_slice]
    rw [ofList, List.getD_eq_getElem?_getD, List.getElem?_eq_getElem hlt, Option.getD_some]
    exact (holds_slice bytes offset count i hlt).symm
  rw [le16, le16, hbyte k (by omega), hbyte (k + 1) h, Nat.add_assoc]

/-- The TLV at an offset, whatever the memory holds there. -/
def tlvAt (bytes : Bytes) (offset : Nat) : Tlv where
  id := bytes offset
  value := slice bytes (offset + 3) (le16 bytes (offset + 1))
  length_lt := by
    rw [length_slice]
    exact Sms.le16_lt bytes (offset + 1)

theorem size_tlv_at : (tlvAt bytes offset).size = 3 + le16 bytes (offset + 1) := by
  rw [Tlv.size, tlvAt, length_slice]

theorem holds_tlv_at : Holds bytes offset (tlvAt bytes offset).encode := by
  have hlow := (bytes (offset + 1)).toNat_lt
  have hhigh := (bytes (offset + 1 + 1)).toNat_lt
  have hlength : (tlvAt bytes offset).value.length = le16 bytes (offset + 1) := length_slice _ _ _
  rw [Tlv.encode, hlength, holds_cons, holds_cons, holds_cons]
  refine ⟨rfl, ?_, ?_, holds_slice _ _ _⟩
  · apply UInt8.toNat_inj.1
    rw [UInt8.toNat_ofNat', le16]
    omega
  · apply UInt8.toNat_inj.1
    rw [UInt8.toNat_ofNat', le16]
    omega

/-- Memory that holds a TLV has it at that offset. -/
theorem tlv_at_of_holds {tlv : Tlv} {rest : List Tlv}
    (h : Holds bytes offset (encodeTlvs (tlv :: rest))) : tlvAt bytes offset = tlv := by
  obtain ⟨hid, hlength, hvalue, -⟩ := holds_encode_tlvs_cons h
  obtain ⟨id, value, hbound⟩ := tlv
  have hslice := slice_of_holds hvalue
  simp only [tlvAt, Tlv.mk.injEq]
  exact ⟨hid, by rw [hlength]; exact hslice⟩

/-! ## TLVs that fit -/

theorem tlvs_fit_of_short (h : size < offset + 3) : TlvsFit bytes size offset := by
  intro tlvs _ hroom
  omega

/-- Behind a TLV that is longer than the packet there are no other ones. -/
theorem tlvs_fit_of_long (h : size < le16 bytes (offset + 1)) : TlvsFit bytes size offset := by
  intro tlvs hholds hroom
  cases tlvs with
  | nil => exact .inr h
  | cons tlv rest =>
      have hlength := (holds_encode_tlvs_cons hholds).2.1
      rw [length_encode_tlvs_cons, Tlv.size] at hroom
      omega

theorem not_tlvs_fit (hroom : offset + 3 ≤ size) (hlen : le16 bytes (offset + 1) ≤ size)
    (hbehind : size < offset + 3 + le16 bytes (offset + 1)) : ¬ TlvsFit bytes size offset := by
  intro h
  have hnext := h [] (holds_nil _ _) hroom
  simp only [encodeTlvs, List.flatMap_nil, List.length_nil, Nat.add_zero] at hnext
  omega

/-- A TLV that fits is followed by the others. -/
theorem tlvs_fit_step (hinside : offset + 3 + le16 bytes (offset + 1) ≤ size) :
    TlvsFit bytes size offset ↔ TlvsFit bytes size (offset + 3 + le16 bytes (offset + 1)) := by
  constructor
  · intro h tlvs hholds hroom
    have hlength : (encodeTlvs (tlvAt bytes offset :: tlvs)).length =
        3 + le16 bytes (offset + 1) + (encodeTlvs tlvs).length := by
      rw [length_encode_tlvs_cons, size_tlv_at]
    have hall : Holds bytes offset (encodeTlvs (tlvAt bytes offset :: tlvs)) := by
      rw [encode_tlvs_cons, holds_append, Tlv.length_encode, size_tlv_at, ← Nat.add_assoc]
      exact ⟨holds_tlv_at, hholds⟩
    have hnext := h _ hall (by omega)
    rw [hlength, ← Nat.add_assoc, ← Nat.add_assoc] at hnext
    exact hnext
  · intro h tlvs hholds hroom
    cases tlvs with
    | nil => exact .inl hinside
    | cons tlv rest =>
        obtain ⟨-, hlength, -, hrest⟩ := holds_encode_tlvs_cons hholds
        rw [Tlv.size, ← hlength, ← Nat.add_assoc] at hrest
        have hend : offset + (encodeTlvs (tlv :: rest)).length =
            offset + 3 + le16 bytes (offset + 1) + (encodeTlvs rest).length := by
          rw [length_encode_tlvs_cons, Tlv.size, hlength]
          omega
        rw [hend] at hroom ⊢
        exact h rest hrest hroom

/-- TLVs up to the end of the packet fit. -/
theorem tlvs_fit_of_holds {tlvs : List Tlv} (h : Holds bytes offset (encodeTlvs tlvs))
    (hsize : size = offset + (encodeTlvs tlvs).length) : TlvsFit bytes size offset := by
  induction tlvs generalizing offset with
  | nil =>
      have hsize : size = offset := hsize
      exact tlvs_fit_of_short (by omega)
  | cons tlv rest ih =>
      obtain ⟨-, hlength, -, hrest⟩ := holds_encode_tlvs_cons h
      rw [Tlv.size, ← hlength, ← Nat.add_assoc] at hrest
      rw [length_encode_tlvs_cons, Tlv.size] at hsize
      rw [tlvs_fit_step (by omega)]
      exact ih hrest (by omega)

theorem WellFormedPacket.fits {tlvs : List Tlv} (h : WellFormedPacket bytes size tlvs) :
    PacketFits bytes size :=
  fun _ _ => tlvs_fit_of_holds h.holds h.size_eq

/-! ## The loop -/

theorem size_t_of_nat (hsize : size < 2 ^ 31) : sizeT size = size := by
  unfold sizeT
  omega

theorem print_print (printing : Printing) (first second : List Line) (reads more : List Nat) :
    (printing.print first reads).print second more =
      printing.print (first ++ second) (reads ++ more) := by
  simp only [Printing.print, List.append_assoc]

/-- The bytes that are read for a TLV. -/
def tlvReads (offset : Nat) (tlv : Tlv) : List Nat :=
  indices offset 3 ++ indices (offset + 3) tlv.value.length ++
    if tlv.IsResult then indices (offset + 3) 4 else []

variable {printing : Printing}

theorem body_short (hsize : size < 2 ^ 31) (hoffset : offset + 3 < 2 ^ 32)
    (hshort : size < offset + 3) :
    prettyPrintTlvsBody bytes size (offset, printing) = .leave (printing.print [.tooShort] []) := by
  rw [prettyPrintTlvsBody, size_t_of_nat hsize, Nat.mod_eq_of_lt hoffset]
  exact if_pos hshort

theorem body_long (hsize : size < 2 ^ 31) (hroom : offset + 3 ≤ size)
    (hlong : size < le16 bytes (offset + 1)) :
    prettyPrintTlvsBody bytes size (offset, printing) =
      .leave (printing.print [.tlv (bytes offset) (le16 bytes (offset + 1)), .tooShortInLoop]
        (indices offset 3)) := by
  have hlong : (le16 bytes (offset + 1) : Int) > size := by omega
  have hroom : ¬ (offset + 3) % 2 ^ 32 > size := by omega
  simp only [prettyPrintTlvsBody, size_t_of_nat hsize, if_neg hroom, if_pos hlong, print_print,
    List.singleton_append, List.append_nil]

/-- The lines of the TLV at an offset, with the one of a result. -/
theorem printed_tlv_eq :
    (if bytes offset = 0x02 ∧ le16 bytes (offset + 1) = 0x0004 then
      printing.print
        ([.tlv (bytes offset) (le16 bytes (offset + 1)),
            .data (slice bytes (offset + 3) (le16 bytes (offset + 1)))] ++
          [.indication (le16 bytes (offset + 3)) (le16 bytes (offset + 5))])
        (indices offset 3 ++ indices (offset + 3) (le16 bytes (offset + 1)) ++
          indices (offset + 3) 4)
    else
      printing.print
        [.tlv (bytes offset) (le16 bytes (offset + 1)),
          .data (slice bytes (offset + 3) (le16 bytes (offset + 1)))]
        (indices offset 3 ++ indices (offset + 3) (le16 bytes (offset + 1)))) =
      printing.print (tlvLines (tlvAt bytes offset)) (tlvReads offset (tlvAt bytes offset)) := by
  have hlength : (tlvAt bytes offset).value.length = le16 bytes (offset + 1) := length_slice _ _ _
  have hresult : (tlvAt bytes offset).IsResult ↔
      bytes offset = 0x02 ∧ le16 bytes (offset + 1) = 0x0004 := by
    rw [Tlv.IsResult, hlength]
    rfl
  rw [tlvLines, tlvReads, hlength]
  by_cases h : bytes offset = 0x02 ∧ le16 bytes (offset + 1) = 0x0004
  · have hfirst : le16 (ofList (tlvAt bytes offset).value) 0 = le16 bytes (offset + 3) :=
      le16_slice (by omega)
    have hsecond : le16 (ofList (tlvAt bytes offset).value) 2 = le16 bytes (offset + 5) :=
      le16_slice (by omega)
    rw [if_pos h, if_pos (hresult.2 h), if_pos (hresult.2 h), hfirst, hsecond]
    rfl
  · rw [if_neg h, if_neg fun hr => h (hresult.1 hr), if_neg fun hr => h (hresult.1 hr),
      List.append_nil, List.append_nil]
    rfl

theorem body_tlv (hsize : size < 2 ^ 31) (hroom : offset + 3 ≤ size)
    (hlen : le16 bytes (offset + 1) ≤ size) :
    prettyPrintTlvsBody bytes size (offset, printing) =
      if offset + 3 + le16 bytes (offset + 1) < size then
        .again (offset + 3 + le16 bytes (offset + 1),
          printing.print (tlvLines (tlvAt bytes offset)) (tlvReads offset (tlvAt bytes offset)))
      else
        .leave (printing.print (tlvLines (tlvAt bytes offset))
          (tlvReads offset (tlvAt bytes offset))) := by
  have hlen : ¬ (le16 bytes (offset + 1) : Int) > size := by omega
  have hroom : ¬ (offset + 3) % 2 ^ 32 > size := by omega
  have hbound := Sms.le16_lt bytes (offset + 1)
  have hnext : (offset + (le16 bytes (offset + 1) + 1 + 2)) % 2 ^ 32 =
      offset + 3 + le16 bytes (offset + 1) := by omega
  simp only [prettyPrintTlvsBody, size_t_of_nat hsize, if_neg hroom, if_neg hlen, print_print,
    hnext, printed_tlv_eq, List.singleton_append]

/-- The bytes of a TLV are read, and no other ones. -/
theorem tlv_reads_inside (hroom : offset + 3 ≤ size) :
    (∀ i ∈ tlvReads offset (tlvAt bytes offset), i < size) ↔
      offset + 3 + le16 bytes (offset + 1) ≤ size := by
  have hlength : (tlvAt bytes offset).value.length = le16 bytes (offset + 1) := length_slice _ _ _
  constructor
  · intro h
    by_contra hbehind
    have hlast := h (offset + 3 + le16 bytes (offset + 1) - 1) (by
      rw [tlvReads, List.mem_append, List.mem_append, mem_indices, mem_indices, hlength]
      omega)
    omega
  · intro h i hi
    rw [tlvReads, List.mem_append, List.mem_append, mem_indices, mem_indices, hlength] at hi
    obtain (hheader | hvalue) | hresult := hi
    · omega
    · omega
    · split_ifs at hresult with hr
      · have hfour : (tlvAt bytes offset).value.length = 4 := hr.2
        rw [mem_indices] at hresult
        omega
      · cases hresult

theorem filter_tlv_lines (tlv : Tlv) : (tlvLines tlv).filter Line.isTlv = tlvLines tlv := by
  rw [List.filter_eq_self, tlvLines]
  intro line hline
  split_ifs at hline
  · simp only [List.cons_append, List.nil_append, List.mem_cons, List.not_mem_nil,
      or_false] at hline
    rcases hline with rfl | rfl | rfl <;> rfl
  · simp only [List.append_nil, List.mem_cons, List.not_mem_nil, or_false] at hline
    rcases hline with rfl | rfl <;> rfl

/-- What the printer does from an offset on: it reads nothing behind the packet exactly if the TLVs
fit, and prints those of which the rest of the packet consists. -/
structure PrintsFrom (bytes : Bytes) (size offset : Nat) (lines : List Line) (reads : List Nat) :
    Prop where
  inside : (∀ i ∈ reads, i < size) ↔ TlvsFit bytes size offset
  tlvs : ∀ tlvs, Holds bytes offset (encodeTlvs tlvs) →
    size = offset + (encodeTlvs tlvs).length → lines.filter Line.isTlv = tlvs.flatMap tlvLines

theorem encode_tlvs_eq_nil {tlvs : List Tlv} (h : (encodeTlvs tlvs).length = 0) : tlvs = [] := by
  cases tlvs with
  | nil => rfl
  | cons tlv rest =>
      rw [length_encode_tlvs_cons, Tlv.size] at h
      omega

theorem prints_from_short (hshort : size < offset + 3) :
    PrintsFrom bytes size offset [.tooShort] [] where
  inside := iff_of_true (fun _ h => absurd h List.not_mem_nil) (tlvs_fit_of_short hshort)
  tlvs tlvs _ hsize := by
    cases tlvs with
    | nil => rfl
    | cons tlv rest =>
        rw [length_encode_tlvs_cons, Tlv.size] at hsize
        omega

theorem prints_from_long (hroom : offset + 3 ≤ size) (hlong : size < le16 bytes (offset + 1)) :
    PrintsFrom bytes size offset [.tlv (bytes offset) (le16 bytes (offset + 1)), .tooShortInLoop]
      (indices offset 3) where
  inside := by
    refine iff_of_true (fun i hi => ?_) (tlvs_fit_of_long hlong)
    rw [mem_indices] at hi
    omega
  tlvs tlvs hholds hsize := by
    cases tlvs with
    | nil =>
        have hsize : size = offset := hsize
        omega
    | cons tlv rest =>
        have hlength := (holds_encode_tlvs_cons hholds).2.1
        rw [length_encode_tlvs_cons, Tlv.size] at hsize
        omega

/-- The last TLV that the loop comes to. -/
theorem prints_from_last (hroom : offset + 3 ≤ size) (hlen : le16 bytes (offset + 1) ≤ size)
    (hlast : size ≤ offset + 3 + le16 bytes (offset + 1)) :
    PrintsFrom bytes size offset (tlvLines (tlvAt bytes offset))
      (tlvReads offset (tlvAt bytes offset)) where
  inside := by
    rw [tlv_reads_inside hroom]
    rcases Nat.lt_or_eq_of_le hlast with hbehind | hend
    · exact iff_of_false (by omega) (not_tlvs_fit hroom hlen hbehind)
    · rw [tlvs_fit_step hend.ge]
      exact iff_of_true hend.ge (tlvs_fit_of_short (by omega))
  tlvs tlvs hholds hsize := by
    cases tlvs with
    | nil =>
        have hsize : size = offset := hsize
        omega
    | cons tlv rest =>
        have hlength := (holds_encode_tlvs_cons hholds).2.1
        rw [length_encode_tlvs_cons, Tlv.size] at hsize
        obtain rfl : rest = [] := encode_tlvs_eq_nil (by omega)
        rw [tlv_at_of_holds hholds, filter_tlv_lines, List.flatMap_singleton]

/-- A TLV that is followed by other ones. -/
theorem PrintsFrom.behind {lines : List Line} {reads : List Nat}
    (h : PrintsFrom bytes size (offset + 3 + le16 bytes (offset + 1)) lines reads)
    (hinside : offset + 3 + le16 bytes (offset + 1) ≤ size) :
    PrintsFrom bytes size offset (tlvLines (tlvAt bytes offset) ++ lines)
      (tlvReads offset (tlvAt bytes offset) ++ reads) where
  inside := by
    have hroom : offset + 3 ≤ size := by omega
    rw [List.forall_mem_append, tlv_reads_inside hroom, h.inside, tlvs_fit_step hinside]
    exact and_iff_right hinside
  tlvs tlvs hholds hsize := by
    cases tlvs with
    | nil =>
        have hsize : size = offset := hsize
        omega
    | cons tlv rest =>
        obtain ⟨-, hlength, -, hrest⟩ := holds_encode_tlvs_cons hholds
        rw [Tlv.size, ← hlength, ← Nat.add_assoc] at hrest
        rw [length_encode_tlvs_cons, Tlv.size] at hsize
        rw [List.filter_append, tlv_at_of_holds hholds, filter_tlv_lines, List.flatMap_cons,
          h.tlvs rest hrest (by omega)]

/-- The loop returns from every offset. -/
theorem prints_from (hsize : size < 2 ^ 31) (fuel : Nat) (hoffset : offset + 3 < 2 ^ 32)
    (hfuel : size ≤ offset + fuel) :
    ∃ lines reads,
      run (prettyPrintTlvsBody bytes size) (fuel + 1) (offset, printing) =
        some (printing.print lines reads) ∧
      PrintsFrom bytes size offset lines reads := by
  induction fuel generalizing offset printing with
  | zero =>
      have hshort : size < offset + 3 := by omega
      refine ⟨_, _, ?_, prints_from_short hshort⟩
      rw [run, body_short hsize hoffset hshort]
  | succ fuel ih =>
      by_cases hshort : size < offset + 3
      · refine ⟨_, _, ?_, prints_from_short hshort⟩
        rw [run, body_short hsize hoffset hshort]
      have hroom : offset + 3 ≤ size := Nat.not_lt.1 hshort
      by_cases hlong : size < le16 bytes (offset + 1)
      · refine ⟨_, _, ?_, prints_from_long hroom hlong⟩
        rw [run, body_long hsize hroom hlong]
      have hlen : le16 bytes (offset + 1) ≤ size := Nat.not_lt.1 hlong
      by_cases hnext : offset + 3 + le16 bytes (offset + 1) < size
      · obtain ⟨lines, reads, hrun, hprints⟩ := @ih (offset + 3 + le16 bytes (offset + 1))
          (printing.print (tlvLines (tlvAt bytes offset)) (tlvReads offset (tlvAt bytes offset)))
          (by omega) (by omega)
        refine ⟨_, _, ?_, hprints.behind hnext.le⟩
        rw [run, body_tlv hsize hroom hlen, if_pos hnext, ← print_print]
        exact hrun
      · refine ⟨_, _, ?_, prints_from_last hroom hlen (Nat.not_lt.1 hnext)⟩
        rw [run, body_tlv hsize hroom hlen, if_neg hnext]

/-! ## The packet -/

section Packet

variable {isPacket : List Tlv → Prop} {lines : List Line} {reads : List Nat}

theorem tlvs_printed_iff (hsize : size < 2 ^ 31) (hoffset : offset + 3 < 2 ^ 32)
    (service : UInt8) (msgid : Nat)
    (hpacket : ∀ tlvs, isPacket tlvs → Holds bytes offset (encodeTlvs tlvs) ∧
      size = offset + (encodeTlvs tlvs).length) :
    PrintsRight size (prettyPrintTlvs bytes size offset service msgid) isPacket ↔
      TlvsFit bytes size offset := by
  obtain ⟨lines, reads, hrun, hprints⟩ := @prints_from bytes size offset
    ⟨[.serviceName service, .messageId msgid], []⟩ hsize size hoffset (Nat.le_add_left _ _)
  rw [prettyPrintTlvs, size_t_of_nat hsize, hrun, ← hprints.inside]
  constructor
  · rintro ⟨printing, hprinting, hreads, -⟩
    cases hprinting
    exact hreads
  · intro hreads
    refine ⟨_, rfl, hreads, fun tlvs h => ?_⟩
    obtain ⟨hholds, hlength⟩ := hpacket tlvs h
    exact hprints.tlvs tlvs hholds hlength

/-- Something is printed around the rest: no line of a TLV, and nothing from behind the packet. -/
theorem prints_right_map {printed : Option Printing} {around : Printing → Printing}
    (hlines : ∀ rest, (around rest).lines.filter Line.isTlv = rest.lines.filter Line.isTlv)
    (hreads : ∀ rest, (∀ i ∈ (around rest).reads, i < size) ↔ ∀ i ∈ rest.reads, i < size) :
    PrintsRight size (printed.map around) isPacket ↔ PrintsRight size printed isPacket := by
  cases printed with
  | none => exact iff_of_false (fun ⟨_, h, _⟩ => nomatch h) fun ⟨_, h, _⟩ => nomatch h
  | some rest =>
      constructor
      · rintro ⟨printing, hprinting, hinside, htlvs⟩
        cases hprinting
        exact ⟨rest, rfl, (hreads rest).1 hinside, fun tlvs h =>
          (hlines rest).symm.trans (htlvs tlvs h)⟩
      · rintro ⟨printing, hprinting, hinside, htlvs⟩
        cases hprinting
        exact ⟨_, rfl, (hreads rest).2 hinside, fun tlvs h => (hlines rest).trans (htlvs tlvs h)⟩

/-- Headers are printed before the rest. -/
theorem prints_right_behind {printed : Option Printing} (hreads : ∀ i ∈ reads, i < size)
    (hlines : lines.filter Line.isTlv = []) :
    PrintsRight size (printed.map fun rest => Printing.print ⟨lines, reads⟩ rest.lines rest.reads)
        isPacket ↔
      PrintsRight size printed isPacket := by
  refine prints_right_map (fun rest => ?_) fun rest => ?_
  · show (lines ++ rest.lines).filter Line.isTlv = _
    rw [List.filter_append, hlines, List.nil_append]
  · show (∀ i ∈ reads ++ rest.reads, i < size) ↔ _
    rw [List.forall_mem_append]
    exact and_iff_right hreads

/-- Nothing that is read is printed behind the rest. -/
theorem prints_right_before {printed : Option Printing} (hlines : lines.filter Line.isTlv = []) :
    PrintsRight size (printed.map fun rest => rest.print lines []) isPacket ↔
      PrintsRight size printed isPacket := by
  refine prints_right_map (fun rest => ?_) fun rest => ?_
  · show (rest.lines ++ lines).filter Line.isTlv = _
    rw [List.filter_append, hlines, List.append_nil]
  · show (∀ i ∈ rest.reads ++ [], i < size) ↔ _
    rw [List.append_nil]

/-- Something without a TLV is printed for a packet that has none. -/
theorem prints_right_some (hlines : lines.filter Line.isTlv = [])
    (hnone : ∀ tlvs, isPacket tlvs → tlvs = []) :
    PrintsRight size (some ⟨lines, []⟩) isPacket := by
  refine ⟨_, rfl, fun i hi => absurd hi List.not_mem_nil, fun tlvs h => ?_⟩
  rw [hnone tlvs h, hlines]
  rfl

theorem indices_inside {count : Nat} (h : offset + count ≤ size) :
    ∀ i ∈ indices offset count, i < size := by
  intro i hi
  rw [mem_indices] at hi
  omega

/-- The TLVs are printed if the length in the QMI header says that there are some. -/
theorem print_tlvs_of_iff (hsize : size < 2 ^ 31) (msgid : Nat) :
    PrintsRight size (printTlvsOf bytes size (headersSize bytes) msgid
        (le16 bytes (headersSize bytes - 2))) (WellFormedPacket bytes size) ↔
      (0 < le16 bytes (headersSize bytes - 2) → TlvsFit bytes size (headersSize bytes)) := by
  have hheaders : headersSize bytes ≤ 13 := by
    unfold headersSize
    split_ifs <;> decide
  rw [printTlvsOf]
  by_cases hlength : le16 bytes (headersSize bytes - 2) > 0
  · rw [if_pos hlength, forall_prop_of_true hlength]
    exact tlvs_printed_iff hsize (by omega) _ _ fun tlvs h => ⟨h.holds, h.size_eq⟩
  · rw [if_neg hlength]
    refine iff_of_true (prints_right_some rfl fun tlvs h => ?_) fun h => absurd h hlength
    have hempty := h.length_eq
    exact encode_tlvs_eq_nil (by omega)

/-- A packet that is too short for its headers is no well-formed one. -/
theorem prints_right_too_short (hlines : lines.filter Line.isTlv = [])
    (hshort : size < headersSize bytes) :
    PrintsRight size (some ⟨lines, []⟩) (WellFormedPacket bytes size) ↔ PacketFits bytes size := by
  refine iff_of_true (prints_right_some hlines fun tlvs h => ?_) fun h => by omega
  have hsize := h.size_eq
  omega

theorem print_qmi_iff (hsize : size < 2 ^ 31) :
    PrintsRight size (printQmi bytes size) (WellFormedPacket bytes size) ↔
      PacketFits bytes size := by
  rw [printQmi, size_t_of_nat hsize]
  by_cases hservice : bytes 4 = 0
  · have hheaders : headersSize bytes = 6 + 6 := if_pos hservice
    by_cases hroom : 6 + 6 ≤ size
    · have htlvs := @print_tlvs_of_iff bytes size hsize (le16 bytes 8)
      rw [if_pos ⟨hservice, hroom⟩, prints_right_behind (indices_inside (by omega)) rfl,
        PacketFits, forall_prop_of_true (by omega : headersSize bytes ≤ size), ← htlvs, hheaders]
    · rw [if_neg fun h => hroom h.2, if_neg fun h => h.1 hservice]
      exact prints_right_too_short rfl (by omega)
  · have hheaders : headersSize bytes = 6 + 7 := if_neg hservice
    rw [if_neg fun h => hservice h.1]
    by_cases hroom : 6 + 7 ≤ size
    · have htlvs := @print_tlvs_of_iff bytes size hsize (le16 bytes 9)
      rw [if_pos ⟨hservice, hroom⟩, prints_right_behind (indices_inside (by omega)) rfl,
        PacketFits, forall_prop_of_true (by omega : headersSize bytes ≤ size), ← htlvs, hheaders]
    · rw [if_neg fun h => hroom h.2]
      exact prints_right_too_short rfl (by omega)

theorem print_qmux_iff (hsize : size < 2 ^ 31) :
    PrintsRight size (printQmux bytes size) (WellFormedPacket bytes size) ↔
      PacketFits bytes size := by
  rw [printQmux, size_t_of_nat hsize]
  by_cases hroom : size > 6
  · rw [if_pos hroom, prints_right_behind (indices_inside (by omega)) rfl, print_qmi_iff hsize]
  · rw [if_neg hroom]
    refine prints_right_too_short rfl ?_
    unfold headersSize
    split_ifs <;> omega

theorem print_packet_iff (hsize : size < 2 ^ 31) (direction : List UInt8) :
    PrintsRight size (prettyPrintQmiPkt bytes size direction) (WellFormedPacket bytes size) ↔
      PacketFits bytes size := by
  have hraw : ∀ i ∈ indices 0 (size : Int).toNat, i < size := indices_inside (by simp)
  have hparts : prettyPrintQmiPkt bytes size direction =
      ((printQmux bytes size).map fun qmux =>
        Printing.print
          ⟨[.raw (sizeT size) direction (slice bytes 0 (size : Int).toNat)],
            indices 0 (size : Int).toNat⟩
          qmux.lines qmux.reads).map fun rest => rest.print [.rule] [] := by
    rw [Option.map_map]
    rfl
  rw [hparts, prints_right_before rfl, prints_right_behind hraw rfl, print_qmux_iff hsize]

/-- For every packet of an `int` of bytes both functions return. They read nothing but the packet
exactly if each TLV that they come to is inside it, or longer than the whole packet. This is so in a
well-formed packet, of which they print the TLVs one after the other. -/
theorem printer_right_iff (bytes : Bytes) (pktsize : Int) (hpos : 0 ≤ pktsize)
    (hint : pktsize < 2 ^ 31) :
    (∀ direction,
      PrintsRight pktsize.toNat (prettyPrintQmiPkt bytes pktsize direction)
          (WellFormedPacket bytes pktsize.toNat) ↔
        PacketFits bytes pktsize.toNat) ∧
      (∀ (initialOffset : Nat) (service : UInt8) (msgid : Nat), initialOffset + 3 < 2 ^ 32 →
        (PrintsRight pktsize.toNat (prettyPrintTlvs bytes pktsize initialOffset service msgid)
            (fun tlvs => Holds bytes initialOffset (encodeTlvs tlvs) ∧
              pktsize.toNat = initialOffset + (encodeTlvs tlvs).length) ↔
          TlvsFit bytes pktsize.toNat initialOffset)) ∧
      ∀ tlvs, WellFormedPacket bytes pktsize.toNat tlvs → PacketFits bytes pktsize.toNat := by
  obtain ⟨size, rfl⟩ := Int.eq_ofNat_of_zero_le hpos
  have hsize : size < 2 ^ 31 := by omega
  refine ⟨print_packet_iff hsize, fun initialOffset service msgid hoffset => ?_,
    fun tlvs h => h.fits⟩
  exact tlvs_printed_iff hsize hoffset service msgid fun _ h => h

end Packet

/-- The headers of a NAS packet with TLVs of `length` bytes. -/
def nasHeaders (length : UInt8) : List UInt8 :=
  [0x01, 12 + length, 0, 0x80, 0x03, 0x01, 0x02, 7, 0, 0x4d, 0, length, 0]

/-- The TLVs of `sampleTlvs` are printed. -/
theorem sample_tlvs_printed :
    PrintsRight 27 (prettyPrintQmiPkt (ofList (nasHeaders 14 ++ encodeTlvs sampleTlvs)) 27
        (ascii "Baseband --> Host"))
      (WellFormedPacket (ofList (nasHeaders 14 ++ encodeTlvs sampleTlvs)) 27) := by
  have hpacket : WellFormedPacket (ofList (nasHeaders 14 ++ encodeTlvs sampleTlvs)) 27
      sampleTlvs := ⟨by unfold Holds; decide, by decide, by decide⟩
  exact ((printer_right_iff _ 27 (by decide) (by decide)).1 _).2 hpacket.fits

/-- A TLV of five bytes, of which one is in the packet. -/
def cutPacket : Bytes := ofList (nasHeaders 4 ++ [0x10, 5, 0, 0xff])

/-- Four bytes behind the packet are printed as those of its TLV. -/
theorem cut_packet_read_behind :
    ¬ ∀ (bytes : Bytes) (pktsize : Int), 0 ≤ pktsize → pktsize < 2 ^ 31 →
      (∀ direction,
        PrintsRight pktsize.toNat (prettyPrintQmiPkt bytes pktsize direction)
          (WellFormedPacket bytes pktsize.toNat)) ∧
      ∀ (initialOffset : Nat) (service : UInt8) (msgid : Nat), initialOffset + 3 < 2 ^ 32 →
        PrintsRight pktsize.toNat (prettyPrintTlvs bytes pktsize initialOffset service msgid)
          fun tlvs => Holds bytes initialOffset (encodeTlvs tlvs) ∧
            pktsize.toNat = initialOffset + (encodeTlvs tlvs).length := by
  intro h
  have hprinted := (h cutPacket (17 : Nat) (by decide) (by decide)).1 (ascii "Baseband --> Host")
  have hfits := (print_packet_iff (by decide) _).1 hprinted (by decide) (by decide)
  exact not_tlvs_fit (by decide) (by decide) (by decide) hfits

end OpenQti.Qmi
