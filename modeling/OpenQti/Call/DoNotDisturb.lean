import OpenQti.Call.Steps
import OpenQti.Qmi.TlvPacket

/-!
# Incoming calls in the do-not-disturb mode

In the do-not-disturb mode the host should not hear of incoming calls. The three announcements of
the baseband are looked at by three handlers. That of `VO_SVC_CALL_STATUS` reads the remote number
before it looks at the mode: it gives up if there is none, as for a caller who withholds the number,
and it copies the number into an array of 20 bytes. `incoming_calls_hidden_iff` says that all other
announcements are kept from the host.
-/

namespace OpenQti.Call

open Bytes Qmi Machine Except
open Sms (PacketAction qmiMsgid)

/-- A well-formed packet of the voice service. -/
structure CallPacket where
  bytes : Bytes
  len : Nat
  tlvs : List Qmi.Tlv
  wellFormed : WellFormed bytes len tlvs
  short : len ≤ 65535

/-- The first TLV with this id is a `struct call_status_meta` of an incoming call. -/
def DescribesIncoming (tlvs : List Qmi.Tlv) (tlvid : UInt8) : Prop :=
  ∃ tlv, tlvs.find? (fun tlv => tlv.id = tlvid) = some tlv ∧
    tlv.value[4]? = some CallDirection.incoming.code

/-- The packet announces an incoming call: a status event with the data of the call in the TLV `0x01`,
or a response with the data in the TLV `0x10`. -/
def AnnouncesIncoming (packet : CallPacket) : Prop :=
  (qmiMsgid packet.bytes = VoiceMsgid.callStatus.code ∧
      DescribesIncoming packet.tlvs tlvCallInfo) ∨
    ((qmiMsgid packet.bytes = VoiceMsgid.callInfo.code ∨
        qmiMsgid packet.bytes = VoiceMsgid.getAllCallInfo.code) ∧
      DescribesIncoming packet.tlvs tlvRemoteNumber)

/-- The packet of the baseband is kept from the host. -/
def Hidden (s : CallRt) (callwait : UInt8) (packet : CallPacket) : Prop :=
  ∃ next outputs, callServiceHandler s callwait .fromDsp packet.bytes packet.len =
    .ok (.bypass, next, outputs)

/-- In the do-not-disturb mode every incoming call is kept from the host. -/
def IncomingCallsHidden : Prop :=
  ∀ (ops : List CallOp) (s : CallRt), Run callNext Anything .zero ops s → s.doNotDisturb = true →
    ∀ callwait packet, AnnouncesIncoming packet → Hidden s callwait packet

/-- The size of the number in the `struct remote_party_data` at an offset. -/
def numberSize (bytes : Bytes) (offset : Nat) : Nat := (bytes (offset + 3)).toNat

/-- The numbers that are copied fit into the array: the first one, and the one behind it if there is
more than one call. -/
structure NumbersFit (bytes : Bytes) (offset instances : Nat) : Prop where
  first : 0 < instances → numberSize bytes (offset + 3) ≤ maxPhoneNumberLength
  second : 1 < instances →
    numberSize bytes (offset + 3 + (numberSize bytes (offset + 3) + 3)) ≤ maxPhoneNumberLength

/-- A status event has the number of the caller, and the numbers in it fit. -/
def NumberReadable (packet : CallPacket) : Prop :=
  qmiMsgid packet.bytes = VoiceMsgid.callStatus.code →
    (∃ tlv, packet.tlvs.find? (fun tlv => tlv.id = tlvRemoteNumber) = some tlv) ∧
    NumbersFit packet.bytes (firstOffset tlvRemoteNumber 13 packet.tlvs)
      (numInstances packet.bytes (firstOffset tlvCallInfo 13 packet.tlvs)).toNat

variable {s : CallRt} {callwait : UInt8} {packet : CallPacket} {bytes : Bytes} {info offset : Nat}

/-! ## The loop over the calls -/

theorem copy_ok_iff (scan : StatusScan) :
    (∃ copied, scan.copy bytes offset = .ok copied) ↔
      numberSize bytes offset ≤ maxPhoneNumberLength := by
  simp only [StatusScan.copy, numberSize]
  split_ifs with hfits
  · exact iff_of_true ⟨_, rfl⟩ hfits
  · refine iff_of_false (fun hcopied => ?_) hfits
    obtain ⟨copied, hcopied⟩ := hcopied
    cases hcopied

theorem copy_size {scan copied : StatusScan} (h : scan.copy bytes offset = .ok copied) :
    copied.lastLength = numberSize bytes offset ∧ copied.prevNumSize = scan.prevNumSize := by
  simp only [StatusScan.copy] at h
  split_ifs at h
  cases h
  exact ⟨rfl, rfl⟩

/-- The first iteration notes the size of the first number. -/
theorem announce_size (scan : StatusScan) :
    (announceFirst s callwait bytes info offset scan).prevNumSize = scan.lastLength + 3 := by
  simp only [announceFirst]
  split_ifs <;> rfl

/-- The iterations after the first one copy the number behind the first one. -/
theorem later_rounds_ok_iff (rounds : List Nat) (hrounds : 0 ∉ rounds) (scan : StatusScan) :
    (∃ after, rounds.foldlM (statusRound s callwait bytes info offset) scan = .ok after) ↔
      (rounds ≠ [] → numberSize bytes (offset + 3 + scan.prevNumSize) ≤ maxPhoneNumberLength) := by
  induction rounds generalizing scan with
  | nil => exact iff_of_true ⟨scan, rfl⟩ fun h => absurd rfl h
  | cons i rounds ih =>
      have hlater : 0 ∉ rounds := fun h => hrounds (List.mem_cons_of_mem _ h)
      have hnonzero : i ≠ 0 := fun h => hrounds (h ▸ List.mem_cons_self)
      rw [List.foldlM_cons]
      simp only [statusRound, if_neg hnonzero]
      constructor
      · intro ⟨after, h⟩ _
        obtain ⟨_, hround, _⟩ := bind_ok h
        obtain ⟨copied, hcopy, _⟩ := bind_ok hround
        exact (copy_ok_iff scan).1 ⟨copied, hcopy⟩
      · intro hfits
        have hfits := hfits (List.cons_ne_nil _ _)
        obtain ⟨copied, hcopy⟩ := (copy_ok_iff scan).2 hfits
        have hsize := (copy_size hcopy).2
        rw [hcopy]
        refine (ih hlater _).2 fun _ => ?_
        have hsame : (if callwait > 0 then { copied with action := .bypass }
            else copied).prevNumSize = scan.prevNumSize := by
          split_ifs
          · exact hsize
          · exact hsize
        rw [hsame]
        exact hfits

/-- The loop over the calls ends if the numbers fit. -/
theorem rounds_ok_iff (s : CallRt) (callwait : UInt8) (instances : Nat) :
    (∃ after, (List.range instances).foldlM (statusRound s callwait bytes info offset) .start =
      .ok after) ↔ NumbersFit bytes offset instances := by
  cases instances with
  | zero =>
      refine iff_of_true ⟨.start, rfl⟩ ⟨?_, ?_⟩
      · exact fun h => absurd h (Nat.lt_irrefl 0)
      · exact fun h => absurd h (Nat.not_lt_zero 1)
  | succ later =>
      have hlater : 0 ∉ (List.range later).map Nat.succ := by simp
      have hempty : (List.range later).map Nat.succ ≠ [] ↔ 1 < later + 1 := by
        simp only [ne_eq, List.map_eq_nil_iff, List.range_eq_nil]
        omega
      rw [List.range_succ_eq_map, List.foldlM_cons]
      simp only [statusRound, if_true]
      constructor
      · intro ⟨after, h⟩
        obtain ⟨first, hround, hrest⟩ := bind_ok h
        obtain ⟨copied, hcopy, hannounce⟩ := bind_ok hround
        cases hannounce
        have hrest := (later_rounds_ok_iff _ hlater _).1 ⟨after, hrest⟩
        rw [announce_size, (copy_size hcopy).1, hempty] at hrest
        exact ⟨fun _ => (copy_ok_iff _).1 ⟨copied, hcopy⟩, hrest⟩
      · intro hfits
        obtain ⟨copied, hcopy⟩ := (copy_ok_iff .start).2 (hfits.first (Nat.succ_pos _))
        rw [hcopy]
        refine (later_rounds_ok_iff _ hlater _).2 ?_
        rw [announce_size, (copy_size hcopy).1, hempty]
        exact hfits.second

/-! ## The TLVs of a packet -/

/-- A packet with a TLV that is not empty is long enough to be searched. -/
theorem CallPacket.length_le {tlvid : UInt8} {tlv : Qmi.Tlv}
    (hfind : packet.tlvs.find? (fun tlv => tlv.id = tlvid) = some tlv)
    (hvalue : 0 < tlv.value.length) : 17 ≤ packet.len := by
  have hmem : tlv ∈ packet.tlvs := List.mem_of_find?_eq_some hfind
  have hpart : tlv.encode.length ≤ (encodeTlvs packet.tlvs).length := by
    rw [encodeTlvs, List.flatMap_def]
    exact (List.sublist_flatten_of_mem (List.mem_map_of_mem hmem)).length_le
  have hlen := packet.wellFormed.length_eq
  rw [Qmi.Tlv.length_encode] at hpart
  unfold Qmi.Tlv.size at hpart
  unfold encapsulatedQmiPacketSize at hlen
  omega

/-- The search for a TLV ends. -/
theorem CallPacket.offset_eq (h : 17 ≤ packet.len) (wanted : UInt8) :
    tlvOffset packet.bytes packet.len wanted = .ok (firstOffset wanted 13 packet.tlvs) := by
  rw [tlvOffset, get_tlv_offset_of_well_formed packet.wellFormed h packet.short]

/-- A TLV that is found is not at the start of the packet, and its value follows its header. -/
theorem CallPacket.value_of_find {tlvid : UInt8} {tlv : Qmi.Tlv}
    (hfind : packet.tlvs.find? (fun tlv => tlv.id = tlvid) = some tlv) :
    firstOffset tlvid 13 packet.tlvs ≠ 0 ∧
      Holds packet.bytes (firstOffset tlvid 13 packet.tlvs + 3) tlv.value := by
  obtain ⟨hbehind, hholds⟩ := firstOffset_of_some packet.wellFormed.holds hfind
  unfold encapsulatedQmiPacketSize at hbehind
  exact ⟨by omega, hholds⟩

/-- The search for a TLV of an announcement ends. -/
theorem DescribesIncoming.offset_eq {tlvid : UInt8} (h : DescribesIncoming packet.tlvs tlvid)
    (wanted : UInt8) :
    tlvOffset packet.bytes packet.len wanted = .ok (firstOffset wanted 13 packet.tlvs) := by
  obtain ⟨tlv, hfind, hvalue⟩ := h
  obtain ⟨hlong, _⟩ := List.getElem?_eq_some_iff.1 hvalue
  exact packet.offset_eq (packet.length_le hfind (by omega)) wanted

/-- The direction of an announced call is read from its TLV. -/
theorem DescribesIncoming.direction_eq {tlvid : UInt8} (h : DescribesIncoming packet.tlvs tlvid) :
    callDirection packet.bytes (firstOffset tlvid 13 packet.tlvs) =
      CallDirection.incoming.code := by
  obtain ⟨tlv, hfind, hvalue⟩ := h
  obtain ⟨hlong, hvalue⟩ := List.getElem?_eq_some_iff.1 hvalue
  obtain ⟨hpresent, hholds⟩ := packet.value_of_find hfind
  rw [callDirection, metaByte, if_neg hpresent, ← hvalue]
  exact hholds 4 hlong

/-! ## The announcements -/

/-- A status event is kept from the host exactly if the number of the caller can be read. -/
theorem status_hidden_iff (hmode : s.doNotDisturb = true)
    (hincoming : DescribesIncoming packet.tlvs tlvCallInfo) :
    (∃ next outputs, handleVoiceServiceCallStatus s callwait packet.bytes packet.len =
      .ok (.bypass, next, outputs)) ↔
      (∃ tlv, packet.tlvs.find? (fun tlv => tlv.id = tlvRemoteNumber) = some tlv) ∧
      NumbersFit packet.bytes (firstOffset tlvRemoteNumber 13 packet.tlvs)
        (numInstances packet.bytes (firstOffset tlvCallInfo 13 packet.tlvs)).toNat := by
  unfold handleVoiceServiceCallStatus
  rw [hincoming.offset_eq, hincoming.offset_eq]
  simp only [Except.bind, bind]
  cases hfind : packet.tlvs.find? (fun tlv => tlv.id = tlvRemoteNumber) with
  | none =>
      rw [firstOffset_of_none hfind, if_pos rfl]
      refine iff_of_false (fun hhidden => ?_) fun hreadable => ?_
      · obtain ⟨next, outputs, hhidden⟩ := hhidden
        cases hhidden
      · obtain ⟨⟨tlv, htlv⟩, _⟩ := hreadable
        cases htlv
  | some number =>
      have hpresent := (packet.value_of_find hfind).1
      rw [if_neg hpresent, ← rounds_ok_iff s callwait]
      simp only [hmode, hincoming.direction_eq, and_self, if_true]
      constructor
      · intro ⟨next, outputs, h⟩
        obtain ⟨scan, hscan, _⟩ := bind_ok h
        exact ⟨⟨number, rfl⟩, scan, hscan⟩
      · intro ⟨_, scan, hscan⟩
        exact ⟨s, scan.outputs, by rw [hscan]⟩

/-- In the do-not-disturb mode the announcement of an incoming call is kept from the host exactly if
it is not a status event without a number or with one that does not fit. -/
theorem incoming_calls_hidden_iff (s : CallRt) (callwait : UInt8) (packet : CallPacket)
    (hmode : s.doNotDisturb = true) (hincoming : AnnouncesIncoming packet) :
    Hidden s callwait packet ↔ NumberReadable packet := by
  unfold Hidden NumberReadable callServiceHandler
  rcases hincoming with ⟨hstatus, hincoming⟩ | ⟨hinfo | hall, hincoming⟩
  · simp only [hstatus, VoiceMsgid.code, Nat.reduceEqDiff, if_true, if_false, true_implies]
    exact status_hidden_iff hmode hincoming
  · simp only [hinfo, VoiceMsgid.code, Nat.reduceEqDiff, if_true, if_false, false_implies, iff_true,
      handleVoiceServiceCallInfo, hmode, and_self, getCallDirection]
    rw [hincoming.offset_eq]
    refine ⟨s, [], ?_⟩
    simp only [Except.bind, bind, hincoming.direction_eq, if_true]
  · simp only [hall, VoiceMsgid.code, Nat.reduceEqDiff, if_true, if_false, false_implies, iff_true,
      handleVoiceServiceAllCallStatusInfo, hmode, and_self]
    exact ⟨s, _, rfl⟩

/-- A status event of the baseband with these TLVs. -/
def sampleStatus (tlvs : List Qmi.Tlv) : Bytes :=
  Bytes.ofList ([0x01, 0, 0, 0x80, 0x09, 0x02, 0x04, 0x07, 0, 0x2e, 0, 0, 0] ++ encodeTlvs tlvs)

/-- A call comes in and rings. -/
def sampleCallInfo : Qmi.Tlv := ⟨tlvCallInfo, [0x01, 0x01, 0x02, 0, 0x02, 0x04, 0, 0], by decide⟩

/-- The number of the caller, `"112"`. -/
def sampleNumber : Qmi.Tlv :=
  ⟨tlvRemoteNumber, [0x01, 0x01, 0, 0x03, 0x31, 0x31, 0x32], by decide⟩

/-- A call from a number that is shown. -/
def shownCall : CallPacket where
  bytes := sampleStatus [sampleCallInfo, sampleNumber]
  len := 34
  tlvs := [sampleCallInfo, sampleNumber]
  wellFormed := ⟨by unfold Holds; decide, by decide⟩
  short := by decide

/-- A call from a number that is withheld. -/
def withheldCall : CallPacket where
  bytes := sampleStatus [sampleCallInfo]
  len := 24
  tlvs := [sampleCallInfo]
  wellFormed := ⟨by unfold Holds; decide, by decide⟩
  short := by decide

/-- A call from a number that is shown is kept from the host. -/
theorem shown_call_hidden : Hidden (setDoNotDisturb .zero true) 0 shownCall := by
  have hincoming : AnnouncesIncoming shownCall := .inl ⟨rfl, sampleCallInfo, rfl, rfl⟩
  refine (incoming_calls_hidden_iff _ 0 shownCall rfl hincoming).2 fun _ => ?_
  exact ⟨⟨sampleNumber, rfl⟩, ⟨fun _ => by decide, fun h => absurd h (by decide)⟩⟩

/-- The host is told of a call from a number that is withheld. -/
theorem withheld_call_announced : ¬ IncomingCallsHidden := by
  intro h
  have hrun : Run callNext Anything .zero [.setDoNotDisturb true] (setDoNotDisturb .zero true) :=
    .snoc (.nil _) trivial rfl
  have hincoming : DescribesIncoming withheldCall.tlvs tlvCallInfo := ⟨sampleCallInfo, rfl, rfl⟩
  obtain ⟨next, outputs, hbypass⟩ := h _ _ hrun rfl 0 withheldCall (.inl ⟨rfl, hincoming⟩)
  have hforwarded : callServiceHandler (setDoNotDisturb .zero true) 0 .fromDsp
      withheldCall.bytes 24 = .ok (.forcedPt, setDoNotDisturb .zero true, []) := by
    have hmissing : tlvOffset withheldCall.bytes 24 tlvRemoteNumber = .ok 0 :=
      hincoming.offset_eq tlvRemoteNumber
    show handleVoiceServiceCallStatus _ _ _ _ = _
    rw [handleVoiceServiceCallStatus, hmissing]
    rfl
  cases hforwarded.symm.trans hbypass

end OpenQti.Call
