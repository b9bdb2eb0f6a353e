import OpenQti.Audio.Routing
import OpenQti.Call.Callers

/-!
# The table of calls

`handle_voice_service_call_status` copies the numbers in a status event to one array and hands it to
`handle_call_pkt`, which copies it to the entry of the call in `audio_runtime_state.calls`. The
index is a byte of the packet, the length is a `strlen` that runs on behind an array without a
terminator, and the entry is not cleared. `call_table_iff` says for which packets and entries this
is harmless.

The call of a packet is the first one of both TLVs: its state and its number are looked at together
in the first iteration.
-/

namespace OpenQti.Audio

open Bytes Qmi Call Except

/-! ## What is handed over -/

/-- `"Unknown"`. -/
def unknownNumber : List UInt8 := Text.ascii "Unknown"

/-- The array that `handle_call_pkt` gets. -/
def handedArray (scan : StatusScan) : List UInt8 :=
  if scan.lastLength > 0 then scan.phoneNumber else overwrite scan.phoneNumber unknownNumber

/-- A status event reaches `handle_call_pkt`: where its TLVs are, the variables behind the loop, and
the call, which is the last thing that is done. -/
structure Reaches (s : CallRt) (callwait : UInt8) (bytes : Bytes) (len offset info : Nat)
    (scan : StatusScan) : Prop where
  remote : Call.tlvOffset bytes len tlvRemoteNumber = .ok offset
  call : Call.tlvOffset bytes len tlvCallInfo = .ok info
  scanned : (List.range (numInstances bytes info).toNat).foldlM
    (statusRound s callwait bytes info offset) .start = .ok scan
  handled : ∃ action next outputs, handleVoiceServiceCallStatus s callwait bytes len =
    .ok (action, next, outputs ++ [.callPkt (cString (handedArray scan))])

/-- The number in the record at an offset. The structure begins one byte before the record. -/
def numberAt (bytes : Bytes) (offset : Nat) : List UInt8 :=
  (List.range (bytes (offset + 3)).toNat).map fun k => bytes (offset + 4 + k)

/-- The number in the first record. -/
def firstNumber (bytes : Bytes) (offset : Nat) : List UInt8 := numberAt bytes (offset + 3)

/-- The number in the second record. -/
def secondNumber (bytes : Bytes) (offset : Nat) : List UInt8 :=
  numberAt bytes (offset + 3 + ((firstNumber bytes offset).length + 3))

/-- A number, or the word for one that is not set. -/
def orUnknown (number : List UInt8) : List UInt8 := if number = [] then unknownNumber else number

/-- The number that a packet has for its call. -/
def packetNumber (bytes : Bytes) (offset info : Nat) : List UInt8 :=
  orUnknown (if numInstances bytes info = 0 then [] else firstNumber bytes offset)

/-! ## The property -/

/-- Whatever is behind the array, the index and the length are inside their bounds; only the entry
of the call changes, and the number in it is that of the packet. A packet without a call changes
nothing. -/
def TableKept (audio : AudioState) (env : AudioEnv) (bytes : Bytes) (len offset info : Nat)
    (scan : StatusScan) : Prop :=
  ∀ behind, ∃ next,
    handleCallPkt audio env bytes len (cString (handedArray scan ++ behind)) = .ok next ∧
      (info = 0 → next.calls = audio.calls) ∧
      (info ≠ 0 → (∀ id, id ≠ (callId bytes info).toNat → next.calls id = audio.calls id) ∧
        cString (next.calls (callId bytes info).toNat).phoneNumber =
          packetNumber bytes offset info)

/-- What the numbers in a packet leave in an array of zeros: with several calls, the second one lies
over the first one. -/
def laidNumbers (bytes : Bytes) (offset info : Nat) : List UInt8 :=
  let zeros := List.replicate maxPhoneNumberLength 0
  if numInstances bytes info = 0 then overwrite zeros unknownNumber
  else if numInstances bytes info = 1 then overwrite zeros (orUnknown (firstNumber bytes offset))
  else
    overwrite (overwrite zeros (firstNumber bytes offset)) (orUnknown (secondNumber bytes offset))

/-- The numbers laid down end inside the array, the text is the beginning of the wanted number, and
the entry already holds the rest of it, which is nothing if the text is the whole number. -/
structure EntryFits (entry laid number : List UInt8) : Prop where
  terminated : 0 ∈ laid
  isPrefix : cString laid <+: number
  rest : cString (entry.drop (cString laid).length) = number.drop (cString laid).length

/-! ## The loop -/

variable {s : CallRt} {callwait : UInt8} {bytes : Bytes} {len offset info : Nat}
  {scan after : StatusScan}

theorem copy_number (h : scan.copy bytes offset = .ok after) :
    after = { scan with
      phoneNumber := overwrite scan.phoneNumber (numberAt bytes offset)
      lastLength := (numberAt bytes offset).length } ∧
      (numberAt bytes offset).length ≤ maxPhoneNumberLength := by
  have hlength : (numberAt bytes offset).length = (bytes (offset + 3)).toNat := by
    simp [numberAt]
  unfold StatusScan.copy at h
  simp only at h
  split_ifs at h with hfits
  cases h
  rw [hlength]
  exact ⟨rfl, hfits⟩

theorem length_overwrite {array number : List UInt8} (h : number.length ≤ array.length) :
    (overwrite array number).length = array.length := by
  rw [overwrite, List.length_append, List.length_drop]
  omega

/-- The array and the length of the last number after some iterations. -/
structure Scanned (bytes : Bytes) (offset n : Nat) (scan : StatusScan) : Prop where
  size : scan.phoneNumber.length = maxPhoneNumberLength
  phoneNumber : scan.phoneNumber =
    if n = 0 then List.replicate maxPhoneNumberLength 0
    else if n = 1 then
      overwrite (List.replicate maxPhoneNumberLength 0) (firstNumber bytes offset)
    else
      overwrite (overwrite (List.replicate maxPhoneNumberLength 0) (firstNumber bytes offset))
        (secondNumber bytes offset)
  lastLength : scan.lastLength =
    if n = 0 then 0 else if n = 1 then (firstNumber bytes offset).length
    else (secondNumber bytes offset).length
  prevNumSize : n ≠ 0 → scan.prevNumSize = (firstNumber bytes offset).length + 3

/-- A number that fits leaves the array as long as it is. -/
theorem Scanned.size_overwrite {n : Nat} {number : List UInt8} (h : Scanned bytes offset n scan)
    (hfits : number.length ≤ maxPhoneNumberLength) :
    (overwrite scan.phoneNumber number).length = maxPhoneNumberLength :=
  (length_overwrite (hfits.trans (Nat.le_of_eq h.size.symm))).trans h.size

/-- The first iteration copies the first number. -/
theorem scanned_first (h : statusRound s callwait bytes info offset .start 0 = .ok scan)
    (hstart : Scanned bytes offset 0 .start) : Scanned bytes offset 1 scan := by
  simp only [statusRound, if_true] at h
  obtain ⟨copied, hcopy, hannounce⟩ := bind_ok h
  cases hannounce
  obtain ⟨rfl, hfits⟩ := copy_number hcopy
  obtain ⟨hnumber, hlength, -⟩ := announce_first_spec s callwait bytes info offset _
    (rfl : { StatusScan.start with
      phoneNumber := overwrite StatusScan.start.phoneNumber (numberAt bytes (offset + 3))
      lastLength := (numberAt bytes (offset + 3)).length }.outputs = [])
  refine ⟨?_, hnumber, hlength, fun _ => announce_size _⟩
  rw [hnumber]
  exact hstart.size_overwrite hfits

/-- Every later iteration copies the second number. -/
theorem Scanned.later {n : Nat} {before : StatusScan} (h : Scanned bytes offset n before)
    (hn : n ≠ 0) (hround : statusRound s callwait bytes info offset before n = .ok scan) :
    Scanned bytes offset (n + 1) scan := by
  simp only [statusRound, if_neg hn] at hround
  obtain ⟨copied, hcopy, hrest⟩ := bind_ok hround
  rw [h.prevNumSize hn] at hcopy
  obtain ⟨rfl, hfits⟩ := copy_number hcopy
  have hsame : scan.phoneNumber = overwrite before.phoneNumber (secondNumber bytes offset) ∧
      scan.lastLength = (secondNumber bytes offset).length ∧
      scan.prevNumSize = before.prevNumSize := by
    split_ifs at hrest <;> cases hrest <;> exact ⟨rfl, rfl, rfl⟩
  obtain ⟨hnumber, hlength, hsize⟩ := hsame
  refine ⟨?_, ?_, ?_, fun _ => hsize.trans (h.prevNumSize hn)⟩
  · rw [hnumber]
    exact h.size_overwrite hfits
  · rw [hnumber, h.phoneNumber, if_neg hn, if_neg (Nat.succ_ne_zero n),
      if_neg (by omega : n + 1 ≠ 1)]
    -- from the third iteration on the same number is copied again
    split_ifs
    · rfl
    · exact overwrite_overwrite _ _
  · rw [hlength, if_neg (Nat.succ_ne_zero n), if_neg (by omega)]

/-- The first iteration copies the first number, and every later one the second number. -/
theorem scanned_of_rounds {n : Nat}
    (h : (List.range n).foldlM (statusRound s callwait bytes info offset) .start = .ok scan) :
    Scanned bytes offset n scan := by
  induction n generalizing scan with
  | zero =>
      cases h
      exact ⟨rfl, rfl, rfl, fun hzero => absurd rfl hzero⟩
  | succ n ih =>
      rw [List.range_succ, List.foldlM_append] at h
      obtain ⟨before, hbefore, hround⟩ := bind_ok h
      simp only [List.foldlM_cons, List.foldlM_nil, bind_pure] at hround
      by_cases hfirst : n = 0
      · subst hfirst
        cases hbefore
        exact scanned_first hround (ih rfl)
      · exact (ih hbefore).later hfirst hround

/-- The array that is handed over, in terms of the packet. -/
theorem handed_array_eq (h : Scanned bytes offset (numInstances bytes info).toNat scan) :
    handedArray scan = laidNumbers bytes offset info ∧
      (handedArray scan).length = maxPhoneNumberLength := by
  have hunknown : unknownNumber.length ≤ maxPhoneNumberLength := by
    rw [unknownNumber, Text.length_ascii ['U', 'n', 'k', 'n', 'o', 'w', 'n']]
    decide
  have hzero : numInstances bytes info = 0 ↔ (numInstances bytes info).toNat = 0 := by
    rw [← UInt8.toNat_inj]
    rfl
  have hone : numInstances bytes info = 1 ↔ (numInstances bytes info).toNat = 1 := by
    rw [← UInt8.toNat_inj]
    rfl
  refine ⟨?_, ?_⟩
  · rw [handedArray, h.lastLength, h.phoneNumber, laidNumbers]
    simp only [hzero, hone, orUnknown]
    split_ifs <;> simp_all [overwrite]
  · rw [handedArray]
    split_ifs
    · exact h.size
    · exact (length_overwrite (hunknown.trans (Nat.le_of_eq h.size.symm))).trans h.size

/-- A status event with a number reaches `handle_call_pkt` unless the call is hidden or it is one
of the modem itself. -/
theorem reaches_of_scan (hremote : Call.tlvOffset bytes len tlvRemoteNumber = .ok offset)
    (hpresent : offset ≠ 0) (hcall : Call.tlvOffset bytes len tlvCallInfo = .ok info)
    (hscan : (List.range (numInstances bytes info).toNat).foldlM
      (statusRound s callwait bytes info offset) .start = .ok scan)
    (hshown : s.doNotDisturb = false)
    (hother : scan.lastLength > 0 ∧ scan.phoneNumber.take 12 ≠ ourPhone) :
    Reaches s callwait bytes len offset info scan := by
  refine ⟨hremote, hcall, hscan, ?_⟩
  simp only [handleVoiceServiceCallStatus, hremote, hcall, hscan, bind, Except.bind, hshown,
    if_neg hpresent, Bool.false_eq_true, false_and, if_false, forwardStatus, handedArray,
    if_pos hother.1, if_neg hother.2]
  exact ⟨_, _, _, rfl⟩

/-! ## The entry -/

section

variable (audio : AudioState)

@[simp]
theorem calls_setMixerCtls (ctls : List VoiceCtl) (value : Bool) :
    (setMixerCtls audio ctls value).calls = audio.calls := by
  induction ctls generalizing audio with
  | nil => rfl
  | cons ctl ctls ih => exact ih (setMixerCtl audio ctl value)

@[simp]
theorem calls_stopAudio : (stopAudio audio).calls = audio.calls := by
  simp only [stopAudio]
  split_ifs <;> simp

@[simp]
theorem calls_startAudio (type : CallStatus) : (startAudio audio type).calls = audio.calls := by
  have hsetUp : ∀ state : AudioState, (setUpAudio state type).calls = state.calls := by
    intro state
    simp only [setUpAudio]
    split_ifs <;> simp
  simp only [startAudio]
  split_ifs <;> simp [hsetUp]

/-- Following the call leaves the table alone. -/
theorem calls_followCall (env : AudioEnv) (bytes : Bytes) (offset : Nat) :
    (followCall audio env bytes offset).calls = audio.calls := by
  have hestablish : ∀ (state : AudioState) (id : UInt8) (mode : CallStatus),
      (establish state env id mode).calls = state.calls := by
    intro state id mode
    simp only [establish]
    split_ifs <;> simp
  have halert : ∀ mode : CallStatus, (alert audio env mode).calls = audio.calls := by
    intro mode
    simp only [alert]
    split_ifs <;> simp
  simp only [followCall]
  split_ifs <;> simp [hestablish, halert]

end

variable {audio next : AudioState} {env : AudioEnv} {number : List UInt8}

/-- A packet without a call changes nothing. -/
theorem calls_without_info (hinfo : getTlvOffsetById bytes len tlvCallInfo = some 0)
    (h : handleCallPkt audio env bytes len number = .ok next) : next.calls = audio.calls := by
  simp only [handleCallPkt, hinfo] at h
  cases h
  rfl

/-- A packet with a call stores to the entry of the call. -/
theorem calls_with_info (hinfo : getTlvOffsetById bytes len tlvCallInfo = some info)
    (hpresent : info ≠ 0) (h : handleCallPkt audio env bytes len number = .ok next) :
    next.calls = Function.update audio.calls (callId bytes info).toNat
      (callData audio bytes info number) := by
  obtain ⟨place, rfl⟩ := Nat.exists_eq_succ_of_ne_zero hpresent
  simp only [handleCallPkt, hinfo] at h
  split_ifs at h
  cases h
  exact calls_followCall _ _ _ _

/-! ## Texts in the entry -/

variable {array behind entry : List UInt8}

/-- Behind a terminator nothing is read. -/
theorem cString_append (h : 0 ∈ array) : cString (array ++ behind) = cString array := by
  have hshort : (array.takeWhile (· ≠ 0)).length ≠ array.length := by
    intro hlength
    have hall := (List.takeWhile_prefix (fun c : UInt8 => decide (c ≠ 0))).eq_of_length hlength
    have hclean := Text.zero_not_mem_take_while array
    rw [hall] at hclean
    exact hclean h
  simp only [cString]
  rw [List.takeWhile_append, if_neg hshort]

/-- Without a terminator the length is that of the array and more. -/
theorem length_cString_of_not_mem (h : 0 ∉ array) :
    (cString (array ++ [1])).length = array.length + 1 := by
  have hclean : 0 ∉ array ++ [1] := by simp [h]
  rw [cString, Text.take_while_eq_self hclean, List.length_append, List.length_singleton]

/-- The number that is read from the entry afterwards. -/
theorem cString_overwrite (laid entry : List UInt8) :
    cString (overwrite entry (cString laid)) =
      cString laid ++ cString (entry.drop (cString laid).length) := by
  rw [overwrite]
  exact Text.take_while_append (Text.zero_not_mem_take_while laid) _

theorem append_eq_iff {first rest : List UInt8} :
    first ++ rest = number ↔ first <+: number ∧ rest = number.drop first.length := by
  constructor
  · rintro rfl
    exact ⟨List.prefix_append _ _, by simp⟩
  · rintro ⟨⟨other, rfl⟩, hrest⟩
    rw [hrest, List.drop_left]

/-- One number, in an array of zeros: it is a text with room for its terminator, and the entry ends
where the number does. -/
theorem entry_fits_one_number :
    EntryFits entry (overwrite (List.replicate maxPhoneNumberLength 0) number) number ↔
      0 ∉ number ∧ number.length < maxPhoneNumberLength ∧
        cString (entry.drop number.length) = [] := by
  have hlaid : overwrite (List.replicate maxPhoneNumberLength 0) number =
      number ++ List.replicate (maxPhoneNumberLength - number.length) 0 := by
    rw [overwrite, List.drop_replicate]
  have htext : 0 ∉ number →
      cString (number ++ List.replicate (maxPhoneNumberLength - number.length) 0) = number := by
    intro hclean
    rw [cString, Text.take_while_append hclean, List.takeWhile_replicate]
    simp
  rw [hlaid]
  constructor
  · intro h
    have hclean : 0 ∉ number := by
      rw [← append_eq_iff.2 ⟨h.isPrefix, h.rest⟩, List.mem_append, not_or]
      exact ⟨Text.zero_not_mem_take_while _, Text.zero_not_mem_take_while _⟩
    have hrest := h.rest
    have hroom := h.terminated
    rw [htext hclean, List.drop_length] at hrest
    rw [List.mem_append, or_iff_right hclean, List.mem_replicate] at hroom
    exact ⟨hclean, by omega, hrest⟩
  · rintro ⟨hclean, hroom, hrest⟩
    refine ⟨?_, ?_, ?_⟩
    · rw [List.mem_append, List.mem_replicate]
      exact .inr ⟨by omega, rfl⟩
    · rw [htext hclean]
    · rw [htext hclean, hrest, List.drop_length]

theorem offset_of_tlvOffset {tlvid : UInt8} (h : Call.tlvOffset bytes len tlvid = .ok info) :
    getTlvOffsetById bytes len tlvid = some info := by
  unfold Call.tlvOffset at h
  split at h
  · cases h
    assumption
  · cases h

/-- For every status event that reaches `handle_call_pkt`, and whatever the table holds, the
accesses are inside the table and the entry of the call holds its number afterwards, if and only if
the id is one of the table and the numbers in the packet fit the entry. -/
theorem call_table_iff (h : Reaches s callwait bytes len offset info scan) :
    TableKept audio env bytes len offset info scan ↔
      (info ≠ 0 → (callId bytes info).toNat < maxActiveCalls ∧
        EntryFits (audio.calls (callId bytes info).toNat).phoneNumber
          (laidNumbers bytes offset info) (packetNumber bytes offset info)) := by
  have hinfo := offset_of_tlvOffset h.call
  obtain ⟨hlaid, hsize⟩ := handed_array_eq (scanned_of_rounds h.scanned)
  rw [TableKept, hlaid]
  rw [hlaid] at hsize
  generalize laidNumbers bytes offset info = laid at *
  constructor
  · intro hkept hpresent
    obtain ⟨next, hnext, -⟩ := hkept [1]
    obtain ⟨place, hplace, hinside⟩ := (packet_ok_iff _ _ _ _ _).1 ⟨next, hnext⟩
    rw [hinfo, Option.some.injEq] at hplace
    obtain ⟨hid, hshort⟩ := hinside (hplace ▸ hpresent)
    rw [← hplace] at hid
    have hterminated : 0 ∈ laid := by
      by_contra hnone
      rw [length_cString_of_not_mem hnone, hsize] at hshort
      omega
    obtain ⟨next, hnext, -, hentry⟩ := hkept []
    obtain ⟨-, hnumber⟩ := hentry hpresent
    rw [List.append_nil] at hnext
    rw [calls_with_info hinfo hpresent hnext, Function.update_self, callData,
      cString_overwrite, append_eq_iff] at hnumber
    exact ⟨hid, hterminated, hnumber.1, hnumber.2⟩
  · intro hfits behind
    have hinside : CallInside bytes len (cString (laid ++ behind)) := by
      refine ⟨info, hinfo, fun hpresent => ?_⟩
      obtain ⟨hid, hentry⟩ := hfits hpresent
      refine ⟨hid, ?_⟩
      rw [cString_append hentry.terminated, ← hsize]
      exact (List.takeWhile_prefix _).length_le
    obtain ⟨next, hnext⟩ := (packet_ok_iff audio env _ _ _).2 hinside
    refine ⟨next, hnext, fun habsent => ?_, fun hpresent => ?_⟩
    · exact calls_without_info (habsent ▸ hinfo) hnext
    · obtain ⟨-, hentry⟩ := hfits hpresent
      rw [calls_with_info hinfo hpresent hnext]
      refine ⟨fun id hid => Function.update_of_ne hid _ _, ?_⟩
      rw [Function.update_self, callData, cString_append hentry.terminated, cString_overwrite,
        append_eq_iff]
      exact ⟨hentry.isPrefix, hentry.rest⟩

/-- A call from `"112"` rings, with this id. -/
def ringingFrom112 (id : UInt8) : Bytes :=
  sampleStatus [⟨tlvCallInfo, [0x01, id, 0x02, 0, 0x02, 0x04, 0, 0], by simp⟩,
    ⟨tlvRemoteNumber, [0x01, id, 0, 0x03, 0x31, 0x31, 0x32], by simp⟩]

/-- The id of the call is behind the table. -/
theorem call_id_behind_table :
    ¬ ∀ (s : CallRt) (callwait : UInt8) (bytes : Bytes) (len offset info : Nat)
      (scan : StatusScan) (audio : AudioState) (env : AudioEnv),
      Reaches s callwait bytes len offset info scan →
        TableKept audio env bytes len offset info scan := by
  intro h
  obtain ⟨scan, hreach⟩ : ∃ scan, Reaches .zero 0 (ringingFrom112 10) 34 24 13 scan :=
    ⟨_, reaches_of_scan rfl (by decide) rfl rfl rfl (by decide)⟩
  obtain ⟨next, hnext, -⟩ := h _ _ _ _ _ _ scan .default ⟨false, false, false⟩ hreach []
  obtain ⟨place, hplace, hinside⟩ := (packet_ok_iff _ _ _ _ _).1 ⟨next, hnext⟩
  rw [offset_of_tlvOffset hreach.call, Option.some.injEq] at hplace
  subst hplace
  exact absurd (hinside (by decide)).1 (by decide)

/-- The first call after the start. -/
theorem ringing_stored_in_table :
    ∃ scan, Reaches .zero 0 (ringingFrom112 1) 34 24 13 scan ∧
      TableKept .default ⟨false, false, false⟩ (ringingFrom112 1) 34 24 13 scan := by
  obtain ⟨scan, hreach⟩ : ∃ scan, Reaches .zero 0 (ringingFrom112 1) 34 24 13 scan :=
    ⟨_, reaches_of_scan rfl (by decide) rfl rfl rfl (by decide)⟩
  refine ⟨scan, hreach, (call_table_iff hreach).2 fun _ => ⟨by decide, by decide, ?_, by decide⟩⟩
  exact ⟨[], by decide⟩

end OpenQti.Audio
