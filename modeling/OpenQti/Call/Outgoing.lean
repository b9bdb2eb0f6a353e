import OpenQti.Call.Service
import OpenQti.Lib.Buffer
import OpenQti.Lib.Ensures

/-!
# Outgoing calls

`handle_voice_service_call_request` with checked accesses. The length of the number is taken from
the packet, and neither the end of the packet nor that of the array is looked at; the digits are
compared with the number of the modem on the length of that number only.
`outgoing_intercepted_iff` says for which packets this makes no difference.
-/

namespace OpenQti.Call

open Buffer Bytes
open Sms (PacketAction)

inductive RequestFault where
  /-- A byte behind the packet is read. -/
  | packet (index : Nat)
  /-- A digit is written behind the array. -/
  | phoneNumber (fault : Overflow)
  deriving DecidableEq, Repr

/-- A byte of a packet of `len` bytes. -/
def packetByte (bytes : Bytes) (len i : Nat) : Except RequestFault UInt8 :=
  if i < len then .ok (bytes i) else .error (.packet i)

/-- `phone_number` and `phone_num_size`. -/
structure DialScan where
  phoneNumber : Bytes
  phoneNumSize : UInt8

def DialScan.start : DialScan := ⟨fun _ => 0, 0⟩

/-- The digits `0` to `9`. -/
def isDialDigit (c : UInt8) : Bool := 0x30 ≤ c ∧ c ≤ 0x39

/-- A round of the loop over `req->number.phone_number`. -/
def dialRound (bytes : Bytes) (len : Nat) (scan : DialScan) (i : Nat) :
    Except RequestFault DialScan := do
  let c ← packetByte bytes len (16 + i)
  if isDialDigit c then
    match put maxPhoneNumberLength scan.phoneNumber scan.phoneNumSize.toNat c with
    | .error fault => .error (.phoneNumber fault)
    | .ok number => .ok ⟨number, scan.phoneNumSize + 1⟩
  else .ok scan

/-- The loop over `req->number.phone_number`. -/
def dialLoop (bytes : Bytes) (len : Nat) : Except RequestFault DialScan := do
  let low ← packetByte bytes len 14
  let high ← packetByte bytes len 15
  (List.range (low.toNat + 256 * high.toNat)).foldlM (dialRound bytes len) .start

/-- `phone_num_size > 0 && memcmp(phone_number, our_phone, 12) == 0`. -/
def DialScan.isForMe (scan : DialScan) : Bool :=
  scan.phoneNumSize > 0 ∧ (List.range 12).map scan.phoneNumber = ourPhone

/-- The rest of `handle_voice_service_call_request`: the call is taken, or it is forwarded. -/
def takeOrForward (s : CallRt) (bytes : Bytes) (forMe : Bool) :
    PacketAction × CallRt × List CallOutput :=
  if forMe then
    if !s.callSimulationMode then
      let s := setCallSimulationMode s true
      let (s, outputs) := sendDummyCallEstablished s (getQmiTransactionId bytes)
      (.bypass, { s with simCallDirection := .outgoing }, outputs)
    else (.bypass, s, [])
  else if s.callSimulationMode then (.forcedPt, closeInternalCall s (getQmiTransactionId bytes))
  else (.forcedPt, s, [])

/-- `handle_voice_service_call_request(source, bytes, len, adspfd, usbfd)`, accesses checked. The
transaction id stands before the number. -/
def checkedCallRequest (s : CallRt) (bytes : Bytes) (len : Nat) :
    Except RequestFault (PacketAction × CallRt × List CallOutput) := do
  let scan ← dialLoop bytes len
  .ok (takeOrForward s bytes scan.isForMe)

/-! ## The property -/

/-- All accesses are inside the packet and the array, and the call is kept from the network if and
only if the number of the modem has been dialled. -/
def InterceptedExactly (s : CallRt) (bytes : Bytes) (len : Nat) : Prop :=
  (checkedCallRequest s bytes len).Ensures fun (action, _, _) =>
    (action = .bypass ↔ dialledDigits bytes = ourPhone) ∧ (action = .bypass ∨ action = .forcedPt)

/-! ## The loop -/

variable {s : CallRt} {bytes : Bytes} {len k : Nat}

/-- The digits among the first `k` characters of the number. -/
def digitsUpTo (bytes : Bytes) (k : Nat) : List UInt8 :=
  ((List.range k).map fun i => bytes (16 + i)).filter isDialDigit

/-- The digits with a character, if it is one. -/
def enter (digits : List UInt8) (c : UInt8) : List UInt8 :=
  digits ++ if isDialDigit c then [c] else []

/-- The array after some digits have been written to it. -/
def DialScan.after (digits : List UInt8) : DialScan := ⟨ofList digits, UInt8.ofNat digits.length⟩

theorem digits_up_to_succ (bytes : Bytes) (k : Nat) :
    digitsUpTo bytes (k + 1) = enter (digitsUpTo bytes k) (bytes (16 + k)) := by
  simp only [digitsUpTo, enter, List.range_succ, List.map_append, List.filter_append, List.map_cons,
    List.map_nil, List.filter_cons, List.filter_nil]

/-- A character is entered, if it is a digit; there has to be room for it. -/
theorem dial_round_after {digits : List UInt8} (hdigits : digits.length ≤ maxPhoneNumberLength)
    (hread : 16 + k < len) {scan : DialScan} :
    dialRound bytes len (.after digits) k = .ok scan ↔
      (enter digits (bytes (16 + k))).length ≤ maxPhoneNumberLength ∧
        scan = .after (enter digits (bytes (16 + k))) := by
  have hbyte : packetByte bytes len (16 + k) = .ok (bytes (16 + k)) := if_pos hread
  simp only [dialRound, hbyte, bind, Except.bind, enter]
  by_cases hdigit : isDialDigit (bytes (16 + k)) = true
  · have hsize : (DialScan.after digits).phoneNumSize.toNat = digits.length := by
      unfold maxPhoneNumberLength at hdigits
      simp only [DialScan.after, UInt8.toNat_ofNat']
      omega
    simp only [hdigit, if_true, put, hsize, List.length_append, List.length_singleton]
    by_cases hroom : digits.length < maxPhoneNumberLength
    · have hnext : (⟨Function.update (DialScan.after digits).phoneNumber digits.length
          (bytes (16 + k)), (DialScan.after digits).phoneNumSize + 1⟩ : DialScan) =
          .after (digits ++ [bytes (16 + k)]) := by
        simp [DialScan.after, update_ofList]
      simp only [if_pos hroom, hnext, Except.ok.injEq]
      exact ⟨fun h => ⟨hroom, h.symm⟩, fun h => h.2.symm⟩
    · simp only [if_neg hroom, reduceCtorEq, false_iff]
      exact fun h => hroom h.1
  · simp only [hdigit, Bool.false_eq_true, if_false, List.append_nil, Except.ok.injEq]
    exact ⟨fun h => ⟨hdigits, h.symm⟩, fun h => h.2.symm⟩

theorem dial_round_outside (hread : ¬ 16 + k < len) (scan : DialScan) :
    dialRound bytes len scan k = .error (.packet (16 + k)) := by
  have hbyte : packetByte bytes len (16 + k) = .error (.packet (16 + k)) := if_neg hread
  simp only [dialRound, hbyte, bind, Except.bind]

/-- The first `k` rounds. -/
theorem dial_rounds_iff {scan : DialScan} :
    (List.range k).foldlM (dialRound bytes len) .start = .ok scan ↔
      (∀ i < k, 16 + i < len) ∧ (digitsUpTo bytes k).length ≤ maxPhoneNumberLength ∧
        scan = .after (digitsUpTo bytes k) := by
  induction k generalizing scan with
  | zero =>
      have hstart : DialScan.after (digitsUpTo bytes 0) = .start := rfl
      simp only [List.range_zero, List.foldlM_nil, hstart, pure, Except.pure, Except.ok.injEq]
      exact ⟨fun h => ⟨fun i hi => absurd hi (Nat.not_lt_zero i), Nat.zero_le _, h.symm⟩,
        fun h => h.2.2.symm⟩
  | succ k ih =>
      rw [List.range_succ, List.foldlM_append, digits_up_to_succ]
      simp only [List.foldlM_cons, List.foldlM_nil, bind_pure]
      constructor
      · intro h
        obtain ⟨before, hbefore, hround⟩ := Except.bind_ok h
        obtain ⟨hreads, hfits, rfl⟩ := ih.1 hbefore
        by_cases hread : 16 + k < len
        case neg =>
          rw [dial_round_outside hread] at hround
          cases hround
        refine ⟨fun i hi => ?_, (dial_round_after hfits hread).1 hround⟩
        by_cases hlast : i = k
        · rwa [hlast]
        · exact hreads i (by omega)
      · rintro ⟨hreads, hround⟩
        have hfits : (digitsUpTo bytes k).length ≤ maxPhoneNumberLength := by
          have hall := hround.1
          rw [enter, List.length_append] at hall
          omega
        rw [ih.2 ⟨fun i hi => hreads i (by omega), hfits, rfl⟩]
        exact (dial_round_after hfits (hreads k (Nat.lt_succ_self k))).2 hround

theorem digits_up_to_length (bytes : Bytes) :
    digitsUpTo bytes (le16 bytes 14) = dialledDigits bytes := rfl

/-- The loop stays inside the packet and the array. -/
theorem dial_loop_iff {scan : DialScan} :
    dialLoop bytes len = .ok scan ↔
      16 + le16 bytes 14 ≤ len ∧ (dialledDigits bytes).length ≤ maxPhoneNumberLength ∧
        scan = .after (dialledDigits bytes) := by
  unfold dialLoop packetByte
  by_cases hlow : 14 < len
  · by_cases hhigh : 15 < len
    · simp only [if_pos hlow, if_pos hhigh, bind, Except.bind]
      have hlength : (bytes 14).toNat + 256 * (bytes 15).toNat = le16 bytes 14 := rfl
      rw [hlength, dial_rounds_iff, digits_up_to_length]
      refine and_congr_left fun _ => ⟨fun h => ?_, fun h i hi => by omega⟩
      by_contra houtside
      have hlast := h (len - 16) (by omega)
      omega
    · simp only [if_pos hlow, if_neg hhigh, bind, Except.bind, reduceCtorEq, false_iff]
      omega
  · simp only [if_neg hlow, bind, Except.bind, reduceCtorEq, false_iff]
    omega

/-! ## The comparison -/

/-- A number without a 0 in its bytes is found at the start of the array if and only if it is found
at the start of the digits. -/
theorem map_range_ofList_eq_iff {number digits : List UInt8} (hclean : 0 ∉ number) :
    (List.range number.length).map (ofList digits) = number ↔ number <+: digits := by
  rw [List.prefix_iff_getElem?]
  constructor
  · intro h i hi
    have hbyte : ofList digits i = number[i] := by
      have hget := List.getElem_of_eq h (by simpa using hi : i < _)
      rwa [List.getElem_map, List.getElem_range] at hget
    simp only [ofList, List.getD_eq_getElem?_getD] at hbyte
    cases hdigit : digits[i]? with
    | none =>
        rw [hdigit, Option.getD_none] at hbyte
        have hzero : (0 : UInt8) ∈ number := hbyte ▸ List.getElem_mem hi
        exact absurd hzero hclean
    | some c =>
        rw [hdigit, Option.getD_some] at hbyte
        rw [hbyte]
  · intro h
    refine List.ext_getElem (by simp) fun i hi hlt => ?_
    rw [List.getElem_map, List.getElem_range, ofList, List.getD_eq_getElem?_getD, h i hlt,
      Option.getD_some]

/-- The call is taken for one to the modem if its number starts with that of the modem. -/
theorem is_for_me_after {digits : List UInt8} (hdigits : digits.length ≤ maxPhoneNumberLength) :
    (DialScan.after digits).isForMe = true ↔ ourPhone <+: digits := by
  have hcompare : (List.range 12).map (ofList digits) = ourPhone ↔ ourPhone <+: digits :=
    map_range_ofList_eq_iff (by decide : 0 ∉ ourPhone)
  rw [DialScan.isForMe, decide_eq_true_iff]
  refine ⟨fun h => hcompare.1 h.2, fun h => ⟨?_, hcompare.2 h⟩⟩
  have hlength : 12 ≤ digits.length := h.length_le
  unfold maxPhoneNumberLength at hdigits
  rw [gt_iff_lt, UInt8.lt_iff_toNat_lt, DialScan.after, UInt8.toNat_ofNat', UInt8.toNat_zero]
  omega

theorem action_take_or_forward (forMe : Bool) :
    (takeOrForward s bytes forMe).1 = if forMe then .bypass else .forcedPt := by
  unfold takeOrForward
  split_ifs <;> rfl

/-- With accesses that stay inside, this is the handler. -/
theorem checked_call_request_refines {handled : PacketAction × CallRt × List CallOutput}
    (h : checkedCallRequest s bytes len = .ok handled) :
    handleVoiceServiceCallRequest s bytes = .ok handled := by
  obtain ⟨scan, hloop, hrest⟩ := Except.bind_ok h
  obtain ⟨-, hfits, rfl⟩ := dial_loop_iff.1 hloop
  cases hrest
  have hforMe : (DialScan.after (dialledDigits bytes)).isForMe = true ↔ ForOurPhone bytes := by
    rw [is_for_me_after hfits, List.prefix_iff_eq_take]
    exact eq_comm
  rw [handleVoiceServiceCallRequest, if_neg (Nat.not_lt.2 hfits)]
  unfold takeOrForward
  simp only [hforMe]
  split_ifs <;> rfl

/-- What an exact answer says about the packet. -/
theorem InterceptedExactly.packet (h : InterceptedExactly s bytes len) :
    16 + le16 bytes 14 ≤ len ∧ (dialledDigits bytes).length ≤ maxPhoneNumberLength ∧
      (ourPhone <+: dialledDigits bytes → dialledDigits bytes = ourPhone) := by
  obtain ⟨handled, hdone, hexact, -⟩ := h
  obtain ⟨scan, hloop, hrest⟩ := Except.bind_ok hdone
  obtain ⟨hinside, hfits, rfl⟩ := dial_loop_iff.1 hloop
  refine ⟨hinside, hfits, fun hstarts => ?_⟩
  cases hrest
  rw [action_take_or_forward, (is_for_me_after hfits).2 hstarts] at hexact
  exact hexact.1 rfl

/-- For every state and every packet, all accesses are inside and exactly the calls to the modem are
kept if and only if the number ends inside the packet, it has at most 20 digits, and it does not
start with the number of the modem and go on. -/
theorem outgoing_intercepted_iff (s : CallRt) (bytes : Bytes) (len : Nat) :
    InterceptedExactly s bytes len ↔
      16 + le16 bytes 14 ≤ len ∧ (dialledDigits bytes).length ≤ maxPhoneNumberLength ∧
        (ourPhone <+: dialledDigits bytes → dialledDigits bytes = ourPhone) := by
  constructor
  · intro h
    exact h.packet
  · rintro ⟨hinside, hfits, hwhole⟩
    refine ⟨takeOrForward s bytes (DialScan.after (dialledDigits bytes)).isForMe, ?_, ?_⟩
    · rw [checkedCallRequest, dial_loop_iff.2 ⟨hinside, hfits, rfl⟩]
      rfl
    · simp only [action_take_or_forward]
      by_cases hours : dialledDigits bytes = ourPhone
      · have hforMe : (DialScan.after (dialledDigits bytes)).isForMe = true :=
          (is_for_me_after hfits).2 (hours ▸ List.prefix_refl _)
        rw [if_pos hforMe]
        exact ⟨iff_of_true rfl hours, .inl rfl⟩
      · have hforMe : ¬ (DialScan.after (dialledDigits bytes)).isForMe = true :=
          fun h => hours (hwhole ((is_for_me_after hfits).1 h))
        rw [if_neg hforMe]
        exact ⟨iff_of_false (by decide) hours, .inr rfl⟩

/-- A call to a longer number that starts with that of the modem. -/
def longerNumberRequest : List UInt8 :=
  [0x01, 0x1c, 0x00, 0x00, 0x09, 0x01, 0x00, 0x01, 0x00, 0x20, 0x00, 0x10, 0x00, 0x01, 0x0d,
    0x00] ++ ourPhone ++ [0x38]

/-- It is taken for a call to the modem. -/
theorem longer_number_not_forwarded :
    ¬ ∀ (s : CallRt) (bytes : Bytes) (len : Nat), InterceptedExactly s bytes len := by
  intro h
  obtain ⟨-, -, hwhole⟩ :=
    (h .zero (ofList longerNumberRequest) longerNumberRequest.length).packet
  exact absurd (hwhole (List.prefix_iff_eq_take.2 (by decide))) (by decide)

end OpenQti.Call
