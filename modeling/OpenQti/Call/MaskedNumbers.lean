import Mathlib.Data.List.GetD
import OpenQti.Call.Callers
import OpenQti.Call.Outgoing

/-!
# Phone numbers in the log

`mask_phone_number` writes a number to the log with asterisks in place of all but its last three
characters. The number and its length come separately: the text that is copied is whatever stands in
the array `phone_number`, and the asterisks go as far as the length says.

Both arrays of `handle_voice_service_call_status` are shared by all calls of a status event, and
every call but the first one is logged with the second number. What is left in clear is thus part of
the first number where that is longer than the second one, and belongs to the wrong call from the
third call on. `numbers_masked_iff` says for which events and requests nothing else than the last
three characters of the right number is left.
-/

namespace OpenQti.Call

open Buffer Bytes Qmi Except
open Sms (PacketAction)

/-! ## The function -/

/-- `*`. -/
def asterisk : UInt8 := 42

/-- `MSG_DEBUG`. -/
def msgDebug : UInt8 := 0

/-- The last part of `mask_phone_number`: `dest[i] = '*'` for `i < len - 3`. -/
def hideNumber (logLevel : UInt8) (len : Nat) (dest : Bytes) : Except Overflow Bytes :=
  if logLevel ≠ msgDebug then
    putAll maxPhoneNumberLength dest 0 (List.replicate (len - 3) asterisk)
  else .ok dest

/-- `mask_phone_number(orig, dest, len)`, for an array `dest` of 20 bytes; `orig` is what the memory
holds from the array on. -/
def maskPhoneNumber (logLevel : UInt8) (orig : List UInt8) (dest : Bytes) (len : Nat) :
    Except Overflow (Int × Bytes) :=
  if len < 1 then do
    let dest ← snprintf maxPhoneNumberLength maxPhoneNumberLength (Text.ascii "[none]") dest
    .ok (-1, dest)
  else do
    let dest ← snprintf maxPhoneNumberLength maxPhoneNumberLength (cString orig) dest
    let dest ← hideNumber logLevel len dest
    .ok (0, dest)

/-! ## Its callers -/

inductive LogFault where
  | status (fault : CallFault)
  | request (fault : RequestFault)
  | write (fault : Overflow)
  deriving DecidableEq, Repr

/-- The variables of `handle_voice_service_call_status` with `log_phone_number`, and the value that
`mask_phone_number` has returned. -/
structure LogScan where
  scan : StatusScan
  logPhoneNumber : Bytes
  result : Int

def LogScan.start : LogScan := ⟨.start, fun _ => 0, 0⟩

section Rounds

variable (logLevel : UInt8) (behind : List UInt8) (s : CallRt) (callwait : UInt8) (bytes : Bytes)
  (info offset : Nat)

/-- A round of `handle_voice_service_call_status`, with the number in the log; `behind` is what
follows the array on the stack. -/
def logRound (log : LogScan) (i : Nat) : Except LogFault LogScan := do
  let scan ← (statusRound s callwait bytes info offset log.scan i).mapError .status
  let (result, dest) ← (maskPhoneNumber logLevel (scan.phoneNumber ++ behind) log.logPhoneNumber
    scan.lastLength).mapError .write
  .ok ⟨scan, dest, result⟩

/-- The log before round `i`. -/
def logBefore (i : Nat) : Except LogFault LogScan :=
  (List.range i).foldlM (logRound logLevel behind s callwait bytes info offset) .start

end Rounds

/-- The number of a request in the log. -/
def logRequest (logLevel : UInt8) (behind : List UInt8) (bytes : Bytes) (len : Nat) :
    Except LogFault (Int × Bytes) := do
  let scan ← (dialLoop bytes len).mapError .request
  (maskPhoneNumber logLevel ((List.range maxPhoneNumberLength).map scan.phoneNumber ++ behind)
    (fun _ => 0) scan.phoneNumSize.toNat).mapError .write

/-! ## The property -/

/-- The string in the log either says that there is no number, or consists of asterisks and of the
last three characters of the number in their places. -/
def Masked (number : List UInt8) (result : Int) (dest : Bytes) : Prop :=
  ∃ text, string maxPhoneNumberLength dest = some text ∧
    ((result = -1 ∧ text = Text.ascii "[none]") ∨
      ∀ k c, text[k]? = some c → c = asterisk ∨ (number.length ≤ k + 3 ∧ number[k]? = some c))

/-- Every call of a status event is masked, whatever is behind the array. -/
def StatusMasked (logLevel : UInt8) (s : CallRt) (callwait : UInt8) (packet : StatusPacket) :
    Prop :=
  ∃ offset info, tlvOffset packet.bytes packet.len tlvRemoteNumber = .ok offset ∧ offset ≠ 0 ∧
    tlvOffset packet.bytes packet.len tlvCallInfo = .ok info ∧
    (numInstances packet.bytes info).toNat = packet.later.length + 1 ∧
    ∀ behind i record, (packet.first :: packet.later)[i]? = some record →
      ∃ before after, logBefore logLevel behind s callwait packet.bytes info offset i = .ok before ∧
        logRound logLevel behind s callwait packet.bytes info offset before i = .ok after ∧
        Masked record.number after.result after.logPhoneNumber

/-- The number of a request is masked, whatever is behind the array. -/
def RequestMasked (logLevel : UInt8) (bytes : Bytes) (len : Nat) : Prop :=
  ∀ behind, (logRequest logLevel behind bytes len).Ensures fun logged =>
    Masked (dialledDigits bytes) logged.1 logged.2

/-! ## The condition -/

/-- What is copied of a number: the characters before a 0, at most 19. -/
def copiedText (number : List UInt8) : List UInt8 := (cString number).take 19

/-- A text with asterisks in place of the first `n` characters. -/
def maskedText (n : Nat) (text : List UInt8) : List UInt8 :=
  List.replicate n asterisk ++ text.drop n

/-- The string in the log after the first call. -/
def firstString (first : List UInt8) : List UInt8 :=
  if first = [] then Text.ascii "[none]" else maskedText (first.length - 3) (copiedText first)

/-- What lies under the asterisks from the second call on: the second number with the end of the
first one behind it, or, if a 0 in the second number ends that before the asterisks end, the string
of the first call. -/
def underMask (first second : List UInt8) : List UInt8 :=
  if (copiedText (second ++ first.drop second.length)).length + 3 < second.length then
    firstString first
  else copiedText (second ++ first.drop second.length)

/-- From its last three characters on, the text under the asterisks of the second number has only
asterisks and the last three characters of this number. -/
def ClearIsOwn (first second number : List UInt8) : Prop :=
  second = [] ∨ ∀ k c, second.length ≤ k + 3 → (underMask first second)[k]? = some c →
    c = asterisk ∨ (number.length ≤ k + 3 ∧ number[k]? = some c)

/-- A number that has neither a 0 nor an asterisk, as one that consists of digits. -/
def Plain (number : List UInt8) : Prop := 0 ∉ number ∧ asterisk ∉ number

/-- The last three characters of the second number, as far as they are copied, are among the last
three of another number and at the same places. -/
def SharesEnd (second number : List UInt8) : Prop :=
  ∀ k < 19, second.length ≤ k + 3 → k < second.length →
    number.length ≤ k + 3 ∧ number[k]? = second[k]?

/-- The first number does not reach over the second one. -/
def Covers (first second : List UInt8) : Prop :=
  first.length ≤ second.length ∨ 19 ≤ second.length

/-! ## Texts and arrays -/

section Texts

variable {n k : Nat} {text : List UInt8} {dest : Bytes}

theorem getElem?_masked_text :
    (maskedText n text)[k]? = if k < n then some asterisk else text[k]? := by
  rw [maskedText]
  by_cases hk : k < n
  · rw [if_pos hk, List.getElem?_append_left (by simpa using hk), List.getElem?_replicate,
      if_pos hk]
  · rw [if_neg hk, List.getElem?_append_right (by simpa using hk), List.length_replicate,
      List.getElem?_drop, Nat.add_sub_cancel' (Nat.not_lt.1 hk)]

theorem getD_masked_text :
    (maskedText n text).getD k 0 = if k < n then asterisk else text.getD k 0 := by
  rw [List.getD_eq_getElem?_getD, getElem?_masked_text]
  split_ifs <;> simp

theorem length_masked_text : (maskedText n text).length = max n text.length := by
  rw [maskedText, List.length_append, List.length_replicate, List.length_drop]
  omega

theorem masked_text_masked_text : maskedText n (maskedText n text) = maskedText n text := by
  rw [maskedText, maskedText, List.drop_left' (by simp)]

theorem zero_not_mem_masked_text (h : 0 ∉ text) : 0 ∉ maskedText n text := by
  rw [maskedText, List.mem_append]
  rintro (hmem | hmem)
  · exact absurd (List.eq_of_mem_replicate hmem) (by decide)
  · exact h (List.mem_of_mem_drop hmem)

theorem zero_not_mem_copied_text (number : List UInt8) : 0 ∉ copiedText number :=
  fun h => Text.zero_not_mem_take_while number (List.mem_of_mem_take h)

theorem length_copied_text (number : List UInt8) : (copiedText number).length ≤ 19 :=
  List.length_take_le _ _

/-- What is copied is the start of the number. -/
theorem copied_text_prefix (number : List UInt8) : copiedText number <+: number :=
  (List.take_prefix _ _).trans (List.takeWhile_prefix _)

/-- The array holds the text, and zeros behind it. -/
structure Filled (dest : Bytes) (text : List UInt8) : Prop where
  length : text.length < maxPhoneNumberLength
  clean : 0 ∉ text
  bytes : ∀ k < maxPhoneNumberLength, dest k = text.getD k 0

/-- A text and a 0 at the start of an array are a string. -/
theorem string_of_getD (hlength : text.length < maxPhoneNumberLength) (hclean : 0 ∉ text)
    (hbytes : ∀ k ≤ text.length, dest k = text.getD k 0) :
    string maxPhoneNumberLength dest = some text := by
  refine string_eq_some_iff.2 ⟨hlength, hclean, fun k hk => ?_, ?_⟩
  · rw [Nat.zero_add, hbytes k hk.le, List.getD_eq_getElem _ _ hk]
  · rw [hbytes _ le_rfl, List.getD_eq_default _ _ le_rfl]

theorem Filled.string (h : Filled dest text) : string maxPhoneNumberLength dest = some text :=
  string_of_getD h.length h.clean fun k hk => h.bytes k (by have := h.length; omega)

end Texts

/-! ## The function on an array -/

section Mask

variable {logLevel : UInt8} {orig : List UInt8} {dest : Bytes} {len : Nat}

/-- `snprintf` with a text. -/
theorem snprintf_bytes (text : List UInt8) (dest : Bytes) :
    ∃ copied, snprintf maxPhoneNumberLength maxPhoneNumberLength text dest = .ok copied ∧
      ∀ k, copied k =
        if k ≤ (text.take 19).length then (text.take 19).getD k 0 else dest k := by
  have hlength : (text.take 19 ++ [0]).length = (text.take 19).length + 1 := by simp
  have hshort : (text.take 19).length ≤ 19 := List.length_take_le _ _
  obtain ⟨copied, hput, hholds, hframe⟩ := put_all_spec dest (text.take 19 ++ [0]) (i := 0)
    (by rw [hlength, maxPhoneNumberLength]; omega : _ ≤ maxPhoneNumberLength)
  refine ⟨copied, hput, fun k => ?_⟩
  by_cases hk : k ≤ (text.take 19).length
  · have hbyte := hholds k (by omega)
    rw [Nat.zero_add] at hbyte
    rw [if_pos hk, hbyte, ← List.getD_eq_getElem (d := 0)]
    rcases Nat.lt_or_eq_of_le hk with hlt | rfl
    · rw [List.getD_append _ _ _ _ hlt]
    · rw [List.getD_append_right _ _ _ _ le_rfl]
      simp
  · rw [if_neg hk, hframe k (by omega)]

/-- There is no number. -/
theorem mask_empty (dest : Bytes) :
    ∃ masked, maskPhoneNumber logLevel orig dest 0 = .ok (-1, masked) ∧
      ∀ k, masked k = if k ≤ 6 then (Text.ascii "[none]").getD k 0 else dest k := by
  obtain ⟨masked, hprint, hbytes⟩ := snprintf_bytes (Text.ascii "[none]") dest
  refine ⟨masked, ?_, hbytes⟩
  rw [maskPhoneNumber, if_pos Nat.zero_lt_one, hprint]
  rfl

/-- The text is copied, and asterisks are written over it. -/
theorem mask_number (hlevel : logLevel ≠ msgDebug) (hpos : 1 ≤ len)
    (hlen : len ≤ maxPhoneNumberLength) :
    ∃ masked, maskPhoneNumber logLevel orig dest len = .ok (0, masked) ∧
      ∀ k, masked k =
        if k < len - 3 then asterisk
        else if k ≤ (copiedText orig).length then (copiedText orig).getD k 0 else dest k := by
  obtain ⟨copied, hprint, hcopied⟩ := snprintf_bytes (cString orig) dest
  obtain ⟨masked, hput, hholds, hframe⟩ :=
    put_all_spec copied (List.replicate (len - 3) asterisk) (i := 0)
      (by rw [List.length_replicate]; omega : _ ≤ maxPhoneNumberLength)
  rw [List.length_replicate] at hframe
  refine ⟨masked, ?_, fun k => ?_⟩
  · rw [maskPhoneNumber, if_neg (by omega), hprint]
    show (hideNumber logLevel len copied >>= fun dest => .ok (0, dest)) = _
    rw [hideNumber, if_pos hlevel, hput]
    rfl
  · by_cases hk : k < len - 3
    · have hbyte := hholds k (by simpa using hk)
      rw [Nat.zero_add] at hbyte
      rw [if_pos hk, hbyte, List.getElem_replicate]
    · rw [if_neg hk, hframe k (by omega)]
      exact hcopied k

end Mask

/-! ## The text in the array -/

/-- Zeros behind a text do not count, nor does what comes after them. -/
theorem copied_text_padded {text : List UInt8} {zeros : Nat} (behind : List UInt8)
    (hlength : 19 ≤ text.length + zeros) :
    copiedText (text ++ List.replicate zeros 0 ++ behind) = copiedText text := by
  rw [List.append_assoc, copiedText, copiedText, cString, cString, List.takeWhile_append]
  split_ifs with hwhole
  · have htext : text.takeWhile (· ≠ 0) = text :=
      List.IsPrefix.eq_of_length (List.takeWhile_prefix _) hwhole
    rw [htext]
    cases zeros with
    | zero => rw [List.take_append_of_le_length (by omega)]
    | succ zeros =>
        rw [List.replicate_succ, List.cons_append, List.takeWhile_cons_of_neg (by simp),
          List.append_nil]
  · rfl

variable {first second : CallRecord}

theorem copied_first (behind : List UInt8) :
    copiedText (overwrite StatusScan.start.phoneNumber first.number ++ behind) =
      copiedText first.number := by
  have hfits := first.fits
  rw [overwrite, StatusScan.start, List.drop_replicate]
  exact copied_text_padded behind (by rw [maxPhoneNumberLength] at *; omega)

theorem copied_later (behind : List UInt8) :
    copiedText (overwrite (overwrite StatusScan.start.phoneNumber first.number) second.number ++
        behind) =
      copiedText (second.number ++ first.number.drop second.number.length) := by
  have hfirst := first.fits
  have hsecond := second.fits
  rw [overwrite, overwrite, StatusScan.start, List.drop_replicate, List.drop_append,
    List.drop_replicate, ← List.append_assoc]
  refine copied_text_padded behind ?_
  rw [List.length_append, List.length_drop]
  rw [maxPhoneNumberLength] at *
  omega

/-! ## The string of each call -/

section Strings

variable {logLevel : UInt8} {dest : Bytes} {orig : List UInt8}

theorem length_first_string (h : first.number.length ≤ maxPhoneNumberLength) :
    (firstString first.number).length < maxPhoneNumberLength := by
  rw [firstString]
  split_ifs
  · decide
  · have hshort := length_copied_text first.number
    rw [length_masked_text]
    rw [maxPhoneNumberLength] at *
    omega

theorem zero_not_mem_first_string (number : List UInt8) : 0 ∉ firstString number := by
  rw [firstString]
  split_ifs
  · decide
  · exact zero_not_mem_masked_text (zero_not_mem_copied_text number)

/-- The first call is written to an empty array. -/
theorem mask_first (hlevel : logLevel ≠ msgDebug)
    (horig : copiedText orig = copiedText first.number) :
    ∃ result masked,
      maskPhoneNumber logLevel orig (fun _ => 0) first.number.length = .ok (result, masked) ∧
        Filled masked (firstString first.number) ∧
        (first.number = [] → result = -1) ∧ (first.number ≠ [] → result = 0) := by
  have hlength := @length_first_string first first.fits
  have hclean := zero_not_mem_first_string first.number
  by_cases hempty : first.number = []
  · obtain ⟨masked, hmask, hbytes⟩ := @mask_empty logLevel orig fun _ => 0
    refine ⟨-1, masked, by rw [hempty]; exact hmask, ⟨hlength, hclean, fun k _ => ?_⟩,
      fun _ => rfl, fun hne => absurd hempty hne⟩
    rw [hbytes k, firstString, if_pos hempty]
    split_ifs with hk
    · rfl
    · rw [List.getD_eq_default _ _ (by show 6 ≤ k; omega)]
  · have hpos : 1 ≤ first.number.length := List.length_pos_iff.2 hempty
    obtain ⟨masked, hmask, hbytes⟩ :=
      @mask_number logLevel orig (fun _ => 0) _ hlevel hpos first.fits
    refine ⟨0, masked, hmask, ⟨hlength, hclean, fun k _ => ?_⟩, fun h => absurd h hempty,
      fun _ => rfl⟩
    rw [hbytes k, firstString, if_neg hempty, getD_masked_text, horig]
    split_ifs with hhidden hcopied
    · rfl
    · rfl
    · rw [List.getD_eq_default _ _ (by omega)]

section Over

variable {n : Nat} {text old : List UInt8} {masked : Bytes}

/-- A text that ends under the asterisks: what is behind them has been there before. -/
theorem filled_over
    (hbytes : ∀ k, masked k =
      if k < n then asterisk else if k ≤ text.length then text.getD k 0 else dest k)
    (hshort : text.length < n) (hn : n < maxPhoneNumberLength) (hold : Filled dest old) :
    Filled masked (maskedText n old) := by
  refine ⟨?_, zero_not_mem_masked_text hold.clean, fun k hk => ?_⟩
  · rw [length_masked_text]
    exact max_lt hn hold.length
  · rw [hbytes k, getD_masked_text]
    split_ifs with hhidden hcopied
    · rfl
    · omega
    · exact hold.bytes k hk

/-- A text that reaches to the end of the asterisks is ended by its own 0. -/
theorem string_over
    (hbytes : ∀ k, masked k =
      if k < n then asterisk else if k ≤ text.length then text.getD k 0 else dest k)
    (hlong : n ≤ text.length) (hlength : text.length < maxPhoneNumberLength) (hclean : 0 ∉ text) :
    string maxPhoneNumberLength masked = some (maskedText n text) := by
  refine string_of_getD ?_ (zero_not_mem_masked_text hclean) fun k hk => ?_
  · rw [length_masked_text, max_eq_right hlong]
    exact hlength
  · rw [length_masked_text, max_eq_right hlong] at hk
    rw [hbytes k, getD_masked_text, if_pos hk]

end Over

/-- A later call is written over what the calls before have left. -/
theorem mask_later (hlevel : logLevel ≠ msgDebug) (hnonempty : second.number ≠ [])
    (horig : copiedText orig =
      copiedText (second.number ++ first.number.drop second.number.length))
    (hleft : (copiedText orig).length + 3 < second.number.length → ∃ old, Filled dest old ∧
      maskedText (second.number.length - 3) old =
        maskedText (second.number.length - 3) (firstString first.number)) :
    ∃ masked, maskPhoneNumber logLevel orig dest second.number.length = .ok (0, masked) ∧
      string maxPhoneNumberLength masked = some (maskedText (second.number.length - 3)
        (underMask first.number second.number)) ∧
      ((copiedText orig).length + 3 < second.number.length →
        Filled masked (maskedText (second.number.length - 3) (firstString first.number))) := by
  have hpos : 1 ≤ second.number.length := List.length_pos_iff.2 hnonempty
  have hsecond := second.fits
  have hstars : second.number.length - 3 < maxPhoneNumberLength := by omega
  obtain ⟨masked, hmask, hbytes⟩ := @mask_number logLevel orig dest _ hlevel hpos hsecond
  refine ⟨masked, hmask, ?_⟩
  by_cases hshort : (copiedText orig).length + 3 < second.number.length
  · obtain ⟨old, hold, hsame⟩ := hleft hshort
    have hfilled := filled_over hbytes (by omega) hstars hold
    rw [hsame] at hfilled
    refine ⟨?_, fun _ => hfilled⟩
    rw [underMask, if_pos (by rw [← horig]; exact hshort)]
    exact hfilled.string
  · refine ⟨?_, fun h => absurd h hshort⟩
    rw [underMask, if_neg (by rw [← horig]; exact hshort), ← horig]
    have hlength : (copiedText orig).length < maxPhoneNumberLength :=
      Nat.lt_succ_of_le (length_copied_text orig)
    exact string_over hbytes (by omega) hlength (zero_not_mem_copied_text orig)

/-- A call without a number. -/
theorem mask_none (dest : Bytes) :
    ∃ masked, maskPhoneNumber logLevel orig dest 0 = .ok (-1, masked) ∧
      string maxPhoneNumberLength masked = some (Text.ascii "[none]") := by
  obtain ⟨masked, hmask, hbytes⟩ := @mask_empty logLevel orig dest
  refine ⟨masked, hmask, string_of_getD (by decide) (by decide) fun k hk => ?_⟩
  have hk : k ≤ 6 := hk
  rw [hbytes k, if_pos hk]

end Strings

/-! ## The rounds -/

section Rounds

variable {logLevel : UInt8} {behind : List UInt8} {s : CallRt} {callwait : UInt8} {bytes : Bytes}
  {info offset : Nat} {later : List CallRecord}

/-- What round `i` writes to the log. -/
structure Logs (first second : CallRecord) (i : Nat) (after : LogScan) : Prop where
  start : i = 0 → Filled after.logPhoneNumber (firstString first.number) ∧
    (first.number = [] → after.result = -1) ∧ (first.number ≠ [] → after.result = 0)
  none : i ≠ 0 → second.number = [] → after.result = -1 ∧
    string maxPhoneNumberLength after.logPhoneNumber = some (Text.ascii "[none]")
  some : i ≠ 0 → second.number ≠ [] → after.result = 0 ∧
    string maxPhoneNumberLength after.logPhoneNumber =
      some (maskedText (second.number.length - 3) (underMask first.number second.number))
  /-- A text that ends under the asterisks leaves the end of the string of the first call. -/
  left : second.number ≠ [] →
    (copiedText (second.number ++ first.number.drop second.number.length)).length + 3 <
      second.number.length → ∃ old, Filled after.logPhoneNumber old ∧
        maskedText (second.number.length - 3) old =
          maskedText (second.number.length - 3) (firstString first.number)

theorem log_round_eq {log : LogScan} {scan : StatusScan} {result : Int} {dest : Bytes} {i : Nat}
    (hscan : statusRound s callwait bytes info offset log.scan i = .ok scan)
    (hmask : maskPhoneNumber logLevel (scan.phoneNumber ++ behind) log.logPhoneNumber
      scan.lastLength = .ok (result, dest)) :
    logRound logLevel behind s callwait bytes info offset log i = .ok ⟨scan, dest, result⟩ := by
  rw [logRound, hscan]
  show (maskPhoneNumber logLevel (scan.phoneNumber ++ behind) log.logPhoneNumber
    scan.lastLength).mapError LogFault.write >>= _ = _
  rw [hmask]
  rfl

/-- The first round writes the first number. -/
theorem logs_first (hlevel : logLevel ≠ msgDebug) {scan : StatusScan}
    (hscan : statusRound s callwait bytes info offset LogScan.start.scan 0 = .ok scan)
    (hspec : RoundSpec first later 0 LogScan.start.scan scan) :
    ∃ after, logRound logLevel behind s callwait bytes info offset .start 0 = .ok after ∧
      after.scan = scan ∧ Logs first (later.headD first) 0 after := by
  have horig : copiedText (scan.phoneNumber ++ behind) = copiedText first.number := by
    rw [hspec.phoneNumber]
    exact copied_first behind
  have hlength : scan.lastLength = first.number.length := hspec.lastLength
  obtain ⟨result, dest, hmask, hfilled, hresult⟩ := mask_first hlevel horig
  rw [← hlength] at hmask
  refine ⟨_, log_round_eq hscan hmask, rfl, fun _ => ⟨hfilled, hresult⟩, ?_, ?_, ?_⟩
  · exact fun hi => absurd rfl hi
  · exact fun hi => absurd rfl hi
  · exact fun _ _ => ⟨_, hfilled, rfl⟩

/-- Every later round writes the second number. -/
theorem logs_later (hlevel : logLevel ≠ msgDebug) {i : Nat} {log : LogScan} {scan : StatusScan}
    (hlog : Logs first (later.headD first) i log)
    (hscan : statusRound s callwait bytes info offset log.scan (i + 1) = .ok scan)
    (hspec : RoundSpec first later (i + 1) log.scan scan) :
    ∃ after, logRound logLevel behind s callwait bytes info offset log (i + 1) = .ok after ∧
      after.scan = scan ∧ Logs first (later.headD first) (i + 1) after := by
  have hread : recordRead first later (i + 1) = later.headD first := if_neg (Nat.succ_ne_zero i)
  have hlength : scan.lastLength = (later.headD first).number.length := by
    rw [hspec.lastLength, hread]
  have horig : copiedText (scan.phoneNumber ++ behind) = copiedText ((later.headD first).number ++
      first.number.drop (later.headD first).number.length) := by
    rw [hspec.phoneNumber, hread, arrayBefore, if_neg (Nat.succ_ne_zero i)]
    exact copied_later behind
  by_cases hempty : (later.headD first).number = []
  · obtain ⟨masked, hmask, hstring⟩ :=
      @mask_none logLevel (scan.phoneNumber ++ behind) log.logPhoneNumber
    have hzero : scan.lastLength = 0 := by
      rw [hlength, hempty]
      rfl
    rw [← hzero] at hmask
    refine ⟨_, log_round_eq hscan hmask, rfl, fun hi => absurd hi (Nat.succ_ne_zero i),
      fun _ _ => ⟨rfl, hstring⟩, ?_, ?_⟩
    · exact fun _ hne => absurd hempty hne
    · exact fun hne => absurd hempty hne
  · obtain ⟨masked, hmask, hstring, hfilled⟩ := @mask_later first _ logLevel log.logPhoneNumber _
      hlevel hempty horig (by rw [horig]; exact hlog.left hempty)
    rw [← hlength] at hmask
    refine ⟨_, log_round_eq hscan hmask, rfl, fun hi => absurd hi (Nat.succ_ne_zero i), ?_,
      fun _ _ => ⟨rfl, hstring⟩, ?_⟩
    · exact fun _ h => absurd h hempty
    · intro _ hshort
      rw [← horig] at hshort
      exact ⟨_, hfilled hshort, masked_text_masked_text⟩

/-- The log of a status event. -/
theorem log_rounds_spec (hlevel : logLevel ≠ msgDebug)
    (h : Holds bytes (offset + 4) ((first :: later).flatMap CallRecord.encode)) (i : Nat)
    (hi : i ≤ later.length) :
    ∃ before after, logBefore logLevel behind s callwait bytes info offset i = .ok before ∧
      logRound logLevel behind s callwait bytes info offset before i = .ok after ∧
      scanBefore s callwait bytes info offset i = .ok before.scan ∧
      statusRound s callwait bytes info offset before.scan i = .ok after.scan ∧
      Logs first (later.headD first) i after := by
  induction i with
  | zero =>
      obtain ⟨before, scan, hbefore, hscan, hspec⟩ :=
        @rounds_spec s callwait bytes info offset first later h 0 hi
      cases hbefore
      obtain ⟨after, hround, rfl, hlogs⟩ :=
        @logs_first first logLevel behind s callwait bytes info offset later hlevel _ hscan hspec
      exact ⟨.start, after, rfl, hround, rfl, hscan, hlogs⟩
  | succ i ih =>
      obtain ⟨before, between, hbefore, hround, hscanned, hscan, hlogs⟩ := ih (by omega)
      obtain ⟨_, scan, hscanBefore, hnext, hspec⟩ :=
        @rounds_spec s callwait bytes info offset first later h (i + 1) hi
      have hbetween : scanBefore s callwait bytes info offset (i + 1) = .ok between.scan := by
        simp only [scanBefore, List.range_succ, List.foldlM_append, List.foldlM_cons,
          List.foldlM_nil, bind_pure] at hscanned ⊢
        rw [hscanned]
        exact hscan
      cases hbetween.symm.trans hscanBefore
      obtain ⟨after, hlogged, rfl, hlater⟩ := logs_later hlevel hlogs hnext hspec
      refine ⟨between, after, ?_, hlogged, hbetween, hnext, hlater⟩
      simp only [logBefore, List.range_succ, List.foldlM_append, List.foldlM_cons,
        List.foldlM_nil, bind_pure] at hbefore ⊢
      rw [hbefore]
      exact hround

end Rounds

/-! ## The numbers that are masked -/

section Numbers

variable {logLevel : UInt8} {result : Int} {dest : Bytes} {number : List UInt8}

/-- The first number is always masked. -/
theorem masked_first (hfilled : Filled dest (firstString number))
    (hnone : number = [] → result = -1) : Masked number result dest := by
  refine ⟨_, hfilled.string, ?_⟩
  by_cases hempty : number = []
  · exact Or.inl ⟨hnone hempty, by rw [firstString, if_pos hempty]⟩
  · refine Or.inr fun k c hc => ?_
    rw [firstString, if_neg hempty, getElem?_masked_text] at hc
    split_ifs at hc with hk
    · exact Or.inl (Option.some.inj hc).symm
    · obtain ⟨rest, hrest⟩ := copied_text_prefix number
      refine Or.inr ⟨by omega, ?_⟩
      rw [← hrest, List.getElem?_append_left (List.getElem?_eq_some_iff.1 hc).1]
      exact hc

/-- A later number is masked if what is left in clear is its own. -/
theorem masked_later_iff {i : Nat} {log : LogScan} (hi : i ≠ 0) (h : Logs first second i log) :
    Masked number log.result log.logPhoneNumber ↔
      ClearIsOwn first.number second.number number := by
  by_cases hempty : second.number = []
  · obtain ⟨hresult, hstring⟩ := h.none hi hempty
    exact iff_of_true ⟨_, hstring, Or.inl ⟨hresult, rfl⟩⟩ (Or.inl hempty)
  · obtain ⟨hresult, hstring⟩ := h.some hi hempty
    constructor
    · rintro ⟨text, htext, hclear⟩
      cases hstring.symm.trans htext
      have hclear := hclear.resolve_left fun hnone => by
        rw [hresult] at hnone
        exact absurd hnone.1 (by decide)
      refine Or.inr fun k c hk hc => hclear k c ?_
      rw [getElem?_masked_text, if_neg (by omega), hc]
    · intro hclear
      refine ⟨_, hstring, Or.inr fun k c hc => ?_⟩
      rw [getElem?_masked_text] at hc
      split_ifs at hc with hk
      · exact Or.inl (Option.some.inj hc).symm
      · exact hclear.resolve_left hempty k c (by omega) hc

/-- The status events of which all calls are masked. -/
theorem status_masked_iff (hlevel : logLevel ≠ msgDebug) (s : CallRt) (callwait : UInt8)
    (packet : StatusPacket) :
    StatusMasked logLevel s callwait packet ↔
      ∀ record ∈ packet.later, ClearIsOwn packet.first.number
        (packet.later.headD packet.first).number record.number := by
  obtain ⟨offset, info, hremote, hpresent, hinfo, hcount, hrecords⟩ := packet_rounds packet
  have hbound : ∀ {i : Nat} {record : CallRecord},
      (packet.first :: packet.later)[i]? = some record → i ≤ packet.later.length := by
    intro i record hrecord
    have hlt := (List.getElem?_eq_some_iff.1 hrecord).1
    rw [List.length_cons] at hlt
    omega
  constructor
  · rintro ⟨offset', info', hremote', -, hinfo', -, hrounds⟩ record hrecord
    rw [hremote, Except.ok.injEq] at hremote'
    rw [hinfo, Except.ok.injEq] at hinfo'
    subst hremote' hinfo'
    obtain ⟨i, hi⟩ := List.mem_iff_getElem?.1 hrecord
    have hplace : (packet.first :: packet.later)[i + 1]? = some record := hi
    obtain ⟨before, after, hbefore, hround, hmasked⟩ := hrounds [] (i + 1) record hplace
    obtain ⟨_, _, hbefore', hround', -, -, hlogs⟩ := @log_rounds_spec packet.first logLevel [] s
      callwait packet.bytes info offset packet.later hlevel hrecords _ (hbound hplace)
    cases hbefore.symm.trans hbefore'
    cases hround.symm.trans hround'
    exact (masked_later_iff (Nat.succ_ne_zero i) hlogs).1 hmasked
  · intro hclear
    refine ⟨offset, info, hremote, hpresent, hinfo, hcount, fun behind i record hrecord => ?_⟩
    obtain ⟨before, after, hbefore, hround, -, -, hlogs⟩ := @log_rounds_spec packet.first logLevel
      behind s callwait packet.bytes info offset packet.later hlevel hrecords _ (hbound hrecord)
    refine ⟨before, after, hbefore, hround, ?_⟩
    cases i with
    | zero =>
        rw [List.getElem?_cons_zero, Option.some.injEq] at hrecord
        obtain ⟨hfilled, hnone, -⟩ := hlogs.start rfl
        exact hrecord ▸ masked_first hfilled hnone
    | succ i =>
        rw [List.getElem?_cons_succ] at hrecord
        exact (masked_later_iff (Nat.succ_ne_zero i) hlogs).2
          (hclear record (List.mem_of_getElem? hrecord))

/-! ## Plain numbers -/

section Plain

variable {f t : List UInt8}

/-- Plain numbers are copied whole, up to the length of the string. -/
theorem under_mask_plain (hfirst : Plain f) (hsecond : Plain t)
    (hfits : t.length ≤ maxPhoneNumberLength) :
    underMask f t = (t ++ f.drop t.length).take 19 := by
  have hclean : 0 ∉ t ++ f.drop t.length := by
    rw [List.mem_append, not_or]
    exact ⟨hsecond.1, fun h => hfirst.1 (List.mem_of_mem_drop h)⟩
  have hcopied : copiedText (t ++ f.drop t.length) = (t ++ f.drop t.length).take 19 := by
    rw [copiedText, cString, List.takeWhile_eq_self_iff.2]
    intro c hc
    exact decide_eq_true fun hzero => hclean (hzero ▸ hc)
  rw [underMask, hcopied, if_neg]
  rw [List.length_take, List.length_append]
  rw [maxPhoneNumberLength] at hfits
  omega

/-- What is left in clear of plain numbers: the end of the second number, and what of the first one
is behind it. -/
theorem clear_is_own_plain (hfirst : Plain f) (hsecond : Plain t)
    (hfits : t.length ≤ maxPhoneNumberLength) :
    ClearIsOwn f t number ↔ t = [] ∨ (SharesEnd t number ∧
      ∀ k < 19, t.length ≤ k → ∀ c, f[k]? = some c →
        number.length ≤ k + 3 ∧ number[k]? = some c) := by
  rw [ClearIsOwn, under_mask_plain hfirst hsecond hfits]
  refine or_congr_right ⟨fun h => ⟨fun k hk hend hlt => ?_, fun k hk hle c hc => ?_⟩, ?_⟩
  · have hchar : t[k]? = some t[k] := List.getElem?_eq_getElem hlt
    have hshown := h k t[k] hend (by
      rw [List.getElem?_take_of_lt hk, List.getElem?_append_left hlt, hchar])
    rw [hchar]
    exact hshown.resolve_left fun hstar => hsecond.2 (hstar ▸ List.getElem_mem hlt)
  · have hshown := h k c (by omega) (by
      rw [List.getElem?_take_of_lt hk, List.getElem?_append_right hle, List.getElem?_drop,
        Nat.add_sub_cancel' hle, hc])
    exact hshown.resolve_left fun hstar => hfirst.2 (hstar ▸ List.mem_of_getElem? hc)
  · rintro ⟨hend, hbehind⟩ k c hk hc
    have hlt : k < 19 := by
      by_contra hge
      rw [List.getElem?_take_eq_none (Nat.not_lt.1 hge)] at hc
      cases hc
    rw [List.getElem?_take_of_lt hlt] at hc
    rcases Nat.lt_or_ge k t.length with hinside | hle
    · rw [List.getElem?_append_left hinside] at hc
      rw [← hc]
      exact Or.inr (hend k hlt hk hinside)
    · rw [List.getElem?_append_right hle, List.getElem?_drop, Nat.add_sub_cancel' hle] at hc
      exact Or.inr (hbehind k hlt hle c hc)

end Plain

/-- Plain numbers are masked exactly if the first number does not reach over the second one, and the
later ones end like the second one. -/
theorem clear_plain_iff {later : List CallRecord}
    (hplain : ∀ record ∈ first :: later, Plain record.number) :
    (∀ record ∈ later, ClearIsOwn first.number (later.headD first).number record.number) ↔
      (later.headD first).number = [] ∨ (Covers first.number (later.headD first).number ∧
        ∀ record ∈ later, SharesEnd (later.headD first).number record.number) := by
  cases later with
  | nil => exact iff_of_true (by simp) (Or.inr ⟨Or.inl le_rfl, by simp⟩)
  | cons second others =>
      rw [List.headD_cons]
      have hfirst := hplain first List.mem_cons_self
      have hsecond := hplain second (List.mem_cons_of_mem _ List.mem_cons_self)
      simp only [clear_is_own_plain hfirst hsecond second.fits]
      by_cases hempty : second.number = []
      · exact iff_of_true (fun _ _ => Or.inl hempty) (Or.inl hempty)
      · simp only [hempty, false_or]
        constructor
        · intro h
          refine ⟨?_, fun record hrecord => (h record hrecord).1⟩
          by_contra hcovers
          rw [Covers, not_or, Nat.not_le, Nat.not_le] at hcovers
          -- the character of the first number behind the second one is in clear
          have hshown := (h second List.mem_cons_self).2 second.number.length hcovers.2 le_rfl _
            (List.getElem?_eq_getElem hcovers.1)
          rw [List.getElem?_eq_none le_rfl] at hshown
          cases hshown.2
        · rintro ⟨hcovers, hend⟩ record hrecord
          refine ⟨hend record hrecord, fun k hk hle c hc => ?_⟩
          have hlt := (List.getElem?_eq_some_iff.1 hc).1
          rcases hcovers with hshort | hlong
          · omega
          · omega

/-! ## The requests -/

/-- An array of digits. -/
theorem map_range_ofList {digits : List UInt8} (hfits : digits.length ≤ maxPhoneNumberLength) :
    (List.range maxPhoneNumberLength).map (ofList digits) =
      digits ++ List.replicate (maxPhoneNumberLength - digits.length) 0 := by
  refine List.ext_getElem (by simp; omega) fun k hk _ => ?_
  rw [List.getElem_map, List.getElem_range, ofList]
  by_cases hdigit : k < digits.length
  · rw [List.getElem_append_left hdigit, List.getD_eq_getElem _ _ hdigit]
  · rw [List.getElem_append_right (by omega), List.getElem_replicate,
      List.getD_eq_default _ _ (by omega)]

/-- The requests of which the number is masked. -/
theorem request_masked_iff (hlevel : logLevel ≠ msgDebug) (bytes : Bytes) (len : Nat) :
    RequestMasked logLevel bytes len ↔
      16 + le16 bytes 14 ≤ len ∧ (dialledDigits bytes).length ≤ maxPhoneNumberLength := by
  constructor
  · intro h
    obtain ⟨logged, hlogged, -⟩ := h []
    obtain ⟨scan, hscan, -⟩ := bind_ok hlogged
    have hdial : (dialLoop bytes len).Ensures fun _ => True :=
      ensures_map_error.1 ⟨scan, hscan, trivial⟩
    obtain ⟨scan, hscan, -⟩ := hdial
    obtain ⟨hinside, hfits, -⟩ := dial_loop_iff.1 hscan
    exact ⟨hinside, hfits⟩
  · rintro ⟨hinside, hfits⟩ behind
    have hscan := dial_loop_iff.2 ⟨hinside, hfits, rfl⟩
    -- the digits are written to the log like the number of a first call
    let dialled : CallRecord := ⟨0, 0, dialledDigits bytes, hfits⟩
    have horig : copiedText ((List.range maxPhoneNumberLength).map (ofList dialled.number) ++
        behind) = copiedText dialled.number := by
      rw [map_range_ofList hfits]
      refine copied_text_padded behind ?_
      rw [maxPhoneNumberLength] at *
      omega
    obtain ⟨result, masked, hmask, hfilled, hnone, -⟩ := mask_first hlevel horig
    have hsize : (UInt8.ofNat (dialledDigits bytes).length).toNat =
        (dialledDigits bytes).length := by
      rw [UInt8.toNat_ofNat']
      rw [maxPhoneNumberLength] at hfits
      omega
    refine ⟨(result, masked), ?_, masked_first hfilled hnone⟩
    rw [logRequest, hscan]
    show (maskPhoneNumber logLevel _ _
      (UInt8.ofNat (dialledDigits bytes).length).toNat).mapError LogFault.write = _
    rw [hsize]
    show (maskPhoneNumber logLevel _ _ dialled.number.length).mapError LogFault.write = _
    exact congrArg (Except.mapError LogFault.write) hmask

/-- With another log level than that of debug messages: the numbers of a status event are masked
exactly if after the first call nothing but the last three characters of each call's own number is
left in clear, which for plain numbers means that the second one covers the first one and that the
others end like it. The number of a request is masked exactly if it is in the packet and has a place
in the array. -/
theorem numbers_masked_iff (hlevel : logLevel ≠ msgDebug) :
    (∀ (s : CallRt) (callwait : UInt8) (packet : StatusPacket),
      (StatusMasked logLevel s callwait packet ↔
        ∀ record ∈ packet.later, ClearIsOwn packet.first.number
          (packet.later.headD packet.first).number record.number) ∧
      ((∀ record ∈ packet.first :: packet.later, Plain record.number) →
        (StatusMasked logLevel s callwait packet ↔
          (packet.later.headD packet.first).number = [] ∨
            (Covers packet.first.number (packet.later.headD packet.first).number ∧
              ∀ record ∈ packet.later,
                SharesEnd (packet.later.headD packet.first).number record.number)))) ∧
      ∀ (bytes : Bytes) (len : Nat),
        RequestMasked logLevel bytes len ↔
          16 + le16 bytes 14 ≤ len ∧
            (dialledDigits bytes).length ≤ maxPhoneNumberLength := by
  refine ⟨fun s callwait packet => ?_, request_masked_iff hlevel⟩
  have hstatus := status_masked_iff hlevel s callwait packet
  exact ⟨hstatus, fun hplain => hstatus.trans (clear_plain_iff hplain)⟩

end Numbers

/-- The numbers `"61"` and `"1122"`. -/
def longerNumbers : Qmi.Tlv :=
  ⟨tlvRemoteNumber, [0x02, 0x01, 0, 0x02, 0x36, 0x31, 0x02, 0, 0x04, 0x31, 0x31, 0x32, 0x32],
    by decide⟩

/-- A call from a longer number during a call from a shorter one. -/
def longerSecondNumber : StatusPacket where
  bytes := sampleStatus [twoCallsInfo, longerNumbers]
  len := 47
  tlvs := [twoCallsInfo, longerNumbers]
  wellFormed := ⟨by unfold Holds; decide, by decide⟩
  short := by decide
  first := ⟨0x01, 0, [0x36, 0x31], by decide⟩
  later := [⟨0x02, 0, [0x31, 0x31, 0x32, 0x32], by decide⟩]
  isStatus := rfl
  few := by decide
  info := ⟨twoCallsInfo, rfl, rfl⟩
  remote := ⟨longerNumbers, rfl, rfl⟩

/-- Its numbers are masked, and so is that of a request to call the modem. -/
theorem longer_second_number_masked :
    StatusMasked 1 .zero 0 longerSecondNumber ∧ RequestMasked 1 (sampleRequest 0x20 5 0) 28 := by
  obtain ⟨hstatus, hrequest⟩ := @numbers_masked_iff 1 (by decide)
  refine ⟨((hstatus .zero 0 longerSecondNumber).2 ?_).2 ?_, (hrequest _ 28).2 (by decide)⟩
  · unfold Plain
    decide
  · exact Or.inr ⟨Or.inl (by decide), by unfold SharesEnd; decide⟩

/-- The second number `"60"` is written as `"602"`, with the end of the first one. -/
theorem shorter_second_number_shown :
    ¬ ∀ logLevel : UInt8, logLevel ≠ msgDebug →
      (∀ (s : CallRt) (callwait : UInt8) (packet : StatusPacket),
        StatusMasked logLevel s callwait packet) ∧
      ∀ (bytes : Bytes) (len : Nat), RequestMasked logLevel bytes len := by
  intro h
  have hmasked := (h 1 (by decide)).1 .zero 0 shorterSecondNumber
  have hclear := (status_masked_iff (by decide) _ _ _).1 hmasked _ List.mem_cons_self
  have hshown := hclear.resolve_left (by decide) 2 0x32 (by decide) (by decide)
  exact absurd hshown (by decide)

end OpenQti.Call
