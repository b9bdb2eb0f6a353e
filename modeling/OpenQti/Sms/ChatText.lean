import Mathlib.Data.Bool.AllAny
import OpenQti.Sms.Gsm7
import OpenQti.Sms.Intercept

/-!
# Chat texts of the host

A text that the host sends to the modem's number, in seven-bit characters, as
`intercept_and_parse` hands it to `parse_command`. `gsm7_to_ascii` takes the characters out of the
packet and does not translate them, so a character arrives as it was sent only if it has the same
code in both alphabets. And the array for the text has as many bytes as a text has characters, with
no room for a terminator. `chat_text_survives_iff` says which texts survive.
-/

namespace OpenQti.Sms

open Buffer Except Qmi

/-! ## The property -/

/-- A printable character or a line feed that is in the seven-bit alphabet or its extension. Of the
printable characters only the grave accent is in neither. -/
def ChatCharacter (c : UInt8) : Prop := c = 10 ∨ (32 ≤ c ∧ c ≤ 126 ∧ c ≠ 96)

instance (c : UInt8) : Decidable (ChatCharacter c) :=
  inferInstanceAs (Decidable (c = 10 ∨ (32 ≤ c ∧ c ≤ 126 ∧ c ≠ 96)))

/-- The offset of `content_sz`, by the type of the PDU. -/
def contentOffset (bytes : Bytes) : Option Nat :=
  if 0x11 ≤ outgoingPduType bytes then some 33
  else if outgoingPduType bytes = 0x01 then some 32
  else none

/-- The packet submits the text to the modem: the destination is one of its numbers, and behind the
number of characters it holds the characters of the text. -/
structure SubmitsText (p : OutgoingSms) (text : List UInt8) : Prop where
  target : targetPhoneNumber p.bytes = ourPhone ∨ targetPhoneNumber p.bytes = cbPhone
  contents : ∃ offset, contentOffset p.bytes = some offset ∧
    (p.bytes offset).toNat = (septets text).length ∧
    Packed (septets text) (fun i => p.bytes (offset + 1 + i)) ∧
    offset + 1 + packedSize (septets text).length ≤ p.len

/-- The string in the array that `parse_command` is called with is the text. -/
def HandsOver (source : PacketSource) (p : OutgoingSms) (text : List UInt8) : Prop :=
  (checkWmsMessage source p.bytes p.len).Ensures fun result =>
    ∃ interception, result.2 = some interception ∧
      string maxMessageSize interception.command = some text

/-- The characters that have another code in the seven-bit alphabet, or are escaped:
`$ @ [ \ ] ^ _` and `{ | } ~`. -/
def recodedCharacters : List UInt8 := [36, 64, 91, 92, 93, 94, 95, 123, 124, 125, 126]

/-! ## Characters -/

variable {text : List UInt8} {p : OutgoingSms}

/-- A character is the first of its own seven-bit characters, and then the only one, exactly if it
is not recoded. -/
theorem byte_septets_of_chat {c : UInt8} (hc : ChatCharacter c) :
    if c ∈ recodedCharacters then (byteSeptets c).head? ≠ some c else byteSeptets c = [c] := by
  have hall : ∀ n : Fin 256, ChatCharacter (UInt8.ofNat n) →
      if UInt8.ofNat n ∈ recodedCharacters then
        (byteSeptets (UInt8.ofNat n)).head? ≠ some (UInt8.ofNat n)
      else byteSeptets (UInt8.ofNat n) = [UInt8.ofNat n] := by
    decide +kernel
  have hthis := hall ⟨c.toNat, c.toNat_lt⟩
  simp only [UInt8.ofNat_toNat] at hthis
  exact hthis hc

/-- A text without recoded characters is its own seven-bit characters. -/
theorem septets_eq_self (htext : ∀ c ∈ text, ChatCharacter c)
    (hplain : ∀ c ∈ text, c ∉ recodedCharacters) : septets text = text := by
  induction text with
  | nil => rfl
  | cons c text ih =>
      have hc := byte_septets_of_chat (htext c (by simp))
      rw [if_neg (hplain c (by simp))] at hc
      rw [septets_cons, hc, ih (fun d hd => htext d (by simp [hd]))
        (fun d hd => hplain d (by simp [hd])), List.singleton_append]

theorem byte_septets_ne_nil (c : UInt8) : byteSeptets c ≠ [] := by
  unfold byteSeptets
  split_ifs <;> simp

/-- If the seven-bit characters begin with the text, it has no recoded characters. -/
theorem plain_of_initial (htext : ∀ c ∈ text, ChatCharacter c) (h : text <+: septets text) :
    ∀ c ∈ text, c ∉ recodedCharacters := by
  induction text with
  | nil => exact nofun
  | cons c text ih =>
      have hc := byte_septets_of_chat (htext c (by simp))
      rw [septets_cons] at h
      split_ifs at hc with hrecoded
      · -- the first seven-bit character of the text is another one
        obtain ⟨rest, hrest⟩ := h
        have hhead := congrArg List.head? hrest
        rw [List.cons_append, List.head?_cons, List.head?_append_of_ne_nil _ (byte_septets_ne_nil c)]
          at hhead
        exact absurd hhead.symm hc
      · rw [hc, List.singleton_append, List.cons_prefix_cons] at h
        intro d hd
        obtain rfl | hd := List.mem_cons.1 hd
        · exact hrecoded
        · exact ih (fun d hd => htext d (by simp [hd])) h.2 d hd

/-! ## The packet -/

/-- The decoder reads the seven-bit characters back, and leaves zeros behind them. -/
theorem outgoing_contents_packed {bytes : Bytes} {offset : Nat}
    (hoffset : contentOffset bytes = some offset)
    (hlength : (septets text).length ≤ maxMessageSize)
    (hcount : (bytes offset).toNat = (septets text).length)
    (hpacked : Packed (septets text) fun i => bytes (offset + 1 + i)) :
    outgoingContents bytes offset = .ok fun i => (septets text).getD i 0 := by
  have hmax : maxMessageSize = 160 := rfl
  have hrange : 32 ≤ offset ∧ offset ≤ 33 := by
    unfold contentOffset at hoffset
    split_ifs at hoffset <;> cases hoffset <;> omega
  have hbuffer : (receiveBuffer bytes).HasBuffer (offset + 1 - incomingHeaderSize)
      (packedSize (septets text).length) := by
    refine .inr ?_
    simp only [Packet.Within, receiveBuffer, incomingHeaderSize, maxPacketSize, packedSize]
    omega
  have hsame : ∀ i < packedSize (septets text).length,
      (receiveBuffer bytes).data (offset + 1 - incomingHeaderSize + i) =
        bytes (offset + 1 + i) := by
    intro i _
    simp only [Packet.data, receiveBuffer, incomingHeaderSize]
    congr 1
    omega
  rw [outgoingContents, hcount,
    gsm7_to_ascii_packed hpacked (seven_bit_septets text) hbuffer hsame hlength]
  refine congrArg Except.ok (funext fun i => ?_)
  split_ifs with hi
  · rfl
  · simp [not_lt.1 hi]

/-- What `parse_command` is called with: the seven-bit characters, and zeros behind them. -/
theorem intercepted_command (source : PacketSource)
    (hlength : (septets text).length ≤ maxMessageSize) (hsubmit : SubmitsText p text) :
    ∃ transactionId, checkWmsMessage source p.bytes p.len =
      .ok (1, some ⟨transactionId, fun i => (septets text).getD i 0⟩) := by
  obtain ⟨htarget, offset, hoffset, hcount, hpacked, -⟩ := hsubmit
  have hcontents := outgoing_contents_packed hoffset hlength hcount hpacked
  have htext : outgoingText p.bytes = .ok fun i => (septets text).getD i 0 := by
    unfold contentOffset at hoffset
    unfold outgoingText
    split_ifs at hoffset ⊢ with hvalidity hone
    · cases hoffset
      exact hcontents
    · cases hoffset
      exact hcontents
  refine ⟨qmiTransactionId p.bytes, ?_⟩
  rw [checkWmsMessage, if_pos p.layout, if_pos htarget, interceptAndParse, if_pos p.layout, htext]
  rfl

/-- The seven-bit characters are the text, in an array with room for its terminator, exactly if it is
not too long and has no recoded characters. -/
theorem string_septets_iff (htext : ∀ c ∈ text, ChatCharacter c) :
    string maxMessageSize (fun i => (septets text).getD i 0) = some text ↔
      (∀ c ∈ text, c ∉ recodedCharacters) ∧ text.length < 160 := by
  have hzero : 0 ∉ text := fun hmem => absurd (htext 0 hmem) (by decide)
  rw [string_eq_some_iff]
  constructor
  · rintro ⟨hlength, -, hholds, -⟩
    refine ⟨plain_of_initial htext ?_, hlength⟩
    have hget : ∀ k (hk : k < text.length), (septets text).getD k 0 = text[k] := by
      intro k hk
      have hbyte := hholds k hk
      rwa [Nat.zero_add] at hbyte
    have hle : text.length ≤ (septets text).length := by
      by_contra hshort
      -- a character behind the last one would be 0
      have hlast := hget (septets text).length (by omega)
      have hnone : (septets text).getD (septets text).length 0 = 0 := by simp
      rw [hnone] at hlast
      exact hzero (hlast ▸ List.getElem_mem _)
    rw [List.prefix_iff_eq_take]
    refine List.ext_getElem (by simp; omega) fun k hk _ => ?_
    rw [List.getElem_take, ← hget k hk]
    exact (List.getElem_eq_getD 0).symm
  · rintro ⟨hplain, hlength⟩
    rw [septets_eq_self htext hplain]
    refine ⟨hlength, hzero, fun k hk => ?_, ?_⟩
    · rw [Nat.zero_add]
      exact (List.getElem_eq_getD 0).symm
    · simp

/-- For every text of up to 160 seven-bit characters and every packet that submits it, the text is
handed over exactly if it has none of the recoded characters and fewer than 160 characters. -/
theorem chat_text_survives_iff (source : PacketSource) (p : OutgoingSms) (text : List UInt8)
    (htext : ∀ c ∈ text, ChatCharacter c) (hlength : (septets text).length ≤ 160)
    (hsubmit : SubmitsText p text) :
    HandsOver source p text ↔ (∀ c ∈ text, c ∉ recodedCharacters) ∧ text.length < 160 := by
  obtain ⟨transactionId, hcheck⟩ := intercepted_command source hlength hsubmit
  rw [HandsOver, hcheck, ensures_ok, ← string_septets_iff htext]
  simp

/-- The text `help` in the packet of `rawSend`. -/
theorem help_survives : HandsOver .fromHost (rawSendSms ourPhone) [104, 101, 108, 112] := by
  have hcharacters : ∀ c ∈ ([104, 101, 108, 112] : List UInt8), ChatCharacter c :=
    List.all_iff_forall_prop.1 (by decide)
  refine (chat_text_survives_iff _ _ _ hcharacters (by decide) ?_).2
    ⟨List.all_iff_forall_prop.1 (by decide), by decide⟩
  exact ⟨by decide, 33, by decide, by decide, by decide, by decide⟩

/-- The user name `a_b`, in three seven-bit characters. -/
def underscoreSms : OutgoingSms where
  bytes := Bytes.ofList ([0x01, 0x25, 0, 0, 0x05, 0x01, 0x00, 0x07, 0, 0x20, 0, 0x19, 0, 0x01, 0x16, 0,
    0x06, 0x13, 0, 0x00, 0x31, 0x00, 0x0c] ++ ourPhone ++
    [0x00, 0x00, 0x21, 0x03, 0xe1, 0x88, 0x18])
  len := 37
  layout := by decide

/-- The underscore arrives as the control character 17. -/
theorem underscore_recoded :
    ¬ ∀ source p text, (∀ c ∈ text, ChatCharacter c) → (septets text).length ≤ 160 →
      SubmitsText p text → HandsOver source p text := by
  intro h
  have hcharacters : ∀ c ∈ ([97, 95, 98] : List UInt8), ChatCharacter c :=
    List.all_iff_forall_prop.1 (by decide)
  have hsubmit : SubmitsText underscoreSms [97, 95, 98] :=
    ⟨by decide, 33, by decide, by decide, by decide, by decide⟩
  obtain ⟨result, hresult, interception, hsome, hstring⟩ :=
    h .fromHost underscoreSms [97, 95, 98] hcharacters (by decide) hsubmit
  obtain ⟨transactionId, hcheck⟩ := intercepted_command .fromHost (by decide) hsubmit
  cases hresult.symm.trans hcheck
  cases hsome
  have hsame := (string_septets_iff hcharacters).1 hstring
  exact hsame.1 95 (by decide) (by decide)

end OpenQti.Sms
