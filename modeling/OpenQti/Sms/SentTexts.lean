import OpenQti.Sms.MessagePacket

/-!
# The texts that the host receives

`build_and_send_message` packs the text into seven-bit characters and sets `content_sz` to the
number of its bytes, not of its characters, so that the receiver misses as many of the last
characters as there are escapes. And `ascii_to_gsm7` has no limit: the 160 bytes of `msgoutput` are
enough for 182 characters. `whole_text_sent_iff` says which texts are received.
-/

namespace OpenQti.Sms

open Bytes Buffer Except Qmi

/-! ## The property -/

/-- An entry of the queue with this text. -/
structure TextMessage (m : Message) (text : List UInt8) : Prop where
  isRaw : m.isRaw = false
  length : 1 ≤ text.length ∧ text.length ≤ 160
  clean : 0 ∉ text
  holds : Holds m.pkt 0 text
  terminated : text.length < 160 → m.pkt text.length = 0

/-- The characters that a receiver takes out of a packet: as many as `content_sz` says, if the
contents have them. -/
def receivedSeptets (packet : List UInt8) : Option (List UInt8) :=
  let count := (packet.getD 53 0).toNat
  let contents := packet.drop 54
  if packedSize count ≤ contents.length then
    some ((List.range count).map fun i =>
      UInt8.ofNat ((Bytes.ofList contents).value (packedSize count) / 2 ^ (7 * i) % 128))
  else none

/-- The packet is built without a store past the end of `msgoutput`, and its receiver takes all the
characters of the text out of it, or the first 160. -/
def SendsWholeText (now : LocalTime) (transactionId : Nat) (m : Message) (text : List UInt8) :
    Prop :=
  (buildAndSendMessage now transactionId m).Ensures fun packet =>
    receivedSeptets packet = some ((septets text).take 160)

/-- The number of characters that are written with an escape. -/
def escapes (text : List UInt8) : Nat := text.countP fun c => decide (ascii8to7 c ≥ 128)

/-! ## Characters -/

variable {text : List UInt8} {m : Message}

theorem escapes_cons (c : UInt8) (text : List UInt8) :
    escapes (c :: text) = escapes text + if ascii8to7 c ≥ 128 then 1 else 0 := by
  simp only [escapes, List.countP_cons, decide_eq_true_eq]

theorem length_septets (text : List UInt8) :
    (septets text).length = text.length + escapes text := by
  induction text with
  | nil => rfl
  | cons c text ih =>
      rw [septets_cons, List.length_append, ih, byteSeptets, escapes_cons, List.length_cons]
      split_ifs
      · rw [List.length_cons, List.length_singleton]
        omega
      · rw [List.length_singleton]
        omega

/-- A character is the same digit in every initial part of the buffer that has it. -/
theorem packed_digit {characters : List UInt8} {buffer : Bytes} {i count : Nat}
    (h : Packed characters buffer) (hbits : SevenBit characters) (hi : i < characters.length)
    (hcount : 7 * i + 7 ≤ 8 * count) :
    buffer.value count / 2 ^ (7 * i) % 128 = (characters[i]).toNat := by
  have hall : 7 * i + 7 ≤ 8 * packedSize characters.length := by
    unfold packedSize
    omega
  rw [← of_digits_div_mod hbits hi, ← h, show 128 = 2 ^ 7 from rfl,
    value_bits (by decide) hcount, value_bits (by decide) hall]

/-! ## The packet -/

/-- `content_sz` and the contents are the end of a packet. -/
theorem written_end (date : WmsDatetime) (transactionId : Nat) (isCb : Bool)
    (tpDcs contentSz : UInt8) (contents : Bytes) {size : Nat} (hsize : size ≤ maxMessageSize) :
    ∃ front : List UInt8, front.length = 53 ∧
      (buildMessage date transactionId isCb tpDcs size contentSz contents).encode.take
        (fullPktSz size) = front ++ contentSz :: (List.range size).map contents := by
  set p := buildMessage date transactionId isCb tpDcs size contentSz contents with hp
  obtain ⟨fields, hfields⟩ : ∃ fields, p.data.encodeHeader = fields ++ [contentSz] := ⟨_, rfl⟩
  have hlength : fields.length = 29 := by
    have hheader := length_user_data_header p.data
    rw [hfields, List.length_append, List.length_singleton] at hheader
    omega
  refine ⟨p.qmuxpkt.encode ++ (p.qmipkt.encode ++ (resultTlv.encode ++
    (0x01 :: littleEndian (UInt16.ofNat (31 + size)) ++ (p.header.tlvVersion :: fields)))), ?_, ?_⟩
  · simp [length_qmux_packet, length_qmi_packet, length_little_endian, resultTlv, Tlv.encode,
      hlength]
  · have hcontents : p.data.contents = contents := rfl
    rw [hp, written_eq hsize, ← hp, messageValue, hfields, hcontents]
    simp

theorem received_septets_append {front : List UInt8} (hfront : front.length = 53)
    (contentSz : UInt8) (contents : List UInt8) :
    receivedSeptets (front ++ contentSz :: contents) =
      if packedSize contentSz.toNat ≤ contents.length then
        some ((List.range contentSz.toNat).map fun i => UInt8.ofNat
          ((Bytes.ofList contents).value (packedSize contentSz.toNat) / 2 ^ (7 * i) % 128))
      else none := by
  have hcount : (front ++ contentSz :: contents).getD 53 0 = contentSz := by
    simp [← hfront]
  have hcontents : (front ++ contentSz :: contents).drop 54 = contents := by
    rw [show 54 = front.length + 1 by omega, List.drop_length_add_append]
    rfl
  simp only [receivedSeptets, hcount, hcontents]

/-- What is received of a text whose characters fit `msgoutput`: as many characters as it has
bytes. -/
theorem received_septets_eq (now : LocalTime) (transactionId : Nat) (m : Message)
    (hlength : (septets m.text).length ≤ 182) (hstring : m.text.length ≤ 168) :
    (buildAndSendMessage now transactionId m).Ensures fun packet =>
      receivedSeptets packet = some ((septets m.text).take m.text.length) := by
  obtain ⟨msgoutput, hpacked, -, hsent⟩ := build_and_send_message_eq now transactionId m hlength
  have hsize : min (septets m.text).length 160 ≤ maxMessageSize := Nat.min_le_right _ _
  have hcount := length_septets m.text
  have hfits : packedSize m.text.length ≤ min (septets m.text).length 160 := by
    unfold packedSize
    omega
  have hsz : (UInt8.ofNat m.text.length).toNat = m.text.length := by
    rw [UInt8.toNat_ofNat']
    omega
  refine ⟨_, hsent, ?_⟩
  obtain ⟨front, hfront, hwritten⟩ := written_end (messageDate 24 now) transactionId m.isCb 0x00
    (UInt8.ofNat m.text.length)
    (fun k => if k < min (septets m.text).length 160 then msgoutput k else 0) hsize
  -- the bytes that the count stands for are those of `msgoutput`
  have hsame : ∀ k < packedSize m.text.length,
      Bytes.ofList ((List.range (min (septets m.text).length 160)).map fun k =>
        if k < min (septets m.text).length 160 then msgoutput k else 0) k = msgoutput k := by
    intro k hk
    have hk : k < min (septets m.text).length 160 := Nat.lt_of_lt_of_le hk hfits
    rw [ofList_map_range _ hk, if_pos hk]
  rw [hwritten, received_septets_append hfront, hsz, if_pos (by simpa using hfits),
    value_congr hsame]
  refine congrArg some (List.ext_getElem (by simp; omega) fun i hi _ => ?_)
  have hi : i < m.text.length := by simpa using hi
  rw [List.getElem_map, List.getElem_range, List.getElem_take,
    packed_digit hpacked (seven_bit_septets m.text) (by omega) (by unfold packedSize; omega),
    UInt8.ofNat_toNat]

/-- There is no fault only if the characters fit `msgoutput`. -/
theorem septets_fit {now : LocalTime} {transactionId : Nat} {post : List UInt8 → Prop}
    (h : (buildAndSendMessage now transactionId m).Ensures post) :
    (septets m.text).length ≤ 182 := by
  obtain ⟨packet, hpacket, -⟩ := h
  obtain ⟨output, houtput, -⟩ := bind_ok hpacket
  rw [ascii_to_gsm7_eq] at houtput
  obtain ⟨packed, hpacked, -⟩ := of_map_ok houtput
  have hroom := ensures_pack_septets (Nat.zero_le _) (by decide) (ensures_of_eq_ok hpacked)
  unfold packedSize maxMessageSize at hroom
  omega

/-! ## The string of an entry -/

theorem memory_of_lt {i : Nat} (h : i < maxMessageSize) : m.memory i = m.pkt i := if_pos h

/-- The byte behind a text of 160 bytes is the lowest one of the length. -/
theorem memory_behind_pkt : m.memory 160 = 0 ↔ m.len % 256 = 0 := by
  have hbyte : m.memory 160 = UInt8.ofInt m.len := by
    simp [Message.memory, maxMessageSize]
  rw [hbyte, ← UInt8.toNat_inj, UInt8.ofInt, UInt8.toNat_ofNat']
  simp
  omega

theorem TextMessage.holds_memory (h : TextMessage m text) : Holds m.memory 0 text := by
  intro i hi
  have hlt : 0 + i < maxMessageSize := by
    have := h.length.2
    simp only [maxMessageSize]
    omega
  rw [memory_of_lt hlt]
  exact h.holds i hi

/-- A text that is terminated is the string of its entry. -/
theorem TextMessage.text_eq (h : TextMessage m text) (hend : m.memory text.length = 0) :
    m.text = text := by
  have hlength : text.length < maxMessageSize + 8 := by
    have := h.length.2
    simp only [maxMessageSize]
    omega
  exact take_while_eq hlength h.clean h.holds_memory hend

theorem text_length_le (m : Message) : m.text.length ≤ 168 := by
  have hprefix := (List.takeWhile_prefix (fun b : UInt8 => decide (b ≠ 0))
    (l := (List.range (maxMessageSize + 8)).map m.memory)).length_le
  rwa [List.length_map, List.length_range] at hprefix

/-- The string of an entry goes on behind a text that is not terminated. -/
theorem TextMessage.text_longer (h : TextMessage m text) (hlength : text.length = 160)
    (hend : m.memory 160 ≠ 0) : 160 < m.text.length := by
  have hclean : 0 ∉ (List.range 161).map m.memory := by
    intro hmem
    obtain ⟨k, hk, hzero⟩ := List.mem_map.1 hmem
    by_cases hlast : k = 160
    · exact hend (hlast ▸ hzero)
    · have hin : k < text.length := by
        have := List.mem_range.1 hk
        omega
      have hbyte := h.holds_memory k hin
      rw [Nat.zero_add, hzero] at hbyte
      exact h.clean (hbyte ▸ List.getElem_mem hin)
  have hsplit : (List.range (maxMessageSize + 8)).map m.memory =
      (List.range 161).map m.memory ++ ((List.range 7).map (161 + ·)).map m.memory := by
    rw [← List.map_append, ← List.range_add]
    rfl
  rw [Message.text, hsplit, Text.take_while_append hclean, List.length_append,
    List.length_map, List.length_range]
  omega

/-! ## Which texts are received -/

/-- The characters that are received are those of the text, if there are as many. -/
theorem take_length_eq_iff (text : List UInt8) :
    (septets text).take text.length = (septets text).take 160 ↔
      text.length = min 160 (septets text).length := by
  have hlength := length_septets text
  constructor
  · intro heq
    have hcount := congrArg List.length heq
    rw [List.length_take, List.length_take] at hcount
    omega
  · intro heq
    rw [heq, List.take_eq_take_iff]
    omega

/-- A text is sent exactly if its string is it, and as many characters are received as should be. -/
theorem sends_whole_text_iff (now : LocalTime) (transactionId : Nat) (h : TextMessage m text) :
    SendsWholeText now transactionId m text ↔
      m.memory text.length = 0 ∧ (septets text).length ≤ 182 ∧
        text.length = min 160 (septets text).length := by
  constructor
  · intro hsends
    have hfit := septets_fit hsends
    obtain ⟨packet, hpacket, hwhole⟩ := hsends
    obtain ⟨sent, hsent, hreceived⟩ :=
      received_septets_eq now transactionId m hfit (text_length_le m)
    cases hpacket.symm.trans hsent
    have hsame := Option.some.inj (hreceived.symm.trans hwhole)
    have hend : m.memory text.length = 0 := by
      by_contra hend
      obtain hshort | hlong := Nat.lt_or_eq_of_le h.length.2
      · rw [memory_of_lt hshort] at hend
        exact hend (h.terminated hshort)
      · -- more than 160 characters are received
        rw [hlong] at hend
        have hlonger := h.text_longer hlong hend
        have hcount := congrArg List.length hsame
        rw [List.length_take, List.length_take, length_septets m.text] at hcount
        omega
    rw [h.text_eq hend] at hfit hsame
    exact ⟨hend, hfit, (take_length_eq_iff text).1 hsame⟩
  · rintro ⟨hend, hfit, hcount⟩
    have htext := h.text_eq hend
    rw [← htext] at hfit
    obtain ⟨packet, hpacket, hreceived⟩ :=
      received_septets_eq now transactionId m hfit (text_length_le m)
    rw [htext, (take_length_eq_iff text).2 hcount] at hreceived
    exact ⟨packet, hpacket, hreceived⟩

/-- For every text message of the queue, the whole text is sent exactly if it has no escapes, or 160
bytes and at most 22 escapes, and if the byte behind a text of 160 bytes is 0. -/
theorem whole_text_sent_iff (now : LocalTime) (transactionId : Nat) (m : Message)
    (text : List UInt8) (h : TextMessage m text) :
    SendsWholeText now transactionId m text ↔
      (escapes text = 0 ∨ (text.length = 160 ∧ escapes text ≤ 22)) ∧
        (text.length = 160 → m.len % 256 = 0) := by
  have hlength := h.length.2
  rw [sends_whole_text_iff now transactionId h, length_septets]
  have hbehind : m.memory text.length = 0 ↔ (text.length = 160 → m.len % 256 = 0) := by
    obtain hshort | hlong := Nat.lt_or_eq_of_le hlength
    · rw [memory_of_lt hshort, h.terminated hshort]
      simp only [true_iff]
      omega
    · rw [hlong, memory_behind_pkt]
      simp
  rw [hbehind]
  constructor
  · rintro ⟨hend, hfit, hcount⟩
    exact ⟨by omega, hend⟩
  · rintro ⟨hescapes, hend⟩
    exact ⟨hend, by omega, by omega⟩

/-- An entry that is empty but for the text. -/
theorem text_message_entry {text : List UInt8} (hlength : 1 ≤ text.length ∧ text.length ≤ 160)
    (hclean : 0 ∉ text) : TextMessage (textEntry text) text where
  isRaw := rfl
  length := hlength
  clean := hclean
  holds i hi := by
    simp only [textEntry, Bytes.ofList, Nat.zero_add]
    exact (List.getElem_eq_getD 0).symm
  terminated _ := by simp [textEntry, Bytes.ofList]

/-- The text `hi`. -/
theorem hi_sent_whole : SendsWholeText newYear 7 (textEntry [104, 105]) [104, 105] :=
  (whole_text_sent_iff _ _ _ _ (text_message_entry (by decide) (by decide))).2
    ⟨by decide, by decide⟩

/-- Of the text `[]` only the first two of four characters are received. -/
theorem brackets_cut_off :
    ¬ ∀ now transactionId m text, TextMessage m text →
      SendsWholeText now transactionId m text := by
  intro h
  have hentry : TextMessage (textEntry [91, 93]) [91, 93] :=
    text_message_entry (by decide) (by decide)
  have hsends := (sends_whole_text_iff newYear 7 hentry).1 (h _ _ _ _ hentry)
  exact absurd hsends.2.2 (by decide)

end OpenQti.Sms
