import OpenQti.Sms.StuckMessages

/-!
# Recovery of stuck messages

Whether `retrieve_and_delete` asks for the deletion of a message only after its contents have been
placed in the queue. It does not: the messages are deleted whether or not the queue has taken
them, other user data than a text never get out of the decoder, and a text is lost as well if
its data coding scheme is not 0, or cut off at its first 0. `nothing_lost_iff` says which rounds
keep the contents.
-/

namespace OpenQti.Sms.Recovery

open Bytes Text Except

/-! ## Nothing is lost -/

/-- The contents are empty or have been placed in the queue: a text as a text, other user data as a
raw message. -/
def Placed (events : List Event) : Contents → Prop
  | .text characters => characters = [] ∨ .text characters ∈ events
  | .raw octets => octets = [] ∨ ∃ tpDcs, .raw octets tpDcs ∈ events

/-- If a round writes a delete request, it is one for its own message, and the contents of the
packet with which the baseband has answered the read request have been placed in the queue. -/
def Round.LosesNothing (round : Round) : Prop :=
  ∀ instanceId transactionId messageId,
    .deleteRequest instanceId transactionId messageId ∈ round.events →
      messageId = round.messageId ∧
        ∃ m h, round.exchange.readAnswer = .packet m ∧
          Placed round.events (replyPacket m h).contents

/-- The data coding scheme that is passed on; 0 if the packet has none. -/
def schemeOctet (p : Packet) : UInt8 := (p.scheme p.fields).getD 0

/-- The queue has room for the notice and the message. Then a text is kept if its data coding scheme
is 0 and it is shorter than 160 characters, none of which is 0. Other user data are kept only if
they happen to be as many zeros as the notice has characters. -/
def KeptContents (s : SmsRuntime) (p : Packet) (noticeLength : Nat) : Contents → Prop
  | .text characters =>
      characters = [] ∨
        (s.queuePos ≤ 253 ∧ schemeOctet p = 0 ∧ 0 ∉ characters ∧ characters.length < 160)
  | .raw octets =>
      octets = [] ∨
        (s.queuePos ≤ 253 ∧ schemeOctet p ≠ 0 ∧ octets = List.replicate noticeLength 0)

/-- If the answer of the baseband is accepted, its contents are kept. -/
def Round.KeepsContents (round : Round) : Prop :=
  ∀ m h out, Answered round.exchange m h out →
    KeptContents round.before (replyPacket m h) (30 + (m.phoneNumber out).length)
      (replyPacket m h).contents

/-! ## The text that is forwarded -/

variable {m : StuckMessage} {out : MessageData} {s next : SmsRuntime} {characters : List UInt8}

/-- The bytes from the array on begin with the characters up to the first 0. -/
theorem text_of_left_in (h : (Contents.text characters).LeftIn out) :
    m.text out = characters.takeWhile (· ≠ 0) ++
      (List.replicate (160 - (characters.takeWhile (· ≠ 0)).length) 0 ++ m.heap).takeWhile
        (· ≠ 0) := by
  unfold StuckMessage.text maxMessageSize
  rw [h.2, List.append_assoc]
  exact Text.take_while_append (Text.zero_not_mem_take_while characters) _

/-- They are all of it, if the array has room for a 0. -/
theorem text_of_left_in_short (h : (Contents.text characters).LeftIn out)
    (hshort : (characters.takeWhile (· ≠ 0)).length < 160) :
    m.text out = characters.takeWhile (· ≠ 0) := by
  obtain ⟨n, hn⟩ := Nat.exists_eq_add_of_lt hshort
  have hroom : 160 - (characters.takeWhile (· ≠ 0)).length = n + 1 := by omega
  rw [text_of_left_in h, hroom, List.replicate_succ, List.cons_append,
    List.takeWhile_cons_of_neg (by simp), List.append_nil]

theorem formatted_of_short {text : List UInt8} (h : text.length < 160) : formatted text = text := by
  have hnone : text.length - 159 = 0 := by omega
  rw [formatted, hnone, List.replicate_zero, List.append_nil, List.take_of_length_le (by omega)]

/-- A text of 160 characters loses the last one to the 0 that ends it. -/
theorem zero_mem_formatted {text : List UInt8} (h : 160 ≤ text.length) : 0 ∈ formatted text := by
  unfold formatted
  refine List.mem_append_right _ (List.mem_replicate.2 ⟨?_, rfl⟩)
  omega

/-- A text is forwarded as it is exactly if it is shorter than 160 characters, none of which
is 0. -/
theorem formatted_text_iff (h : (Contents.text characters).LeftIn out) :
    formatted (m.text out) = characters ↔ 0 ∉ characters ∧ characters.length < 160 := by
  constructor
  · intro heq
    by_cases hshort : (characters.takeWhile (· ≠ 0)).length < 160
    · rw [text_of_left_in_short h hshort, formatted_of_short hshort] at heq
      refine ⟨fun hzero => ?_, heq ▸ hshort⟩
      rw [← heq] at hzero
      exact Text.zero_not_mem_take_while characters hzero
    -- then no character is 0, but the last one that is handed over is
    · exfalso
      have hlong : 160 ≤ (m.text out).length := by
        rw [text_of_left_in h, List.length_append]
        omega
      have hwhole : characters.takeWhile (· ≠ 0) = characters :=
        (List.takeWhile_prefix _).eq_of_length_le (by have := h.1; omega)
      have hzero := zero_mem_formatted hlong
      rw [heq, ← hwhole] at hzero
      exact Text.zero_not_mem_take_while characters hzero
  · rintro ⟨hzero, hlength⟩
    have hall := Text.take_while_eq_self hzero
    have hshort : (characters.takeWhile (· ≠ 0)).length < 160 := by rwa [hall]
    rw [text_of_left_in_short h hshort, formatted_of_short hshort, hall]

/-! ## Rounds -/

variable {exchange : Exchange} {hlen : incomingHeaderSize ≤ m.len} {placed : List Event}

/-- What the decoder leaves of an answer that it accepts. -/
theorem Accepted.left (h : Accepted m hlen out) :
    (replyPacket m hlen).contents.LeftIn out ∧ out.outDcs = schemeOctet (replyPacket m hlen) := by
  obtain ⟨result, hresult, hdecoded⟩ := h.decoded
  exact pdu_decode_leaves _ _ result out hdecoded hresult

theorem Accepted.unique {out' : MessageData} (h : Accepted m hlen out)
    (h' : Accepted m hlen out') : out = out' := by
  obtain ⟨_, _, hdecoded⟩ := h.decoded
  obtain ⟨_, _, hdecoded'⟩ := h'.decoded
  cases hdecoded.symm.trans hdecoded'
  rfl

/-- A text that is placed is what has been written into the array. -/
theorem text_placed_iff (h : forwardDecoded m out s = .ok (next, placed))
    (hsome : characters ≠ []) :
    .text characters ∈ placed ↔
      s.queuePos ≤ 253 ∧ out.outDcs = 0 ∧ formatted (m.text out) = characters := by
  obtain ⟨first, second, rfl, hfirst, hsecond⟩ := forward_decoded_cases h
  have hnotice : Event.text characters ∉ first := by
    rcases hfirst with rfl | rfl <;> simp
  rw [List.mem_append, or_iff_right hnotice]
  obtain ⟨rfl, hfull | ⟨-, hempty⟩⟩ | ⟨-, hscheme, rfl⟩ | ⟨hroom, hscheme, rfl⟩ := hsecond
  · exact iff_of_false List.not_mem_nil fun hkept => absurd hkept.1 (by omega)
  · refine iff_of_false List.not_mem_nil fun hkept => hsome ?_
    rw [← hkept.2.2, formatted_eq_nil]
    exact hempty
  · simp [hscheme]
  · simp [hroom, hscheme, eq_comm]

/-- A raw message that is placed is made of zeros. -/
theorem raw_placed_iff {octets : List UInt8} {tpDcs : UInt8}
    (h : forwardDecoded m out s = .ok (next, placed)) :
    .raw octets tpDcs ∈ placed ↔
      s.queuePos ≤ 253 ∧ out.outDcs ≠ 0 ∧ tpDcs = out.outDcs ∧
        octets = List.replicate (stuckNotice m out).length 0 := by
  obtain ⟨first, second, rfl, hfirst, hsecond⟩ := forward_decoded_cases h
  have hnotice : Event.raw octets tpDcs ∉ first := by
    rcases hfirst with rfl | rfl <;> simp
  rw [List.mem_append, or_iff_right hnotice]
  obtain ⟨rfl, hfull | ⟨hscheme, -⟩⟩ | ⟨hroom, hscheme, rfl⟩ | ⟨-, hscheme, rfl⟩ := hsecond
  · exact iff_of_false List.not_mem_nil fun hkept => absurd hkept.1 (by omega)
  · exact iff_of_false List.not_mem_nil fun hkept => hkept.2.1 hscheme
  · simp [hroom, hscheme, and_comm]
  · simp [hscheme]

/-- The contents of an answer that is accepted have been placed exactly if they are kept. -/
theorem placed_iff (haccepted : Accepted m hlen out)
    (h : forwardDecoded m out s = .ok (next, placed)) :
    Placed placed (replyPacket m hlen).contents ↔
      KeptContents s (replyPacket m hlen) (30 + (m.phoneNumber out).length)
        (replyPacket m hlen).contents := by
  obtain ⟨hleft, hscheme⟩ := haccepted.left
  rw [← length_stuck_notice]
  cases hcontents : (replyPacket m hlen).contents with
  | text characters =>
      rw [hcontents] at hleft
      simp only [Placed, KeptContents]
      by_cases hempty : characters = []
      · exact iff_of_true (.inl hempty) (.inl hempty)
      · rw [or_iff_right hempty, or_iff_right hempty, text_placed_iff h hempty, hscheme,
          formatted_text_iff hleft]
  | raw octets =>
      simp only [Placed, KeptContents]
      by_cases hempty : octets = []
      · exact iff_of_true (.inl hempty) (.inl hempty)
      · rw [or_iff_right hempty, or_iff_right hempty]
        simp only [raw_placed_iff h, hscheme]
        constructor
        · rintro ⟨tpDcs, hroom, hnonzero, -, hzeros⟩
          exact ⟨hroom, hnonzero, hzeros⟩
        · rintro ⟨hroom, hnonzero, hzeros⟩
          exact ⟨_, hroom, hnonzero, rfl, hzeros⟩

/-- The requests of a round are no messages. -/
theorem placed_in_round {instanceId transactionId deletionId messageId : Nat}
    (contents : Contents) :
    Placed (.readRequest instanceId transactionId messageId :: placed ++
        [.deleteRequest instanceId deletionId messageId]) contents ↔ Placed placed contents := by
  cases contents with
  | text characters => simp [Placed]
  | raw octets => simp [Placed]

/-- Forwarding writes no request. -/
theorem request_not_forwarded (h : forwardDecoded m out s = .ok (next, placed))
    (instanceId transactionId messageId : Nat) :
    .readRequest instanceId transactionId messageId ∉ placed ∧
      .deleteRequest instanceId transactionId messageId ∉ placed := by
  obtain ⟨first, second, rfl, hfirst, hsecond⟩ := forward_decoded_cases h
  simp only [List.mem_append, not_or]
  obtain rfl | rfl := hfirst
  · obtain ⟨rfl, -⟩ | ⟨-, -, rfl⟩ | ⟨-, -, rfl⟩ := hsecond <;> simp
  · obtain ⟨rfl, -⟩ | ⟨-, -, rfl⟩ | ⟨-, -, rfl⟩ := hsecond <;> simp

/-- A round loses nothing exactly if it keeps the contents of the answer. -/
theorem round_loses_nothing_iff {instanceId transactionId messageId : Nat} {round : Round}
    (h : retrieveRound instanceId transactionId messageId exchange s = .ok round) :
    round.LosesNothing ↔ round.KeepsContents := by
  obtain ⟨⟨rfl, rfl, rfl⟩, ⟨hevents, hnone⟩ | ⟨m, hlen, out, placed, hanswered, hevents, next,
    hforward⟩⟩ := retrieve_round_cases h
  · refine iff_of_true (fun _ _ _ hdelete => ?_) fun m hlen out hanswered => ?_
    · rw [hevents] at hdelete
      simp at hdelete
    · exact absurd hanswered (hnone m hlen out)
  · have hplaced := placed_iff hanswered.toAccepted hforward
    constructor
    · intro hround m' hlen' out' hanswered'
      -- there is only one answer, and the decoder is a function
      cases hanswered.answer.symm.trans hanswered'.answer
      cases hanswered.toAccepted.unique hanswered'.toAccepted
      obtain ⟨-, other, hother, hanswer, hcontents⟩ :=
        hround instanceId ((transactionId + 1) % 65536) round.messageId (by simp [hevents])
      cases hanswered.answer.symm.trans hanswer
      rw [hevents, placed_in_round] at hcontents
      exact hplaced.1 hcontents
    · intro hround deleter deletion messageId hdelete
      have hid : messageId = round.messageId := by
        have hnot := (request_not_forwarded hforward deleter deletion messageId).2
        rw [hevents] at hdelete
        simp only [List.cons_append, List.mem_cons, List.mem_append, hnot, reduceCtorEq, false_or,
          List.not_mem_nil, or_false, Event.deleteRequest.injEq] at hdelete
        exact hdelete.2.2
      refine ⟨hid, m, hlen, hanswered.answer, ?_⟩
      rw [hevents, placed_in_round]
      exact hplaced.2 (hround m hlen out hanswered)

/-! ## The whole list -/

/-- No message that is deleted is lost exactly if every round keeps the contents of the answer. -/
theorem nothing_lost_iff (exchanges : Nat → Exchange) (s : StuckRuntime) :
    (∀ round ∈ (retrieveAndDelete exchanges s).1, round.LosesNothing) ↔
      ∀ round ∈ (retrieveAndDelete exchanges s).1, round.KeepsContents := by
  have hround : ∀ round ∈ (retrieveAndDelete exchanges s).1,
      (round.LosesNothing ↔ round.KeepsContents) := by
    intro round hmem
    unfold retrieveAndDelete at hmem
    cases hdata : s.stuckMessageData with
    | none =>
        rw [hdata] at hmem
        cases hmem
    | some bytes =>
        rw [hdata] at hmem
        obtain ⟨_, _, hretrieved⟩ := retrieve_loop_rounds hmem
        exact round_loses_nothing_iff hretrieved
  exact forall₂_congr hround

/-- A `WMS_READ_MESSAGE` packet with this PDU. -/
def readReply (pdu : List UInt8) : Packet where
  bytes := ofList ([0x01, 0x00, 0x00, 0x80, 0x05, 0x01, 0x02, 0x01, 0x00, 0x22, 0x00] ++
    List.replicate 16 0 ++ pdu)
  size := 27 + pdu.length
  header := Nat.le_add_right 27 _

/-- A packet that is received while memory is zero; the decoder does what its model says. -/
def received (p : Packet) : StuckMessage where
  bytes := p.bytes
  len := p.size
  allocated := ⟨fun _ => 0, fun _ => 0, 0, false, fun _ => 0, 0⟩
  heap := []
  decoded := (pduDecode p ⟨fun _ => 0, fun _ => 0, 0, false, fun _ => 0, 0⟩).toOption.join
  agrees := by
    intro h result hresult
    rw [hresult]
    rfl

/-- A request to read is answered with this packet, and one to delete is not answered. -/
def answeredWith (p : Packet) : Exchange := ⟨24, .packet (received p), 28, .nothing⟩

/-- A list of one message, with id 3. -/
def oneListed : Bytes :=
  ofList ([0x01, 0x00, 0x00, 0x80, 0x05, 0x01] ++ List.replicate 17 0 ++
    [0x01, 0x00, 0x00, 0x00, 0x03])

/-- A `SMS_DELIVER` without SMSC from `+12`, with these user data. -/
def deliverFrom (tpDcs elements : UInt8) (userData : List UInt8) : Packet :=
  readReply ([0x00, 0x02, 0x91, 0x21, 0x00, tpDcs, 0x22, 0x21, 0x02, 0x21, 0x00, 0x00, 0x00,
    elements] ++ userData)

/-- A text of two seven-bit characters is placed, and then deleted. -/
example :
    (retrieveAndDelete (fun _ => answeredWith (deliverFrom 0x00 2 [0xC8, 0x34]))
      ⟨start, some oneListed, true⟩).1.map Round.events =
      [[.readRequest 1 1 3, .notice (ascii "Stuck message from +12:\n--------\n"),
        .text (ascii "Hi"), .deleteRequest 1 2 3]] := by
  decide +kernel

/-- A text of two 16-bit characters. -/
def ucs2Reply : Packet := deliverFrom 0x08 4 [0x00, 0x48, 0x00, 0x69]

/-- What happens to it: the notice and as many zeros go to the queue, and the message is deleted. -/
def ucs2Events : List Event :=
  [.readRequest 1 1 3, .notice (ascii "Stuck message from +12:\n--------\n"),
    .raw (List.replicate 33 0) 0x08, .deleteRequest 1 2 3]

/-- The queue is empty and the text is in 16-bit characters. It is deleted, and has been placed
nowhere. -/
theorem ucs2_message_lost :
    ¬ ∀ exchanges s, ∀ round ∈ (retrieveAndDelete exchanges s).1, round.LosesNothing := by
  intro h
  let s : StuckRuntime := ⟨start, some oneListed, true⟩
  have hevents : (retrieveAndDelete (fun _ => answeredWith ucs2Reply) s).1.map Round.events =
      [ucs2Events] := by decide +kernel
  obtain ⟨round, hround, heq⟩ : ∃ round ∈ (retrieveAndDelete (fun _ => answeredWith ucs2Reply) s).1,
      round.events = ucs2Events := List.mem_map.1 (hevents ▸ List.mem_singleton_self _)
  obtain ⟨_, _, hretrieved⟩ := retrieve_loop_rounds hround
  obtain ⟨⟨-, -, hexchange⟩, -⟩ := retrieve_round_cases hretrieved
  have hdelete : .deleteRequest 1 2 3 ∈ round.events := by rw [heq]; decide
  obtain ⟨-, m, hlen, hanswer, hplaced⟩ := h _ s round hround 1 2 3 hdelete
  rw [hexchange] at hanswer
  cases hanswer
  have hcontents : ucs2Reply.contents = .raw [0x00, 0x48, 0x00, 0x69] := by decide +kernel
  change Placed round.events ucs2Reply.contents at hplaced
  rw [hcontents, heq] at hplaced
  simp [Placed, ucs2Events] at hplaced

end OpenQti.Sms.Recovery
