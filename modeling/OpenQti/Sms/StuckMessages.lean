import OpenQti.Sms.Contents
import OpenQti.Sms.Effects
import OpenQti.Sms.Handed

/-!
# Stuck messages

`retrieve_and_delete` of `sms.c` and the functions it calls. The baseband has answered a request to
list all messages with a list that is not empty, and the proxy has kept the packet. Message by
message, the contents are requested and forwarded to the host through the SMS queue, and then the
message is deleted from the baseband, which has the only copy of it.

`Exchange` fixes what the baseband does for one message. What a round of the loop does is recorded
in its `Round`: the requests, and the messages that have found a place in the queue. A fault ends
the loop; the rounds before it stand.
-/

namespace OpenQti.Sms.Recovery

open Bytes Text Except

/-- `-EINVAL`. -/
def minusEinval : Int := -22

/-- What `read` finds when the time for an answer is over. -/
inductive Answer where
  | nothing
  | emptyRead
  | packet (message : StuckMessage)

/-- What `write` returns for the two requests of a round, and what is answered to them. -/
structure Exchange where
  readWrite : Int
  readAnswer : Answer
  deleteWrite : Int
  deleteAnswer : Answer

/-- A request to the baseband, or a message that has been placed in the queue. -/
inductive Event where
  | readRequest (instanceId transactionId messageId : Nat)
  | notice (text : List UInt8)
  | text (text : List UInt8)
  | raw (octets : List UInt8) (tpDcs : UInt8)
  | deleteRequest (instanceId transactionId messageId : Nat)
  deriving DecidableEq, Repr

/-- What ends a run: a fault of the decoder, a message that it does not return from, or a fault of
the queue. -/
inductive RecoveryFault where
  | decoder (fault : PduFault)
  | diverges
  | queue (fault : Fault)
  deriving DecidableEq, Repr

/-! ## One message -/

/-- What is handed over of a text that `snprintf` has been asked to write into an array of 160
bytes. The last byte of the array is 0, and the length is that of the text. -/
def formatted (text : List UInt8) : List UInt8 :=
  text.take 159 ++ List.replicate (text.length - 159) 0

/-- A call that adds a message to the queue, which refuses it if it is full or the message empty. -/
def place (event : Event) (add : SmsRuntime → Except Fault SmsRuntime) (s : SmsRuntime) :
    Except RecoveryFault (SmsRuntime × List Event) :=
  match add s with
  | .error fault => .error (.queue fault)
  | .ok next => .ok (next, if next.queuePos = s.queuePos then [] else [event])

/-- The text that goes before a message. -/
def stuckNotice (m : StuckMessage) (out : MessageData) : List UInt8 :=
  sprintf "Stuck message from %s:\n--------\n" [m.phoneNumber out]

/-- The message itself, once the notice has been added and the array cleared. A message with a data
coding scheme is the cleared array, with the length of the notice. -/
def forwardContents (m : StuckMessage) (out : MessageData) (s : SmsRuntime) :
    Except RecoveryFault (SmsRuntime × List Event) :=
  if out.outDcs ≠ 0 then
    let octets := List.replicate (stuckNotice m out).length 0
    place (.raw octets out.outDcs) (addRawSmsToQueue octets out.outDcs true) s
  else
    let text := formatted (sprintf "%s" [m.text out])
    place (.text text) (addSmsToQueue text) s

/-- The notice and the message. -/
def forwardDecoded (m : StuckMessage) (out : MessageData) (s : SmsRuntime) :
    Except RecoveryFault (SmsRuntime × List Event) := do
  let notice := formatted (stuckNotice m out)
  let first ← place (.notice notice) (addSmsToQueue notice) s
  let second ← forwardContents m out first.1
  .ok (second.1, first.2 ++ second.2)

/-- `parse_and_forward_adsp_message(bytes, len)`. Whether the queue takes the messages is not looked
at. -/
def parseAndForwardAdspMessage (m : StuckMessage) (s : SmsRuntime) :
    Except RecoveryFault (Int × SmsRuntime × List Event) :=
  if m.len < rawSmsSize then .ok (minusEinval, s, [])
  else if qmiMsgid m.bytes ≠ wmsReadMessage then .ok (minusEinval, s, [])
  else if h : incomingHeaderSize ≤ m.len then
    match pduDecode ⟨m.bytes, m.len, h⟩ { m.allocated with outDcs := 0 } with
    | .error fault => .error (.decoder fault)
    | .ok none => .error .diverges
    | .ok (some (result, out)) =>
        if result < 0 then .ok (minusEinval, s, [])
        else (forwardDecoded m out s).map fun forwarded => (0, forwarded)
  -- the first octet of the PDU is read, after the end of the packet
  else .error (.decoder (.read 0))

/-- `request_read_adsp_message(adspfd, instance_id, transaction_id, message_id)`. -/
def requestReadAdspMessage (instanceId transactionId messageId : Nat) (exchange : Exchange)
    (s : SmsRuntime) : Except RecoveryFault (Int × SmsRuntime × List Event) :=
  let request := Event.readRequest instanceId transactionId messageId
  if exchange.readWrite = 0 then .ok (minusEinval, s, [request])
  else
    match exchange.readAnswer with
    | .nothing => .ok (minusEinval, s, [request])
    | .emptyRead => .ok (minusEinval, s, [request])
    | .packet m =>
        (parseAndForwardAdspMessage m s).map fun read => (read.1, read.2.1, request :: read.2.2)

/-- `request_message_delete(adspfd, instance_id, transaction_id, message_id)`. The request has been
written by the time the answer is looked at. -/
def requestMessageDelete (instanceId transactionId messageId : Nat) (exchange : Exchange) :
    Int × List Event :=
  let request := Event.deleteRequest instanceId transactionId messageId
  if exchange.deleteWrite = 0 then (minusEinval, [request])
  else
    match exchange.deleteAnswer with
    | .nothing => (minusEinval, [request])
    | .emptyRead => (minusEinval, [request])
    | .packet _ => (0, [request])

/-! ## The list -/

/-- A round of the loop in `retrieve_and_delete`: the message, the state in which it begins, what
the baseband does, and what happens. -/
structure Round where
  messageId : Nat
  before : SmsRuntime
  exchange : Exchange
  events : List Event
  after : SmsRuntime
  nextTransactionId : Nat

/-- One round. The value of `request_message_delete` is logged only. -/
def retrieveRound (instanceId transactionId messageId : Nat) (exchange : Exchange)
    (s : SmsRuntime) : Except RecoveryFault Round :=
  (requestReadAdspMessage instanceId transactionId messageId exchange s).map fun read =>
    let deletion := requestMessageDelete instanceId ((transactionId + 1) % 65536) messageId exchange
    if read.1 = 0 then
      ⟨messageId, s, exchange, read.2.2 ++ deletion.2, read.2.1, (transactionId + 1) % 65536⟩
    else ⟨messageId, s, exchange, read.2.2, read.2.1, (transactionId + 2) % 65536⟩

/-- The `instance_id` field of the QMUX header. -/
def qmuxInstanceId (bytes : Bytes) : Nat := (bytes 5).toNat

/-- The `number_of_messages_listed` field of the list. -/
def numberOfMessagesListed (bytes : Bytes) : Nat := le32 bytes 23

/-- The `message_id` field of an entry of the list. -/
def listedMessageId (bytes : Bytes) (i : Nat) : Nat := le32 bytes (27 + 5 * i)

/-- The loop over the list from entry `i` on: the rounds up to a fault, and the state at the end. -/
def retrieveLoop (bytes : Bytes) (exchanges : Nat → Exchange) :
    Nat → Nat → Nat → SmsRuntime → List Round × Except RecoveryFault SmsRuntime
  | 0, _, _, s => ([], .ok s)
  | remaining + 1, i, transactionId, s =>
      match retrieveRound (qmuxInstanceId bytes) transactionId (listedMessageId bytes i)
        (exchanges i) s with
      | .error fault => ([], .error fault)
      | .ok round =>
          let rest :=
            retrieveLoop bytes exchanges remaining (i + 1) round.nextTransactionId round.after
          (round :: rest.1, rest.2)

/-- `sms_runtime` with the list that has been kept, if there is one. -/
structure StuckRuntime where
  runtime : SmsRuntime
  stuckMessageData : Option Bytes
  stuckMessageDataPending : Bool

/-- `retrieve_and_delete(adspfd, usbfd)`, with the rounds of its loop. -/
def retrieveAndDelete (exchanges : Nat → Exchange) (s : StuckRuntime) :
    List Round × Except RecoveryFault (Int × StuckRuntime) :=
  match s.stuckMessageData with
  | none => ([], .ok (0, { s with stuckMessageDataPending := false }))
  | some bytes =>
      let run := retrieveLoop bytes exchanges (numberOfMessagesListed bytes) 0 1 s.runtime
      (run.1, run.2.map fun runtime =>
        (0, { s with runtime := runtime, stuckMessageDataPending := false }))

/-! ## What they do -/

variable {m : StuckMessage} {out : MessageData} {exchange : Exchange} {s next : SmsRuntime}
  {events : List Event}

/-- A message is placed, unless the queue is full or the message empty. -/
theorem place_cases {event : Event} {message : List UInt8} {fill : Message → Message}
    (h : place event (addToQueue message fill) s = .ok (next, events)) :
    (next = s ∧ events = [] ∧ (s.queuePos > 254 ∨ message = [])) ∨
      (next.queuePos = s.queuePos + 1 ∧ events = [event] ∧ s.queuePos ≤ 254) := by
  unfold place at h
  cases hadd : addToQueue message fill s with
  | error fault =>
      rw [hadd] at h
      cases h
  | ok added =>
      rw [hadd] at h
      cases h
      obtain ⟨rfl, hrefused⟩ | ⟨i, hpos, hlt, -, -, rfl⟩ := add_to_queue_cases hadd
      · exact .inl ⟨rfl, if_pos rfl, hrefused⟩
      · have hqueue : queueSize = 256 := rfl
        refine .inr ⟨hpos.symm, if_neg ?_, by omega⟩
        show (i : Int) ≠ s.queuePos
        omega

theorem length_stuck_notice (m : StuckMessage) (out : MessageData) :
    (stuckNotice m out).length = 30 + (m.phoneNumber out).length :=
  length_sprintf _ _ rfl

theorem sprintf_string (text : List UInt8) : sprintf "%s" [text] = text := by
  show printfFrom false ['%', 's'] [text] = text
  simp [printfFrom, isConversion]

theorem length_formatted (text : List UInt8) : (formatted text).length = text.length := by
  simp only [formatted, List.length_append, List.length_take, List.length_replicate]
  omega

theorem formatted_eq_nil {text : List UInt8} : formatted text = [] ↔ text = [] := by
  rw [← List.length_eq_zero_iff, length_formatted, List.length_eq_zero_iff]

/-- The notice is placed if there is room for it. -/
theorem notice_placed (h : place (.notice (formatted (stuckNotice m out)))
      (addSmsToQueue (formatted (stuckNotice m out))) s = .ok (next, events)) :
    (events = [] ∨ events = [.notice (formatted (stuckNotice m out))]) ∧
      (next.queuePos ≤ 254 ↔ s.queuePos ≤ 253) := by
  have hnotice : formatted (stuckNotice m out) ≠ [] := by
    intro hnil
    have hlength := length_stuck_notice m out
    rw [formatted_eq_nil.1 hnil, List.length_nil] at hlength
    omega
  obtain ⟨rfl, rfl, hfull | hnil⟩ | ⟨hpos, rfl, -⟩ := place_cases h
  · exact ⟨.inl rfl, by omega⟩
  · exact absurd hnil hnotice
  · exact ⟨.inr rfl, by omega⟩

/-- What is placed of the message itself. -/
theorem forward_contents_cases (h : forwardContents m out s = .ok (next, events)) :
    (events = [] ∧ (s.queuePos > 254 ∨ out.outDcs = 0 ∧ m.text out = [])) ∨
      (s.queuePos ≤ 254 ∧ out.outDcs ≠ 0 ∧
        events = [.raw (List.replicate (stuckNotice m out).length 0) out.outDcs]) ∨
      (s.queuePos ≤ 254 ∧ out.outDcs = 0 ∧ events = [.text (formatted (m.text out))]) := by
  unfold forwardContents at h
  by_cases hscheme : out.outDcs ≠ 0
  · rw [if_pos hscheme] at h
    obtain ⟨-, hevents, hfull | hnil⟩ | ⟨-, hevents, hroom⟩ := place_cases h
    · exact .inl ⟨hevents, .inl hfull⟩
    · have hlength := congrArg List.length hnil
      rw [List.length_replicate, length_stuck_notice, List.length_nil] at hlength
      omega
    · exact .inr (.inl ⟨hroom, hscheme, hevents⟩)
  · have hzero : out.outDcs = 0 := not_not.1 hscheme
    rw [if_neg hscheme, sprintf_string] at h
    obtain ⟨-, hevents, hfull | hnil⟩ | ⟨-, hevents, hroom⟩ := place_cases h
    · exact .inl ⟨hevents, .inl hfull⟩
    · exact .inl ⟨hevents, .inr ⟨hzero, formatted_eq_nil.1 hnil⟩⟩
    · exact .inr (.inr ⟨hroom, hzero, hevents⟩)

/-- What is placed of a message with its notice: the message itself only if there is room for
both. -/
theorem forward_decoded_cases (h : forwardDecoded m out s = .ok (next, events)) :
    ∃ first second, events = first ++ second ∧
      (first = [] ∨ first = [.notice (formatted (stuckNotice m out))]) ∧
      ((second = [] ∧ (s.queuePos > 253 ∨ out.outDcs = 0 ∧ m.text out = [])) ∨
        (s.queuePos ≤ 253 ∧ out.outDcs ≠ 0 ∧
          second = [.raw (List.replicate (stuckNotice m out).length 0) out.outDcs]) ∨
        (s.queuePos ≤ 253 ∧ out.outDcs = 0 ∧ second = [.text (formatted (m.text out))])) := by
  unfold forwardDecoded at h
  obtain ⟨⟨noticed, first⟩, hnotice, h⟩ := bind_ok h
  obtain ⟨⟨placed, second⟩, hcontents, h⟩ := bind_ok h
  cases h
  obtain ⟨hfirst, hroom⟩ := notice_placed hnotice
  -- the notice takes a place of its own
  have hfull : noticed.queuePos > 254 ↔ s.queuePos > 253 := by omega
  have hcases := forward_contents_cases hcontents
  rw [hfull, hroom] at hcases
  exact ⟨first, second, rfl, hfirst, hcases⟩

/-- The packet of a message that has room for the part before the PDU. -/
def replyPacket (m : StuckMessage) (h : incomingHeaderSize ≤ m.len) : Packet := ⟨m.bytes, m.len, h⟩

/-- The packet is a message that the decoder accepts, and `out` is what it fills in. -/
structure Accepted (m : StuckMessage) (h : incomingHeaderSize ≤ m.len) (out : MessageData) :
    Prop where
  msgid : qmiMsgid m.bytes = wmsReadMessage
  decoded : ∃ result, 0 ≤ result ∧
    pduDecode (replyPacket m h) { m.allocated with outDcs := 0 } = .ok (some (result, out))

/-- A message is forwarded, and 0 returned, exactly if the decoder accepts it. -/
theorem parse_and_forward_cases {result : Int}
    (h : parseAndForwardAdspMessage m s = .ok (result, next, events)) :
    (result ≠ 0 ∧ events = [] ∧ ∀ hlen out, ¬ Accepted m hlen out) ∨
      (result = 0 ∧ ∃ hlen out, Accepted m hlen out ∧
        forwardDecoded m out s = .ok (next, events)) := by
  unfold parseAndForwardAdspMessage at h
  have hrejected : minusEinval ≠ 0 := by decide
  by_cases hshort : m.len < rawSmsSize
  · rw [if_pos hshort] at h
    cases h
    refine .inl ⟨hrejected, rfl, fun hlen => ?_⟩
    unfold rawSmsSize at hshort
    unfold incomingHeaderSize at hlen
    omega
  rw [if_neg hshort] at h
  by_cases hid : qmiMsgid m.bytes ≠ wmsReadMessage
  · rw [if_pos hid] at h
    cases h
    exact .inl ⟨hrejected, rfl, fun _ _ haccepted => hid haccepted.msgid⟩
  rw [if_neg hid] at h
  -- a shorter packet passes the check of the source and faults at its first octet
  by_cases hlen : incomingHeaderSize ≤ m.len
  · rw [dif_pos hlen] at h
    cases hdecoded : pduDecode ⟨m.bytes, m.len, hlen⟩ { m.allocated with outDcs := 0 } with
    | error fault =>
        rw [hdecoded] at h
        cases h
    | ok decoded =>
        rw [hdecoded] at h
        cases decoded with
        | none => cases h
        | some decoded =>
            obtain ⟨code, out⟩ := decoded
            by_cases hnegative : code < 0
            · simp only [if_pos hnegative] at h
              cases h
              refine .inl ⟨hrejected, rfl, fun _ other haccepted => ?_⟩
              obtain ⟨accepted, hnonnegative, heq⟩ := haccepted.decoded
              cases hdecoded.symm.trans heq
              omega
            · simp only [if_neg hnegative] at h
              obtain ⟨forwarded, hforwarded, heq⟩ := of_map_ok h
              cases heq
              have haccepted : Accepted m hlen out :=
                ⟨not_not.1 hid, code, not_lt.1 hnegative, hdecoded⟩
              exact .inr ⟨rfl, hlen, out, haccepted, hforwarded⟩
  · rw [dif_neg hlen] at h
    cases h

/-- The two messages that are handed to the queue have the lengths, and the second one the data
coding scheme, of the calls in `OpenQti.Sms.Handed`. -/
theorem handed_of_accepted {hlen : incomingHeaderSize ≤ m.len} (h : Accepted m hlen out) :
    Sms.parseAndForwardAdspMessage m =
      [.sms (formatted (stuckNotice m out)).length,
        if out.outDcs ≠ 0 then .rawSms (stuckNotice m out).length out.outDcs true
        else .sms (formatted (m.text out)).length] := by
  obtain ⟨result, hresult, hdecoded⟩ := h.decoded
  have hsize : ¬ m.len < rawSmsSize := by
    unfold incomingHeaderSize at hlen
    unfold rawSmsSize
    omega
  have hagrees : m.decoded = some (result, out) := m.agrees hlen _ hdecoded
  unfold Sms.parseAndForwardAdspMessage
  rw [if_neg hsize, if_neg (not_not.2 h.msgid), hagrees]
  simp only [if_neg (not_lt.2 hresult), length_formatted, sprintf_string]
  by_cases hscheme : out.outDcs ≠ 0
  · rw [if_pos hscheme, if_pos hscheme]
    rfl
  · rw [if_neg hscheme, if_neg hscheme]
    rfl

/-- The request is sent and answered with a packet that is accepted. -/
structure Answered (exchange : Exchange) (m : StuckMessage) (h : incomingHeaderSize ≤ m.len)
    (out : MessageData) : Prop extends Accepted m h out where
  sent : exchange.readWrite ≠ 0
  answer : exchange.readAnswer = .packet m

theorem request_read_cases {instanceId transactionId messageId : Nat} {result : Int}
    (h : requestReadAdspMessage instanceId transactionId messageId exchange s =
      .ok (result, next, events)) :
    (result ≠ 0 ∧ events = [.readRequest instanceId transactionId messageId] ∧
        ∀ m hlen out, ¬ Answered exchange m hlen out) ∨
      (result = 0 ∧ ∃ m hlen out placed, Answered exchange m hlen out ∧
        events = .readRequest instanceId transactionId messageId :: placed ∧
        forwardDecoded m out s = .ok (next, placed)) := by
  unfold requestReadAdspMessage at h
  have hrejected : minusEinval ≠ 0 := by decide
  by_cases hsent : exchange.readWrite = 0
  · simp only [if_pos hsent] at h
    cases h
    exact .inl ⟨hrejected, rfl, fun _ _ _ hanswered => hanswered.sent hsent⟩
  simp only [if_neg hsent] at h
  cases hanswer : exchange.readAnswer with
  | nothing =>
      rw [hanswer] at h
      cases h
      refine .inl ⟨hrejected, rfl, fun _ _ _ hanswered => ?_⟩
      cases hanswer.symm.trans hanswered.answer
  | emptyRead =>
      rw [hanswer] at h
      cases h
      refine .inl ⟨hrejected, rfl, fun _ _ _ hanswered => ?_⟩
      cases hanswer.symm.trans hanswered.answer
  | packet m =>
      rw [hanswer] at h
      obtain ⟨⟨code, state, placed⟩, hparse, heq⟩ := of_map_ok h
      cases heq
      obtain ⟨hcode, rfl, hnone⟩ | ⟨hcode, hlen, out, haccepted, hforward⟩ :=
        parse_and_forward_cases hparse
      · refine .inl ⟨hcode, rfl, fun other hlen out hanswered => ?_⟩
        cases hanswer.symm.trans hanswered.answer
        exact hnone hlen out hanswered.toAccepted
      · exact .inr ⟨hcode, m, hlen, out, placed, ⟨haccepted, hsent, hanswer⟩, rfl, hforward⟩

/-! ## Rounds -/

/-- The request is written whatever becomes of it. -/
theorem request_message_delete_events (instanceId transactionId messageId : Nat)
    (exchange : Exchange) :
    (requestMessageDelete instanceId transactionId messageId exchange).2 =
      [.deleteRequest instanceId transactionId messageId] := by
  unfold requestMessageDelete
  split_ifs
  · rfl
  · cases exchange.deleteAnswer <;> rfl

/-- What a round does: nothing comes of the request, or the message is forwarded and its deletion
requested. -/
theorem retrieve_round_cases {instanceId transactionId messageId : Nat} {round : Round}
    (h : retrieveRound instanceId transactionId messageId exchange s = .ok round) :
    (round.messageId = messageId ∧ round.before = s ∧ round.exchange = exchange) ∧
      ((round.events = [.readRequest instanceId transactionId messageId] ∧
          ∀ m hlen out, ¬ Answered exchange m hlen out) ∨
        ∃ m hlen out placed, Answered exchange m hlen out ∧
          round.events = .readRequest instanceId transactionId messageId :: placed ++
            [.deleteRequest instanceId ((transactionId + 1) % 65536) messageId] ∧
          ∃ next, forwardDecoded m out s = .ok (next, placed)) := by
  obtain ⟨⟨result, next, events⟩, hread, rfl⟩ := of_map_ok h
  obtain ⟨hresult, rfl, hnone⟩ | ⟨rfl, m, hlen, out, placed, hanswered, rfl, hforward⟩ :=
    request_read_cases hread
  · dsimp only
    rw [if_neg hresult]
    exact ⟨⟨rfl, rfl, rfl⟩, .inl ⟨rfl, hnone⟩⟩
  · dsimp only
    rw [if_pos rfl, request_message_delete_events]
    exact ⟨⟨rfl, rfl, rfl⟩, .inr ⟨m, hlen, out, placed, hanswered, rfl, next, hforward⟩⟩

variable {bytes : Bytes} {exchanges : Nat → Exchange}

/-- Every round of the loop is one of `retrieveRound`, for an entry of the list and from the state
in which it begins. -/
theorem retrieve_loop_rounds {remaining i transactionId : Nat} {round : Round}
    (h : round ∈ (retrieveLoop bytes exchanges remaining i transactionId s).1) :
    ∃ j transactionId, retrieveRound (qmuxInstanceId bytes) transactionId (listedMessageId bytes j)
      (exchanges j) round.before = .ok round := by
  -- by the entries that remain; a fault leaves no further rounds
  induction remaining generalizing i transactionId s with
  | zero => cases h
  | succ remaining ih =>
      rw [retrieveLoop] at h
      cases hround : retrieveRound (qmuxInstanceId bytes) transactionId (listedMessageId bytes i)
          (exchanges i) s with
      | error fault =>
          rw [hround] at h
          cases h
      | ok first =>
          rw [hround] at h
          cases h with
          | head =>
              obtain ⟨⟨-, hbefore, -⟩, -⟩ := retrieve_round_cases hround
              rw [hbefore]
              exact ⟨i, transactionId, hround⟩
          | tail _ hrest => exact ih hrest

end OpenQti.Sms.Recovery
