import OpenQti.Lib.Text
import OpenQti.Sms.Proxy

/-!
# What is handed to the queue

The functions that append a message are handed a text and its length, and copy that many bytes into
the new entry. `Handed` is one such call; `StaysInside` says that it changes nothing but the text
and the attributes of the new entry, whatever the text and the state of the queue are. That is a
matter of the length alone, see `stays_inside_iff`.

Here are the calls of `intercept_cb_message` and `parse_and_forward_adsp_message`. Those of the chat
are in `OpenQti.Chat.QueueWrites`.
-/

namespace OpenQti.Sms

open Bytes Text

/-! ## A call -/

/-- A call of `add_message_to_queue`, `add_sms_to_queue` or `add_raw_sms_to_queue`, with the length
it is handed. -/
inductive Handed where
  | message (len : Nat)
  | sms (len : Nat)
  | rawSms (len : Nat) (tpDcs : UInt8) (isCb : Bool)

/-- The length that is handed over. -/
def Handed.len : Handed → Nat
  | .message len => len
  | .sms len => len
  | .rawSms len _ _ => len

/-- The length of the message is an attribute that is set. -/
def Handed.setsLen : Handed → Bool
  | .rawSms _ _ _ => true
  | _ => false

/-- `add_message_to_queue(message, len)`. While a call is simulated, messages go to the queue of
that call. -/
def addMessageToQueue (callSimulation : Bool) (message : List UInt8) (s : SmsRuntime) :
    Except Fault SmsRuntime :=
  if message.length = 0 then .ok s
  else if callSimulation then .ok s
  else addSmsToQueue message s

/-- The call, for a message of the length that it is handed. -/
def Handed.add (callSimulation : Bool) (message : List UInt8) :
    Handed → SmsRuntime → Except Fault SmsRuntime
  | .message _ => addMessageToQueue callSimulation message
  | .sms _ => addSmsToQueue message
  | .rawSms _ tpDcs isCb => addRawSmsToQueue message tpDcs isCb

/-- The call changes no other entry, and of the new one only the text and the attributes. -/
structure ChangesOnlyText (len : Nat) (setsLen : Bool) (s next : SmsRuntime) : Prop where
  others : ∀ i : Nat, (i : Int) ≠ s.queuePos + 1 → next.msg i = s.msg i
  pkt : ∀ i k, len ≤ k → (next.msg i).pkt k = (s.msg i).pkt k
  len : setsLen = false → ∀ i, (next.msg i).len = (s.msg i).len
  state : ∀ i, (next.msg i).state = (s.msg i).state
  retries : ∀ i, (next.msg i).retries = (s.msg i).retries
  timestamp : ∀ i, (next.msg i).timestamp = (s.msg i).timestamp

/-- The length is at most that of a text, and the call writes inside the new entry. -/
def Handed.StaysInside (handed : Handed) : Prop :=
  handed.len ≤ maxMessageSize ∧
    ∀ callSimulation message s, message.length = handed.len → -1 ≤ s.queuePos →
      ∃ next, handed.add callSimulation message s = .ok next ∧
        ChangesOnlyText handed.len handed.setsLen s next

/-! ## The length decides -/

theorem changes_only_text_of_msg_eq {len : Nat} {setsLen : Bool} {s next : SmsRuntime}
    (h : next.msg = s.msg) : ChangesOnlyText len setsLen s next := by
  constructor <;> simp [h]

/-- The fields that a call sets besides the text and the id are attributes. -/
structure SetsAttributes (setsLen : Bool) (fill : Message → Message) : Prop where
  pkt : ∀ m, (fill m).pkt = m.pkt
  len : setsLen = false → ∀ m, (fill m).len = m.len
  state : ∀ m, (fill m).state = m.state
  retries : ∀ m, (fill m).retries = m.retries
  timestamp : ∀ m, (fill m).timestamp = m.timestamp

theorem text_fields_attributes : SetsAttributes false textFields :=
  ⟨fun _ => rfl, fun _ _ => rfl, fun _ => rfl, fun _ => rfl, fun _ => rfl⟩

theorem raw_fields_attributes (message : List UInt8) (tpDcs : UInt8) (isCb : Bool) :
    SetsAttributes true (rawFields message tpDcs isCb) :=
  ⟨fun _ => rfl, nofun, fun _ => rfl, fun _ => rfl, fun _ => rfl⟩

theorem copy_text_of_le {message : List UInt8} {k : Nat} (hk : message.length ≤ k) (pkt : Bytes) :
    copyText message pkt k = pkt k := dif_neg (Nat.not_lt_of_le hk)

/-- What a new value of one entry leaves as it is, no entry changes. -/
theorem modify_msg_same {α : Type} (part : Message → α) {s : SmsRuntime} {j : Nat}
    {f : Message → Message} (h : part (f (s.msg j)) = part (s.msg j)) (i : Nat) :
    part ((s.modifyMsg j f).msg i) = part (s.msg i) := by
  show part (Function.update s.msg j (f (s.msg j)) i) = part (s.msg i)
  by_cases hi : i = j
  · rw [hi, Function.update_self, h]
  · rw [Function.update_of_ne hi]

theorem add_to_queue_changes_only_text {message : List UInt8} {setsLen : Bool}
    {fill : Message → Message} (hfill : SetsAttributes setsLen fill)
    (hshort : message.length ≤ maxMessageSize) {s : SmsRuntime} (hpos : -1 ≤ s.queuePos) :
    ∃ next, addToQueue message fill s = .ok next ∧
      ChangesOnlyText message.length setsLen s next := by
  unfold addToQueue
  by_cases hfull : s.queuePos > (queueSize : Int) - 2
  · exact ⟨s, if_pos hfull, changes_only_text_of_msg_eq rfl⟩
  · by_cases hempty : message.length > 0
    · have hindex : index (s.queuePos + 1) = .ok (s.queuePos + 1).toNat :=
        index_eq_ok.2 ⟨by omega, by omega⟩
      simp only [hfull, if_false, hempty, if_true, hindex, Nat.not_lt_of_le hshort]
      refine ⟨_, rfl, ?_⟩
      constructor
      case others => exact fun i hi => Function.update_of_ne (by omega) _ _
      case pkt =>
        intro i k hk
        refine modify_msg_same (fun m => m.pkt k) ?_ i
        simp only [hfill.pkt]
        exact copy_text_of_le hk _
      case len => exact fun hlen => modify_msg_same Message.len (hfill.len hlen _)
      case state => exact modify_msg_same Message.state (hfill.state _)
      case retries => exact modify_msg_same Message.retries (hfill.retries _)
      case timestamp => exact modify_msg_same Message.timestamp (hfill.timestamp _)
    · simp only [hfull, hempty, if_false]
      exact ⟨s, rfl, changes_only_text_of_msg_eq rfl⟩

theorem add_message_changes_only_text (callSimulation : Bool) {message : List UInt8}
    (hshort : message.length ≤ maxMessageSize) {s : SmsRuntime} (hpos : -1 ≤ s.queuePos) :
    ∃ next, addMessageToQueue callSimulation message s = .ok next ∧
      ChangesOnlyText message.length false s next := by
  unfold addMessageToQueue
  split_ifs
  · exact ⟨s, rfl, changes_only_text_of_msg_eq rfl⟩
  · exact ⟨s, rfl, changes_only_text_of_msg_eq rfl⟩
  · exact add_to_queue_changes_only_text text_fields_attributes hshort hpos

/-- A length of at most 160 is all that it takes. -/
theorem stays_inside_iff {handed : Handed} :
    handed.StaysInside ↔ handed.len ≤ maxMessageSize := by
  refine ⟨fun h => h.1, fun hlen => ⟨hlen, ?_⟩⟩
  intro callSimulation message s hmessage hpos
  rw [← hmessage] at hlen ⊢
  cases handed with
  | message len => exact add_message_changes_only_text callSimulation hlen hpos
  | sms len => exact add_to_queue_changes_only_text text_fields_attributes hlen hpos
  | rawSms len tpDcs isCb =>
      exact add_to_queue_changes_only_text (raw_fields_attributes message tpDcs isCb) hlen hpos

/-- All calls stay inside their entries. -/
def AllInside (calls : List Handed) : Prop := ∀ handed ∈ calls, handed.StaysInside

theorem all_inside_nil : AllInside [] := by
  intro handed hmem
  cases hmem

theorem all_inside_cons {handed : Handed} {calls : List Handed} :
    AllInside (handed :: calls) ↔ handed.len ≤ maxMessageSize ∧ AllInside calls := by
  rw [← stays_inside_iff]
  exact List.forall_mem_cons

theorem all_inside_singleton {handed : Handed} :
    AllInside [handed] ↔ handed.len ≤ maxMessageSize := by
  rw [all_inside_cons, and_iff_left all_inside_nil]

/-! ## Cell broadcast messages -/

/-- The `id` of the header. -/
def cbHeaderId (bytes : Bytes) : UInt8 := bytes 13

/-- The `id` of the message. -/
def cbMessageId (bytes : Bytes) : UInt8 := bytes 21

/-- The `len` of the message: that of the PDU, with the 6 bytes before its contents. -/
def cbMessageLen (bytes : Bytes) : Nat := le16 bytes 22

/-- The `encoding` of the PDU. -/
def cbEncoding (bytes : Bytes) : UInt8 := bytes 28

/-- The `page_param` of the PDU. -/
def cbPageParam (bytes : Bytes) : UInt8 := bytes 29

/-- An `int` as a `size_t` of 32 bits. -/
def sizeT (n : Int) : Nat := (n % 4294967296).toNat

/-- `intercept_cb_message(bytes, len)`. A length below 6 makes `sz` negative. -/
def interceptCbMessage (bytes : Bytes) (len : Nat) : List Handed :=
  if cellBroadcastHeaderSize ≤ len ∧ cbHeaderId bytes = tlvTransferMtMessage ∧
      cbMessageId bytes = 0x07 then
    let warning :=
      if cbPageParam bytes >>> 4 = 0x01 then
        [.message (ascii "WARNING: Incoming Cell Broadcast Message from the network").length]
      else []
    warning ++ [.rawSms (sizeT (cbMessageLen bytes - 6)) (cbEncoding bytes &&& 0x2C) true]
  else []

/-- The calls of `check_cb_message(bytes, len, adspfd, usbfd)`. -/
def checkCbMessageCalls (bytes : Bytes) (len : Nat) : List Handed :=
  if cellBroadcastHeaderSize ≤ len ∧ qmiMsgid bytes = wmsEventReport ∧
      cbHeaderId bytes = tlvTransferMtMessage ∧ cbMessageId bytes ≠ 0x00 then
    interceptCbMessage bytes len
  else []

/-- The packet is none that is taken for a cell broadcast, or its message is neither shorter than
the fields before the contents nor longer than a text. -/
def CellBroadcastFits (bytes : Bytes) (len : Nat) : Prop :=
  cellBroadcastHeaderSize ≤ len → cbHeaderId bytes = tlvTransferMtMessage →
    cbMessageId bytes = 0x07 → 6 ≤ cbMessageLen bytes ∧ cbMessageLen bytes ≤ 166

theorem size_t_le_iff {n : Nat} (hn : n < 65536) :
    sizeT ((n : Int) - 6) ≤ maxMessageSize ↔ 6 ≤ n ∧ n ≤ 166 := by
  unfold sizeT maxMessageSize
  omega

theorem le16_lt (bytes : Bytes) (offset : Nat) : le16 bytes offset < 65536 := by
  have hlow := (bytes offset).toNat_lt
  have hhigh := (bytes (offset + 1)).toNat_lt
  unfold le16
  omega

theorem intercept_cb_message_inside_iff (bytes : Bytes) (len : Nat) :
    AllInside (interceptCbMessage bytes len) ↔ CellBroadcastFits bytes len := by
  unfold interceptCbMessage CellBroadcastFits
  split_ifs with htaken hfirst
  · have hwarning :
        (ascii "WARNING: Incoming Cell Broadcast Message from the network").length = 57 :=
      length_ascii _
    simp only [List.singleton_append, all_inside_cons, all_inside_nil, Handed.len, hwarning,
      htaken, forall_const, and_true]
    rw [and_iff_right (by decide)]
    exact size_t_le_iff (le16_lt bytes 22)
  · simp only [List.nil_append, all_inside_singleton, Handed.len, htaken, forall_const]
    exact size_t_le_iff (le16_lt bytes 22)
  · refine iff_of_true all_inside_nil fun hlen hheader hid => ?_
    exact absurd ⟨hlen, hheader, hid⟩ htaken

/-! ## Stuck messages -/

/-- A message that the baseband has kept, as `parse_and_forward_adsp_message` finds it. What
`pdu_decode` makes of it is what its model says; where the decoder has read past the end of the
packet, it can be anything. -/
structure StuckMessage where
  bytes : Bytes
  len : Nat
  /-- What `msg_out` holds before it is filled in, and what follows it on the heap. -/
  allocated : MessageData
  heap : List UInt8
  decoded : Option (Int × MessageData)
  agrees : ∀ h result,
    pduDecode ⟨bytes, len, h⟩ { allocated with outDcs := 0 } = .ok result → decoded = result

/-- The size of `struct raw_sms`. -/
def rawSmsSize : Nat := 23

/-- The bytes from `msg_out->message` on, up to the first 0. -/
def StuckMessage.text (m : StuckMessage) (out : MessageData) : List UInt8 :=
  ((List.range maxMessageSize).map out.message ++ m.heap).takeWhile (· ≠ 0)

/-- The bytes from `msg_out->phone_number` on, up to the first 0. The decoder does not always end
the number. -/
def StuckMessage.phoneNumber (m : StuckMessage) (out : MessageData) : List UInt8 :=
  ((List.range numberCapacity).map out.phoneNumber ++ [out.dcs, if out.rawMessage then 1 else 0] ++
    (List.range maxMessageSize).map out.message ++ m.heap).takeWhile (· ≠ 0)

/-- `parse_and_forward_adsp_message(bytes, len)`. A message with a data coding scheme is handed over
with the length of the notice before it. -/
def parseAndForwardAdspMessage (m : StuckMessage) : List Handed :=
  if m.len < rawSmsSize then []
  else if qmiMsgid m.bytes ≠ wmsReadMessage then []
  else
    match m.decoded with
    | none => []
    | some (result, out) =>
        if result < 0 then []
        else
          let notice := sprintf "Stuck message from %s:\n--------\n" [m.phoneNumber out]
          if out.outDcs ≠ 0 then
            [.sms notice.length, .rawSms notice.length out.outDcs true]
          else [.sms notice.length, .sms (sprintf "%s" [m.text out]).length]

/-- The message is none that is forwarded, or the number is short enough, and the text of a message
without a data coding scheme ends with the array at the latest. -/
def StuckMessageFits (m : StuckMessage) : Prop :=
  rawSmsSize ≤ m.len → qmiMsgid m.bytes = wmsReadMessage →
    ∀ result out, m.decoded = some (result, out) → 0 ≤ result →
      (m.phoneNumber out).length ≤ 130 ∧
        (out.outDcs = 0 → (m.text out).length ≤ maxMessageSize)

theorem decoded_inside_iff (m : StuckMessage) (out : MessageData) :
    AllInside
      (if out.outDcs ≠ 0 then
        [.sms (sprintf "Stuck message from %s:\n--------\n" [m.phoneNumber out]).length,
          .rawSms (sprintf "Stuck message from %s:\n--------\n" [m.phoneNumber out]).length
            out.outDcs true]
      else
        [.sms (sprintf "Stuck message from %s:\n--------\n" [m.phoneNumber out]).length,
          .sms (sprintf "%s" [m.text out]).length]) ↔
      (m.phoneNumber out).length ≤ 130 ∧
        (out.outDcs = 0 → (m.text out).length ≤ maxMessageSize) := by
  have hnotice : (sprintf "Stuck message from %s:\n--------\n" [m.phoneNumber out]).length =
      30 + ((m.phoneNumber out).length + 0) := length_sprintf _ _ rfl
  have htext : (sprintf "%s" [m.text out]).length = 0 + ((m.text out).length + 0) :=
    length_sprintf _ _ rfl
  by_cases hraw : out.outDcs = 0
  · simp only [hraw, ne_eq, not_true, if_false, all_inside_cons, all_inside_nil, and_true,
      Handed.len, hnotice, htext, forall_const, maxMessageSize]
    omega
  · simp only [hraw, ne_eq, not_false_eq_true, if_true, all_inside_cons, all_inside_nil, and_true,
      Handed.len, hnotice, false_implies, maxMessageSize]
    omega

theorem forward_inside_iff (m : StuckMessage) :
    AllInside (parseAndForwardAdspMessage m) ↔ StuckMessageFits m := by
  unfold parseAndForwardAdspMessage StuckMessageFits
  by_cases hlen : m.len < rawSmsSize
  · rw [if_pos hlen]
    exact iff_of_true all_inside_nil fun h => absurd h (Nat.not_le_of_lt hlen)
  · by_cases hid : qmiMsgid m.bytes = wmsReadMessage
    · simp only [if_neg hlen, hid, ne_eq, not_true, if_false, Nat.le_of_not_lt hlen, forall_const]
      cases m.decoded with
      | none => exact iff_of_true all_inside_nil nofun
      | some decoded =>
          obtain ⟨result, out⟩ := decoded
          by_cases hfailed : result < 0
          · simp only [if_pos hfailed]
            refine iff_of_true all_inside_nil fun value _ hvalue hok => ?_
            cases hvalue
            exact absurd hok (Int.not_le_of_gt hfailed)
          · simp only [if_neg hfailed]
            refine (decoded_inside_iff m out).trans ⟨fun hfits value _ hvalue _ => ?_, fun h => ?_⟩
            · cases hvalue
              exact hfits
            · exact h result out rfl (Int.not_lt.1 hfailed)
    · rw [if_neg hlen, if_pos hid]
      exact iff_of_true all_inside_nil fun _ h => absurd h hid

end OpenQti.Sms
