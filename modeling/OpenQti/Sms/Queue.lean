import OpenQti.Qmi.Tlv
import OpenQti.Sms.Runtime

/-!
# The SMS queue functions

The functions of `sms.c` that work on the message queue. `handleMessageState` takes the
next action for one message, `processMessageQueue` is called from the proxy loop and picks
a message to work on, `notifyWmsEvent` handles a WMS packet of the host, and the two
`add…SmsToQueue` functions append a message. Functions whose array accesses are not all
guarded return in `Except Fault`.

`handleMessageState` checks its argument before it uses it, so its accesses are plain.
Log output and the ring-in pulse that wakes the host are left out.
-/

namespace OpenQti.Sms

open Bytes Qmi SmsRuntime

/-! ## One message -/

/-- `generate_message_notification(fd, message_id)`. -/
def generateMessageNotification (env : Env) (messageId : Nat) (s : SmsRuntime) : SmsRuntime :=
  { s with currTransactionId := 0 }.write env (.eventReport messageId)

/-- `process_message_deletion(fd, …, indication)`. -/
def processMessageDeletion (env : Env) (indication : Nat) (s : SmsRuntime) : SmsRuntime :=
  if indication = 0 then s.write env (.delete s.currTransactionId 0x01 0x32)
  else s.write env (.delete s.currTransactionId 0x00 0x00)

/-- The padding of `build_and_send_raw_message`: an odd length is rounded up when a data coding
scheme is set, as the contents are then 16-bit characters. -/
def padRaw (m : Message) : Message :=
  if m.tpDcs ≠ 0 ∧ m.len < maxMessageSize ∧ m.len % 2 ≠ 0 then { m with len := m.len + 1 } else m

/-- `build_and_send_message` or, for a raw message, `build_and_send_raw_message`: the state in
which `write` is called with the packet. -/
def beforeSend (messageId : Nat) (s : SmsRuntime) : SmsRuntime :=
  if (s.msg messageId).isRaw then s.modifyMsg messageId padRaw else s

/-- The packet `build_and_send_message` or `build_and_send_raw_message` writes. -/
def messagePacket (messageId : Nat) (s : SmsRuntime) : HostPacket :=
  .readMessage s.currTransactionId messageId (s.msg messageId)

/-- State 0 of `handle_message_state`: notify the host. -/
def announce (env : Env) (messageId : Nat) (s : SmsRuntime) : SmsRuntime :=
  let s := (generateMessageNotification env messageId s).stamp env messageId
  let s := s.modifyMsg messageId fun m => { m with state := 1 }
  { s with currentMessageId := (s.msg messageId).messageId }

/-- State 2 of `handle_message_state`: send the contents. -/
def sendContents (env : Env) (messageId : Nat) (s : SmsRuntime) : SmsRuntime :=
  let s := beforeSend messageId s
  let sent := s.writeResult env
  let s := s.write env (messagePacket messageId s)
  let s := if sent > 0 then s.modifyMsg messageId fun m => { m with state := 3 } else s
  s.stamp env messageId

/-- State 4 of `handle_message_state`: acknowledge the deletion and wipe the text. -/
def acknowledgeDeletion (env : Env) (messageId : Nat) (s : SmsRuntime) : SmsRuntime :=
  let s := processMessageDeletion env (if (s.msg messageId).len > 0 then 0 else 1) s
  let s := s.stamp env messageId
  let s := s.modifyMsg messageId fun m =>
    { m with state := 9, pkt := fun _ => 0, len := 0 }
  s.nextMessageId

/-- `handle_message_state(fd, message_id)`. -/
def handleMessageState (env : Env) (messageId : Nat) (s : SmsRuntime) : SmsRuntime :=
  if messageId ≥ queueSize then s
  else
    match (s.msg messageId).state with
    | 0 => announce env messageId s
    | 2 => sendContents env messageId s
    | 4 => acknowledgeDeletion env messageId s
    | _ => s

/-! ## The worker -/

/-- `wipe_queue()`. -/
def wipeQueue (s : SmsRuntime) : Except Fault SmsRuntime :=
  if s.queuePos < queueSize then
    .ok { s with
      msg := fun i =>
        if (i : Int) ≤ s.queuePos then { s.msg i with state := 0, retries := 0 } else s.msg i
      notifPending := false
      source := .msgNone
      queuePos := -1
      currentMessageId := 0 }
  else .error (.index queueSize)

/-- The states 1 and 3 of the loop in `process_message_queue`: the message waits for the host, is
tried again, or is given up. -/
def awaitHost (elapsed : Int) (i : Nat) (s : SmsRuntime) : SmsRuntime :=
  if elapsed > fiveSeconds ∧ (s.msg i).retries < 3 then
    s.modifyMsg i fun m => { m with retries := m.retries + 1, state := m.state - 1 }
  else if elapsed > fiveSeconds ∧ (s.msg i).retries ≥ 3 then
    (s.modifyMsg i fun m =>
      { m with pkt := fun _ => 0, state := 9, retries := 0, len := 0 }).nextMessageId
  else s

/-- The `switch` of the loop in `process_message_queue`, for the states in which the function
then returns. -/
def serve (env : Env) (elapsed : Int) (i : Nat) (s : SmsRuntime) : SmsRuntime :=
  match (s.msg i).state with
  | 0 => handleMessageState env (s.msg i).messageId
      { s with currentMessageId := (s.msg i).messageId }
  | 2 => handleMessageState env s.currentMessageId s
  | 4 => handleMessageState env s.currentMessageId s
  | _ => awaitHost elapsed i s

/-- The loop of `process_message_queue` from index `i` on, with `remaining` entries to go. A state
that is none of those handled goes on with the next entry. -/
def queueLoop (env : Env) (curTime : Int) : Nat → Nat → SmsRuntime → Except Fault SmsRuntime
  | 0, _, s => wipeQueue s
  | remaining + 1, position, s => do
      let i ← index position
      let elapsed := curTime - (s.msg i).timestamp
      let s := if elapsed < 0 then s.stamp env i else s
      if (s.msg i).state ≤ 4 then .ok (serve env elapsed i s)
      else queueLoop env curTime remaining (position + 1) s

/-- `process_message_queue(fd)`. -/
def processMessageQueue (env : Env) (s : SmsRuntime) : Except Fault SmsRuntime :=
  let curTime := s.now env
  let s := s.tick
  if s.lockQueue then .ok s
  else if s.queuePos < 0 then .ok s
  else queueLoop env curTime (s.queuePos + 1).toNat 0 s

/-! ## Packets of the host -/

/-- The `msgid` field of the QMI header. -/
def qmiMsgid (bytes : Bytes) : Nat := le16 bytes 9

/-- The `transaction_id` field of the QMI header. -/
def qmiTransactionId (bytes : Bytes) : Nat := le16 bytes 7

/-- The `message_id` field of the `struct sms_storage_type` at an offset: it follows the TLV
header and the storage type. -/
def storageMessageId (bytes : Bytes) (offset : Nat) : Nat := le32 bytes (offset + 4)

/-- The `WMS_READ_MESSAGE` case of `notify_wms_event`, for a requested message id. -/
def readRequested (env : Env) (messageId : Nat) (s : SmsRuntime) : Except Fault SmsRuntime := do
  let s := { s with currentMessageId := messageId }
  -- the entry is written before `handle_message_state` checks the id
  let i ← index messageId
  let s := s.modifyMsg i fun m => { m with state := 2 }
  let s := handleMessageState env s.currentMessageId s
  let i ← index s.currentMessageId
  .ok (s.stamp env i)

/-- The message the `WMS_DELETE` case of `notify_wms_event` works on: the current one if it has
been sent, and else the one before it. -/
def deleteTarget (s : SmsRuntime) : Nat :=
  if (s.msg s.currentMessageId).state ≠ 3 ∧ s.currentMessageId > 0 then s.currentMessageId - 1
  else s.currentMessageId

/-- The `WMS_DELETE` case of `notify_wms_event`. The request's own message id is not looked at. -/
def deleteRequested (env : Env) (s : SmsRuntime) : Except Fault SmsRuntime := do
  let _ ← index s.currentMessageId
  let s := { s with currentMessageId := deleteTarget s }
  let i ← index s.currentMessageId
  let s := s.modifyMsg i fun m => { m with state := 4 }
  let s := handleMessageState env s.currentMessageId s
  -- the deletion has moved the current id on
  let i ← index s.currentMessageId
  .ok (s.stamp env i)

/-- `notify_wms_event(bytes, len, fd)`. -/
def notifyWmsEvent (env : Env) (bytes : Bytes) (len : Nat) (s : SmsRuntime) :
    Except Fault SmsRuntime :=
  let s := { s with currTransactionId := qmiTransactionId bytes }
  if s.queuePos < 0 then .ok s
  else if qmiMsgid bytes = wmsReadMessage then
    match getTlvOffsetById bytes len 0x01 with
    | none => .error .diverges
    | some offset =>
        if offset > 0 then readRequested env (storageMessageId bytes offset) s else .ok s
  else if qmiMsgid bytes = wmsDelete then deleteRequested env s
  else .ok s

/-! ## Adding messages -/

/-- `memcpy(pkt, message, len)` into an entry's text. -/
def copyText (message : List UInt8) (pkt : Bytes) : Bytes :=
  fun k => if h : k < message.length then message[k] else pkt k

/-- What `add_sms_to_queue` and `add_raw_sms_to_queue` share: the new last entry is filled by
`fill`, unless the queue is full or the message empty. -/
def addToQueue (message : List UInt8) (fill : Message → Message) (s : SmsRuntime) :
    Except Fault SmsRuntime :=
  if s.queuePos > (queueSize : Int) - 2 then .ok s
  else if message.length > 0 then
    let s := { s with notifPending := true, source := .msgInternal, queuePos := s.queuePos + 1 }
    match index s.queuePos with
    | .error fault => .error fault
    | .ok i =>
        if message.length > maxMessageSize then .error .overflow
        else .ok (s.modifyMsg i fun m =>
          fill { m with pkt := copyText message m.pkt, messageId := i })
  else .ok s

/-- The fields `add_sms_to_queue` sets besides the text and the id. -/
def textFields (m : Message) : Message := { m with tpDcs := 0, isRaw := false, isCb := false }

/-- The fields `add_raw_sms_to_queue` sets besides the text and the id. `is_cb` is set, never
cleared. -/
def rawFields (message : List UInt8) (tpDcs : UInt8) (isCb : Bool) (m : Message) : Message :=
  { m with
    len := message.length
    tpDcs := tpDcs
    isRaw := true
    isCb := if isCb then true else m.isCb }

/-- `add_sms_to_queue(message, len)`. -/
def addSmsToQueue (message : List UInt8) : SmsRuntime → Except Fault SmsRuntime :=
  addToQueue message textFields

/-- `add_raw_sms_to_queue(message, len, tp_dcs, is_cb)`. -/
def addRawSmsToQueue (message : List UInt8) (tpDcs : UInt8) (isCb : Bool) :
    SmsRuntime → Except Fault SmsRuntime :=
  addToQueue message (rawFields message tpDcs isCb)

end OpenQti.Sms
