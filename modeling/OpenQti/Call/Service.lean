import OpenQti.Call.Runtime
import OpenQti.Lib.Text
import OpenQti.Sms.Proxy

/-!
# The voice service

`call_service_handler` gets the packets of the voice service from both sides and decides whether
they go on to the other one. Requests of the host to the number of the modem, and answers and
hang-ups during a simulated call, are kept; so are, in the do-not-disturb mode, the announcements of
incoming calls by the baseband.

Offsets are found with `get_tlv_offset_by_id`, which may not return, and what is read behind the end
of a packet is what memory holds there. A phone number that does not fit into its array is a fault.
-/

namespace OpenQti.Call

open Bytes Qmi
open Sms (PacketAction qmiMsgid qmiTransactionId)

/-- The number of the modem, `"223344556677"`. -/
def ourPhone : List UInt8 :=
  [0x32, 0x32, 0x33, 0x33, 0x34, 0x34, 0x35, 0x35, 0x36, 0x36, 0x37, 0x37]

/-- `TLV_CALL_INFO`. -/
def tlvCallInfo : UInt8 := 0x01

/-- `TLV_REMOTE_NUMBER`. -/
def tlvRemoteNumber : UInt8 := 0x10

/-- What a handler returns: the action, the new state and what has been sent. -/
abbrev Handled := Except CallFault (PacketAction × CallRt × List CallOutput)

/-- `get_qmi_transaction_id(bytes, len)`. -/
def getQmiTransactionId (bytes : Bytes) : UInt16 := UInt16.ofNat (qmiTransactionId bytes)

variable (s : CallRt)

/-! ## Requests of the host -/

/-- The digits that `handle_voice_service_call_request` takes from the number that is dialled. -/
def dialledDigits (bytes : Bytes) : List UInt8 :=
  ((List.range (le16 bytes 14)).map fun i => bytes (16 + i)).filter
    fun c => 0x30 ≤ c ∧ c ≤ 0x39

/-- The call is for the modem: the first digits are its number. -/
def ForOurPhone (bytes : Bytes) : Prop := (dialledDigits bytes).take 12 = ourPhone

instance (bytes : Bytes) : Decidable (ForOurPhone bytes) := inferInstanceAs (Decidable (_ = _))

/-- `handle_voice_service_call_request(source, bytes, len, adspfd, usbfd)`. -/
def handleVoiceServiceCallRequest (bytes : Bytes) : Handled :=
  if (dialledDigits bytes).length > maxPhoneNumberLength then
    .error (.phoneNumber (dialledDigits bytes).length)
  else if ForOurPhone bytes then
    if !s.callSimulationMode then
      let s := setCallSimulationMode s true
      let (s, outputs) := sendDummyCallEstablished s (getQmiTransactionId bytes)
      .ok (.bypass, { s with simCallDirection := .outgoing }, outputs)
    else .ok (.bypass, s, [])
  else if s.callSimulationMode then
    .ok (.forcedPt, closeInternalCall s (getQmiTransactionId bytes))
  else .ok (.forcedPt, s, [])

/-- `handle_voice_service_answer_request(source, bytes, len, usbfd)`. -/
def handleVoiceServiceAnswerRequest (bytes : Bytes) : Handled :=
  if s.callSimulationMode then
    .ok (.bypass, processIncomingCallAccept s (getQmiTransactionId bytes))
  else .ok (.forcedPt, s, [])

/-- `handle_voice_service_disconnect_request(source, bytes, len, usbfd)`. -/
def handleVoiceServiceDisconnectRequest (bytes : Bytes) : Handled :=
  if s.callSimulationMode then
    let (s, events) := closeInternalCall s (getQmiTransactionId bytes)
    .ok (.bypass, s, .write (endCallResponse (getQmiTransactionId bytes)) :: events)
  else .ok (.forcedPt, s, [])

/-! ## Announcements of the baseband -/

/-- A TLV that is looked for; the search may not end. -/
def tlvOffset (bytes : Bytes) (len : Nat) (tlvid : UInt8) : Except CallFault Nat :=
  match getTlvOffsetById bytes len tlvid with
  | some offset => .ok offset
  | none => .error .loops

/-- A byte of the `struct call_status_meta` at an offset, or `0` if there is none. -/
def metaByte (bytes : Bytes) (offset field : Nat) : UInt8 :=
  if offset = 0 then 0 else bytes (offset + field)

/-- `meta->num_instances`. -/
def numInstances (bytes : Bytes) (offset : Nat) : UInt8 := metaByte bytes offset 3

/-- `meta->call_state`. -/
def callState (bytes : Bytes) (offset : Nat) : UInt8 := metaByte bytes offset 5

/-- `meta->call_direction`. -/
def callDirection (bytes : Bytes) (offset : Nat) : UInt8 := metaByte bytes offset 7

/-- `get_call_direction(pkt, sz, tlv)`. -/
def getCallDirection (bytes : Bytes) (len : Nat) (tlvid : UInt8) : Except CallFault UInt8 := do
  let offset ← tlvOffset bytes len tlvid
  .ok (callDirection bytes offset)

/-- `handle_voice_service_call_info(source, bytes, len, adspfd, usbfd)`. -/
def handleVoiceServiceCallInfo (source : PacketSource) (bytes : Bytes) (len : Nat) : Handled := do
  if source = .fromDsp ∧ s.doNotDisturb then
    let direction ← getCallDirection bytes len tlvRemoteNumber
    .ok (if direction = CallDirection.incoming.code then .bypass else .forcedPt, s, [])
  else .ok (.forcedPt, s, [])

/-- The bytes of an array that is a text. -/
def cString (array : List UInt8) : List UInt8 := array.takeWhile (· ≠ 0)

/-- `memcpy` to the start of an array. -/
def overwrite (array bytes : List UInt8) : List UInt8 := bytes ++ array.drop bytes.length

/-- The variables of `handle_voice_service_call_status`: the array of the phone number, the length
`j` of the last one, the length of the first one, and the action and the outputs so far. -/
structure StatusScan where
  phoneNumber : List UInt8
  lastLength : Nat
  prevNumSize : Nat
  action : PacketAction
  outputs : List CallOutput

def StatusScan.start : StatusScan where
  phoneNumber := List.replicate maxPhoneNumberLength 0
  lastLength := 0
  prevNumSize := 0
  action := .forcedPt
  outputs := []

/-- The phone number of the `struct remote_party_data` at an offset is copied. -/
def StatusScan.copy (scan : StatusScan) (bytes : Bytes) (offset : Nat) :
    Except CallFault StatusScan :=
  let size := (bytes (offset + 3)).toNat
  if size ≤ maxPhoneNumberLength then
    .ok { scan with
      phoneNumber := overwrite scan.phoneNumber
        ((List.range size).map fun k => bytes (offset + 4 + k))
      lastLength := size }
  else .error (.phoneNumber size)

/-- The first iteration of the loop, after the number has been copied. -/
def announceFirst (callwait : UInt8) (bytes : Bytes) (info offset : Nat) (scan : StatusScan) :
    StatusScan :=
  let scan := { scan with prevNumSize := scan.lastLength + 3 }
  let number := cString scan.phoneNumber
  if (numInstances bytes info).toNat > 1 ∧ callState bytes info = CallState.waiting.code then
    if callwait = 2 then
      { scan with
        action := .bypass
        outputs :=
          [.sms (Text.ascii "Automatically rejecting the call from " ++ number ++
              Text.ascii " while you're talking\n"),
            .hangUp (getQmiTransactionId bytes + 1) (bytes (offset + 3 + 1))] }
    else if callwait = 1 then
      { scan with
        action := .bypass
        outputs := [.sms (Text.ascii "Call from " ++ number ++
          Text.ascii " while you're talking (ignoring it) \n")] }
    else scan
  else if s.doNotDisturb ∧ callDirection bytes info = CallDirection.incoming.code ∧
      callState bytes info = CallState.ringing.code then
    { scan with
      action := .bypass
      outputs := [.sms (Text.ascii "Call from " ++ number ++ Text.ascii " while in DND mode \n")] }
  else scan

/-- An iteration of the loop over the instances of calls. From the second one on the number behind
the first one is read. -/
def statusRound (callwait : UInt8) (bytes : Bytes) (info offset : Nat) (scan : StatusScan)
    (i : Nat) : Except CallFault StatusScan :=
  if i = 0 then do
    let scan ← scan.copy bytes (offset + 3)
    .ok (announceFirst s callwait bytes info offset scan)
  else do
    let scan ← scan.copy bytes (offset + 3 + scan.prevNumSize)
    .ok (if callwait > 0 then { scan with action := .bypass } else scan)

/-- The end of `handle_voice_service_call_status`, for a call that is not hidden. -/
def forwardStatus (bytes : Bytes) (scan : StatusScan) : PacketAction × CallRt × List CallOutput :=
  if scan.lastLength > 0 then
    if scan.phoneNumber.take 12 = ourPhone then (.bypass, s, scan.outputs)
    else
      let (s, closed) :=
        if s.callSimulationMode then closeInternalCall s (getQmiTransactionId bytes) else (s, [])
      (scan.action, s, scan.outputs ++ closed ++ [.callPkt (cString scan.phoneNumber)])
  else if s.callSimulationMode then (.bypass, s, scan.outputs)
  else
    (scan.action, s,
      scan.outputs ++ [.callPkt (cString (overwrite scan.phoneNumber (Text.ascii "Unknown")))])

/-- `handle_voice_service_call_status(source, bytes, len, adspfd, usbfd)`. -/
def handleVoiceServiceCallStatus (callwait : UInt8) (bytes : Bytes) (len : Nat) : Handled := do
  let offset ← tlvOffset bytes len tlvRemoteNumber
  if offset = 0 then .ok (.forcedPt, s, [])
  else
    let info ← tlvOffset bytes len tlvCallInfo
    let scan ← (List.range (numInstances bytes info).toNat).foldlM
      (statusRound s callwait bytes info offset) .start
    if s.doNotDisturb ∧ callDirection bytes info = CallDirection.incoming.code then
      .ok (.bypass, s, scan.outputs)
    else .ok (forwardStatus s bytes scan)

/-- `handle_voice_service_all_call_status_info(source, bytes, len, adspfd, usbfd)`. -/
def handleVoiceServiceAllCallStatusInfo (source : PacketSource) (bytes : Bytes) : Handled :=
  if source = .fromDsp ∧ s.doNotDisturb then
    .ok (.bypass, s, [.write
      { ctlid := 0x02
        transactionId := getQmiTransactionId bytes
        msgid := VoiceMsgid.getAllCallInfo.code
        tlvs := [resultTlv] }])
  else .ok (.forcedPt, s, [])

/-- `call_service_handler(source, bytes, len, adspfd, usbfd)`, with the setting for waiting calls. -/
def callServiceHandler (callwait : UInt8) (source : PacketSource) (bytes : Bytes) (len : Nat) :
    Handled :=
  if qmiMsgid bytes = VoiceMsgid.callRequest.code then handleVoiceServiceCallRequest s bytes
  else if qmiMsgid bytes = VoiceMsgid.callAnswerReq.code then
    handleVoiceServiceAnswerRequest s bytes
  else if qmiMsgid bytes = VoiceMsgid.callInfo.code then
    handleVoiceServiceCallInfo s source bytes len
  else if qmiMsgid bytes = VoiceMsgid.callStatus.code then
    handleVoiceServiceCallStatus s callwait bytes len
  else if qmiMsgid bytes = VoiceMsgid.getAllCallInfo.code then
    handleVoiceServiceAllCallStatusInfo s source bytes
  else if qmiMsgid bytes = VoiceMsgid.callEndReq.code then
    handleVoiceServiceDisconnectRequest s bytes
  else .ok (.forcedPt, s, [])

end OpenQti.Call
