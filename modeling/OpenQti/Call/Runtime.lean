import Mathlib.Data.List.Basic
import Mathlib.Logic.Function.Basic

/-!
# Simulated calls

The modem can call the host, and be called by it, without the network: `call.c` answers the requests
of the host and sends status events of a call that does not exist. A thread speaks the queued
messages as long as the call goes on. This module translates the state `call_rt` and the functions
that work on it; the packets of the voice service are in `Call.Service`.

A packet is given by its headers and TLVs. Pauses, the audio devices and the log are left out.
-/

namespace OpenQti.Call

/-- `QUEUE_SIZE`. -/
def queueSize : Nat := 256

/-- `MAX_TTS_TEXT_SIZE`. -/
def maxTtsTextSize : Nat := 160

/-- `CALL_MAX_LOOPS`. -/
def callMaxLoops : Nat := 15

/-- `MAX_PHONE_NUMBER_LENGTH`. -/
def maxPhoneNumberLength : Nat := 20

/-- `enum call_direction`. -/
inductive CallDirection where
  | unknown
  | outgoing
  | incoming
  deriving DecidableEq, Repr

def CallDirection.code : CallDirection → UInt8
  | .unknown => 0x00
  | .outgoing => 0x01
  | .incoming => 0x02

/-- `enum call_status`. -/
inductive CallState where
  | notStartedYet
  | originating
  | ringing
  | established
  | attempt
  | alerting
  | onHold
  | waiting
  | disconnecting
  | hangup
  | preparing
  deriving DecidableEq, Repr

def CallState.code : CallState → UInt8
  | .notStartedYet => 0x00
  | .originating => 0x01
  | .ringing => 0x02
  | .established => 0x03
  | .attempt => 0x04
  | .alerting => 0x05
  | .onHold => 0x06
  | .waiting => 0x07
  | .disconnecting => 0x08
  | .hangup => 0x09
  | .preparing => 0x0a

/-- The message ids of the voice service that are used. -/
inductive VoiceMsgid where
  | callRequest
  | callEndReq
  | callAnswerReq
  | callInfo
  | callStatus
  | getAllCallInfo
  | callStatusChange
  deriving DecidableEq, Repr

def VoiceMsgid.code : VoiceMsgid → Nat
  | .callRequest => 0x0020
  | .callEndReq => 0x0021
  | .callAnswerReq => 0x0022
  | .callInfo => 0x0024
  | .callStatus => 0x002e
  | .getAllCallInfo => 0x002f
  | .callStatusChange => 0x0032

/-- A message that is to be spoken. The array holds the text and zeros behind it. -/
structure VoiceMessage where
  message : List UInt8
  len : Nat
  state : UInt8
  deriving DecidableEq, Repr

/-- A slot of the queue at start-up. -/
def VoiceMessage.empty : VoiceMessage := ⟨[], 0, 0⟩

/-- `call_rt`. -/
structure CallRt where
  isCallPending : Bool
  callSimulationMode : Bool
  simCallDirection : CallDirection
  simulatedCallState : CallState
  transactionId : UInt16
  emptyMessageLoop : UInt8
  timeoutCounter : UInt8
  stickToLoopedMessage : Bool
  msg : Nat → VoiceMessage
  doNotDisturb : Bool

/-- The state at start-up. -/
def CallRt.zero : CallRt where
  isCallPending := false
  callSimulationMode := false
  simCallDirection := .unknown
  simulatedCallState := .notStartedYet
  transactionId := 0
  emptyMessageLoop := 0
  timeoutCounter := 0
  stickToLoopedMessage := false
  msg := fun _ => .empty
  doNotDisturb := false

/-! ## What is sent -/

/-- A TLV of a packet. -/
structure Tlv where
  id : UInt8
  value : List UInt8
  deriving DecidableEq, Repr

/-- A packet of the voice service to the host. Its QMUX header is left out. -/
structure VoicePacket where
  ctlid : UInt8
  transactionId : UInt16
  msgid : Nat
  tlvs : List Tlv
  deriving DecidableEq, Repr

/-- What the functions do besides changing the state. -/
inductive CallOutput where
  /-- A packet is written to the host. -/
  | write (packet : VoicePacket)
  /-- A request to end a call is written to the baseband. -/
  | hangUp (transactionId : UInt16) (callId : UInt8)
  /-- The host is woken up by `pulse_ring_in`. -/
  | pulseRingIn
  /-- A thread with `simulated_call_tts_handler` is created. -/
  | startTts
  /-- `add_sms_to_queue` is called with a text. -/
  | sms (text : List UInt8)
  /-- `handle_call_pkt` is called with a phone number. -/
  | callPkt (phoneNumber : List UInt8)
  deriving DecidableEq, Repr

/-- The generic result of a QMI response: a success. -/
def resultTlv : Tlv := ⟨0x02, [0, 0, 0, 0]⟩

/-- The number of the modem as it is shown to the host. -/
def phoneProto : List UInt8 :=
  [0x2b, 0x32, 0x32, 0x33, 0x33, 0x34, 0x34, 0x35, 0x35, 0x36, 0x36, 0x37, 0x37]

/-- The packet of `send_call_request_response`. -/
def callRequestResponse (transactionId : UInt16) : VoicePacket where
  ctlid := 0x04
  transactionId := transactionId
  msgid := VoiceMsgid.callRequest.code
  tlvs := [resultTlv, ⟨0x10, [0x01]⟩, ⟨0x15, [0x03]⟩]

/-- The packet of `send_voice_call_status_event`. -/
def callStatusPacket (transactionId : UInt16) (direction : CallDirection) (state : CallState) :
    VoicePacket where
  ctlid := 0x04
  transactionId := transactionId
  msgid := VoiceMsgid.callStatus.code
  tlvs := [⟨0x01, [0x01, 0x01, state.code, 0x00, direction.code, 0x04, 0x00, 0x00]⟩,
    ⟨0x10, [0x01, 0x01, 0x00, 0x0d] ++ phoneProto⟩,
    ⟨0x27, [0x01, 0x01, 0x02]⟩,
    ⟨0x2b, [0x01, 0x01, 0x00, 0x00, 0x00, 0x01, 0x0d] ++ phoneProto⟩]

/-- The packet of `accept_simulated_call`. Its `transaction_id` is a `uint8_t`. -/
def callAcceptAck (transactionId : UInt8) : VoicePacket where
  ctlid := 0x02
  transactionId := transactionId.toUInt16
  msgid := VoiceMsgid.callAnswerReq.code
  tlvs := [resultTlv, ⟨0x10, [0x01]⟩]

/-- The packet of `send_voice_cal_disconnect_ack`. -/
def endCallResponse (transactionId : UInt16) : VoicePacket where
  ctlid := 0x02
  transactionId := transactionId
  msgid := VoiceMsgid.callStatus.code
  tlvs := [resultTlv, ⟨0x10, [0x01]⟩]

/-! ## The state -/

variable (s : CallRt)

/-- `set_call_simulation_mode(en)`. -/
def setCallSimulationMode (en : Bool) : CallRt := { s with callSimulationMode := en }

/-- `set_looped_message(en)`. -/
def setLoopedMessage (en : Bool) : CallRt := { s with stickToLoopedMessage := en }

/-- `set_do_not_disturb(en)`. -/
def setDoNotDisturb (en : Bool) : CallRt := { s with doNotDisturb := en }

/-- `reset_call_state()`. The state of the call and the last transaction id stay as they are. -/
def resetCallState : CallRt :=
  { s with
    isCallPending := false
    callSimulationMode := false
    emptyMessageLoop := 0
    timeoutCounter := 0
    stickToLoopedMessage := false
    simCallDirection := .unknown
    doNotDisturb := false
    msg := fun i => if i < queueSize then .empty else s.msg i }

/-- `set_pending_call_flag(en)`. -/
def setPendingCallFlag (en : Bool) : CallRt :=
  { s with isCallPending := en && !s.callSimulationMode }

/-- `send_voice_call_status_event(usbfd, transaction_id, call_direction, call_state)`. -/
def sendVoiceCallStatusEvent (transactionId : UInt16) (direction : CallDirection)
    (state : CallState) : CallRt × List CallOutput :=
  ({ s with
    transactionId := transactionId
    simCallDirection := direction
    simulatedCallState := state },
    [.write (callStatusPacket transactionId direction state)])

/-- `close_internal_call(usbfd, transaction_id)`. -/
def closeInternalCall (transactionId : UInt16) : CallRt × List CallOutput :=
  let (s, first) := sendVoiceCallStatusEvent s transactionId s.simCallDirection .disconnecting
  let (s, second) := sendVoiceCallStatusEvent s (transactionId + 1) s.simCallDirection .hangup
  ({ setCallSimulationMode s false with simCallDirection := .unknown }, first ++ second)

/-- `start_simulated_call(usbfd)`. -/
def startSimulatedCall : CallRt × List CallOutput :=
  let s :=
    { s with
      transactionId := 0x01
      simulatedCallState := .ringing
      simCallDirection := .incoming }
  let s := setCallSimulationMode s true
  let (s, event) := sendVoiceCallStatusEvent s s.transactionId .incoming .ringing
  (s, .pulseRingIn :: event)

/-- The first part of `notify_simulated_call`: nothing has been said for too long. -/
def closeIdleCall : CallRt × List CallOutput :=
  if s.callSimulationMode ∧ s.emptyMessageLoop.toNat > callMaxLoops then
    let (s, events) := closeInternalCall s s.transactionId
    (resetCallState s, events)
  else (s, [])

/-- The second part of `notify_simulated_call`: nobody has answered for too long. -/
def killUnansweredCall : CallRt × List CallOutput :=
  if s.simulatedCallState ≠ .established then
    if s.timeoutCounter.toNat > 60 then
      let (s, events) := closeInternalCall s s.transactionId
      (resetCallState s, events)
    else ({ s with timeoutCounter := s.timeoutCounter + 1 }, [])
  else (s, [])

/-- `notify_simulated_call(usbfd)`. -/
def notifySimulatedCall : CallRt × List CallOutput :=
  let (s, closed) := closeIdleCall s
  let (s, killed) := killUnansweredCall s
  (s, closed ++ killed)

/-- The part of `process_simulated_packet` that is about calls. It is not reached while there is
something to be done about messages. -/
def processSimulatedCalls (messagesPending : Bool) : CallRt × List CallOutput :=
  if messagesPending then (s, [])
  else if s.isCallPending then startSimulatedCall (setPendingCallFlag s false)
  else if s.callSimulationMode then notifySimulatedCall s
  else (s, [])

/-- `process_incoming_call_accept(usbfd, transaction_id)`. The acknowledgement takes the id as a
`uint8_t`. -/
def processIncomingCallAccept (transactionId : UInt16) : CallRt × List CallOutput :=
  let (s, event) := sendVoiceCallStatusEvent s (transactionId + 1) .incoming .established
  (s, [.write (callAcceptAck transactionId.toUInt8)] ++ event ++ [.startTts])

/-- `send_dummy_call_established(usbfd, transaction_id)`. -/
def sendDummyCallEstablished (transactionId : UInt16) : CallRt × List CallOutput :=
  let (s, attempt) := sendVoiceCallStatusEvent s transactionId .outgoing .attempt
  let (s, alerting) := sendVoiceCallStatusEvent s (transactionId + 1) .outgoing .alerting
  let (s, established) := sendVoiceCallStatusEvent s (transactionId + 1 + 1) .outgoing .established
  ({ s with transactionId := transactionId + 1 + 1 },
    attempt ++ [.write (callRequestResponse transactionId)] ++ alerting ++ established ++
      [.startTts])

/-! ## The voice -/

/-- More bytes are copied than an array has. -/
inductive CallFault where
  | message (len : Nat)
  | phoneNumber (len : Nat)
  /-- A loop over TLVs never ends. -/
  | loops
  deriving DecidableEq, Repr

/-- The first slot of the queue that is free. -/
def freeSlot : Option Nat := (List.range queueSize).find? fun i => (s.msg i).state = 0

/-- The first slot of the queue with a message that is to be spoken. -/
def waitingSlot : Option Nat :=
  (List.range queueSize).find? fun i => (s.msg i).state = 1 ∧ (s.msg i).len > 0

/-- `add_voice_message_to_queue(message, len)`. A message for which there is no slot is dropped. -/
def addVoiceMessageToQueue (message : List UInt8) : Except CallFault CallRt :=
  if message.length > 0 then
    match freeSlot s with
    | some i =>
        if message.length ≤ maxTtsTextSize then
          .ok { s with msg := Function.update s.msg i ⟨message, message.length, 1⟩ }
        else .error (.message message.length)
    | none => .ok s
  else .ok s

/-- What the thread says: a message, or that it waits for one. -/
inductive Phrase where
  | message (text : List UInt8)
  | greeting
  deriving DecidableEq, Repr

/-- The text of a message as it is copied to `phrase`: up to its end, and at most 159 bytes. -/
def VoiceMessage.phrase (m : VoiceMessage) : List UInt8 :=
  (m.message.takeWhile (· ≠ 0)).take (maxTtsTextSize - 1)

/-- One iteration of the loop of `simulated_call_tts_handler`. -/
def speak : CallRt × Phrase :=
  match waitingSlot s with
  | some i =>
      let m := s.msg i
      let s :=
        if s.stickToLoopedMessage then s
        else { s with msg := Function.update s.msg i { m with state := 0 } }
      ({ s with emptyMessageLoop := 0 }, .message m.phrase)
  | none => ({ s with emptyMessageLoop := s.emptyMessageLoop + 1 }, .greeting)

/-- The end of `simulated_call_tts_handler`: the messages that are left are dropped. -/
def finishTts : CallRt :=
  { s with
    msg := fun i => if i < queueSize then { s.msg i with state := 0 } else s.msg i }

end OpenQti.Call
