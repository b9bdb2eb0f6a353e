import OpenQti.Call.Service
import OpenQti.Chat.Replies
import OpenQti.Lib.Relay
import OpenQti.Qmi.TrackingRuns
import OpenQti.Sms.CellBroadcast
import OpenQti.Sms.ListedEntries

/-!
# The loop of the proxy

`rmnet_proxy` waits until the baseband or the host has sent a packet, or half a second has passed.
A packet of the baseband goes first. `process_packet` decides whether it is written to the other
side; where it does not, one of the counters that the chat shows is increased. When neither side
has sent anything, `process_simulated_packet` may do what other threads have asked for: announce
messages, recover those that are stuck in the baseband, and call the host.

The state is that of the messages, of the calls and of the table of clients together. The packets
that wait on the two devices are a relay's, the host being its near side.
-/

namespace OpenQti.Proxy

open Bytes Qmi Sms

/-! ## The state -/

/-- The state that the proxy works on: the messages, the clients, the calls, and the flags of
`atfwd_runtime_state`. -/
structure Runtime where
  sms : Recovery.StuckRuntime
  tracking : ClientTracking
  calls : Call.CallRt
  debugCb : Bool
  randomDebugCb : Bool
  streamCb : Bool

/-- `proxy_rt`, as far as it is counted, with the rest of the state. -/
structure LoopState where
  runtime : Runtime
  rmnetPacketStats : Chat.PktStats
  gpsPacketStatsOther : UInt32

/-- What one call of `read` gives: the bytes in the buffer, and the value that it returns as a
`size_t`. -/
structure Packet where
  bytes : Bytes
  size : UInt32

/-- What a round of the loop finds: what other threads have changed since the last one, the outcomes
of system calls, the clock, the suspend state of the USB transceiver, the settings, what is behind a
copied list in memory, the answers of the baseband to the requests for stuck messages, a random
number, and the value of `write` as a `size_t`. -/
structure RoundEnv where
  others : Runtime → Runtime
  sms : Sms.Env
  now : UInt32
  suspended : Bool
  listAllBypass : Bool
  callwait : UInt8
  heap : Bytes
  exchanges : Nat → Recovery.Exchange
  rand : Nat
  written : UInt32

/-- The function that runs a command of the chat. -/
structure Handlers where
  parseCommand : Bytes → Runtime → Except Fault Runtime

/-- A fault of one of the functions that the loop calls. -/
inductive LoopFault where
  | proxy (fault : ProxyFault)
  | call (fault : Call.CallFault)
  | broadcast (fault : CellBroadcast.CbFault)
  | recovery (fault : Recovery.RecoveryFault)

/-- Why a packet is not written to the other side. -/
inductive Dropped where
  | empty
  | bypassed
  | discarded
  deriving DecidableEq, Repr

/-- What the loop sends and counts. What is sent for a message of the queue is in the state of the
messages. -/
inductive Output where
  /-- A packet is written to the other side, with the value of `write`. -/
  | forwarded (source : PacketSource) (packet : Packet) (written : UInt32)
  /-- A packet is not written to the other side. -/
  | dropped (source : PacketSource) (packet : Packet) (why : Dropped)
  /-- A message for the modem is acknowledged, and its command is run. -/
  | intercepted (interception : Interception)
  /-- The simulated reply to a list of messages. -/
  | listAnswer (bytes : List UInt8)
  /-- A simulated call does something. -/
  | call (output : Call.CallOutput)
  /-- The requests for stuck messages. -/
  | recovered (rounds : List Recovery.Round)
  /-- A cell broadcast message is made up. -/
  | broadcast (bytes : List UInt8)

/-- The state at start-up. -/
def Runtime.zero : Runtime where
  sms := { runtime := Sms.start, stuckMessageData := none, stuckMessageDataPending := false }
  tracking := initialTracking
  calls := Call.CallRt.zero
  debugCb := false
  randomDebugCb := false
  streamCb := false

def LoopState.zero : LoopState := ⟨.zero, ⟨0, 0, 0, 0, 0, 0⟩, 0⟩

def Runtime.setMessages (s : Runtime) (messages : SmsRuntime) : Runtime :=
  { s with sms := { s.sms with runtime := messages } }

/-! ## Made up cell broadcast messages -/

/-- `example_pkt1`. -/
def examplePkt1 : List UInt8 :=
   [0x01, 0x73, 0x00, 0x80, 0x05, 0x01, 0x04, 0x02, 0x00, 0x01, 0x00, 0x67, 0x00, 0x11, 0x60,
    0x00, 0x00, 0xff, 0xff, 0xff, 0xff, 0x07, 0x58, 0x00, 0x40, 0x00, 0x11, 0x1c, 0x00, 0x16,
    0xc4, 0x64, 0x71, 0x0a, 0x4a, 0x4e, 0xa9, 0xa0, 0x62, 0xd2, 0x59, 0x04, 0x15, 0xa5, 0x50,
    0xe9, 0x53, 0x58, 0x75, 0x1e, 0x15, 0xc4, 0xb4, 0x0b, 0x24, 0x93, 0xb9, 0x62, 0x31, 0x97,
    0x0c, 0x26, 0x93, 0x81, 0x5a, 0xa0, 0x98, 0x4d, 0x47, 0x9b, 0x81, 0xaa, 0x68, 0x39, 0xa8,
    0x05, 0x22, 0x86, 0xe7, 0x20, 0xa1, 0x70, 0x09, 0x2a, 0xcb, 0xe1, 0xf2, 0xb7, 0x98, 0x0e,
    0x22, 0x87, 0xe7, 0x20, 0x77, 0xb9, 0x5e, 0x06, 0x21, 0xc3, 0x6e, 0x72, 0xbe, 0x75, 0x0d,
    0xcb, 0xdd, 0xad, 0x69, 0x7e, 0x4e, 0x07, 0x16, 0x01, 0x00, 0x00]

/-- `example_pkt2`. -/
def examplePkt2 : List UInt8 :=
   [0x01, 0x73, 0x00, 0x80, 0x05, 0x01, 0x04, 0x03, 0x00, 0x01, 0x00, 0x67, 0x00, 0x11, 0x60,
    0x00, 0x00, 0xff, 0xff, 0xff, 0xff, 0x07, 0x58, 0x00, 0x40, 0x00, 0x11, 0x1c, 0x00, 0x26,
    0xe5, 0x36, 0x28, 0xed, 0x06, 0x25, 0xd1, 0xf2, 0xb2, 0x1c, 0x24, 0x2d, 0x9f, 0xd3, 0x6f,
    0xb7, 0x0b, 0x54, 0x9c, 0x83, 0xc4, 0xe5, 0x39, 0xbd, 0x8c, 0xa6, 0x83, 0xd6, 0xe5, 0xb4,
    0xbb, 0x0c, 0x3a, 0x96, 0xcd, 0x61, 0xb4, 0xdc, 0x05, 0x12, 0xa6, 0xe9, 0xf4, 0x32, 0x28,
    0x7d, 0x76, 0xbf, 0xe5, 0xe9, 0xb2, 0xbc, 0xec, 0x06, 0x4d, 0xd3, 0x65, 0x10, 0x39, 0x5d,
    0x06, 0x39, 0xc3, 0x63, 0xb4, 0x3c, 0x3d, 0x46, 0xd3, 0x5d, 0xa0, 0x66, 0x19, 0x2d, 0x07,
    0x25, 0xdd, 0xe6, 0xf7, 0x1c, 0x64, 0x06, 0x16, 0x01, 0x00, 0x00]

/-- `example_pkt3`. -/
def examplePkt3 : List UInt8 :=
   [0x01, 0x73, 0x00, 0x80, 0x05, 0x01, 0x04, 0x04, 0x00, 0x01, 0x00, 0x67, 0x00, 0x11, 0x60,
    0x00, 0x00, 0xff, 0xff, 0xff, 0xff, 0x07, 0x58, 0x00, 0x40, 0x00, 0x11, 0x1c, 0x00, 0x36,
    0x69, 0x37, 0xb9, 0xec, 0x06, 0x4d, 0xd3, 0x65, 0x50, 0xdd, 0x4d, 0x2f, 0xcb, 0x41, 0x68,
    0x3a, 0x1d, 0xae, 0x7b, 0xbd, 0xee, 0xf7, 0xbb, 0x4b, 0x2c, 0x5e, 0xbb, 0xc4, 0x75, 0x37,
    0xd9, 0x45, 0x2e, 0xbf, 0xc6, 0x65, 0x36, 0x5b, 0x2c, 0x7f, 0x87, 0xc9, 0xe3, 0xf0, 0x9c,
    0x0e, 0x12, 0x82, 0xa6, 0x6f, 0x36, 0x9b, 0x5e, 0x76, 0x83, 0xa6, 0xe9, 0x32, 0x88, 0x9c,
    0x2e, 0xcf, 0xcb, 0x20, 0x67, 0x78, 0x8c, 0x96, 0xa7, 0xc7, 0x68, 0x3a, 0xa8, 0x2c, 0x47,
    0x87, 0xd9, 0xf4, 0xb2, 0x9b, 0x05, 0x02, 0x16, 0x01, 0x00, 0x00]

/-- `example_pkt4`. -/
def examplePkt4 : List UInt8 :=
   [0x01, 0x73, 0x00, 0x80, 0x05, 0x01, 0x04, 0x05, 0x00, 0x01, 0x00, 0x67, 0x00, 0x11, 0x60,
    0x00, 0x00, 0xff, 0xff, 0xff, 0xff, 0x07, 0x58, 0x00, 0x40, 0x00, 0x11, 0x1c, 0x00, 0x46,
    0xf3, 0x37, 0xc8, 0x5e, 0x96, 0x9b, 0xfd, 0x67, 0x3a, 0x28, 0x89, 0x96, 0x83, 0xa6, 0xed,
    0xb0, 0x9c, 0x0e, 0x47, 0xbf, 0xdd, 0x65, 0xd0, 0xf9, 0x6c, 0x76, 0x81, 0xdc, 0xe9, 0x31,
    0x9a, 0x0e, 0xf2, 0x8b, 0xcb, 0x72, 0x10, 0xb9, 0xec, 0x06, 0x85, 0xd7, 0xf4, 0x7a, 0x99,
    0xcd, 0x2e, 0xbb, 0x41, 0xd3, 0xb7, 0x99, 0x7e, 0x0f, 0xcb, 0xcb, 0x73, 0x7a, 0xd8, 0x4d,
    0x76, 0x81, 0xae, 0x69, 0x39, 0xa8, 0xdc, 0x86, 0x9b, 0xcb, 0x68, 0x76, 0xd9, 0x0d, 0x22,
    0x87, 0xd1, 0x65, 0x39, 0x0b, 0x94, 0x04, 0x16, 0x01, 0x00, 0x00]

/-- `example_pkt5`. -/
def examplePkt5 : List UInt8 :=
   [0x01, 0x73, 0x00, 0x80, 0x05, 0x01, 0x04, 0x06, 0x00, 0x01, 0x00, 0x67, 0x00, 0x11, 0x60,
    0x00, 0x00, 0xff, 0xff, 0xff, 0xff, 0x07, 0x58, 0x00, 0x40, 0x00, 0x11, 0x1c, 0x00, 0x56,
    0x68, 0x39, 0xa8, 0xe8, 0x26, 0x9f, 0xcb, 0xf2, 0x3d, 0x1d, 0x14, 0xae, 0x9b, 0x41, 0xe4,
    0xb2, 0x1b, 0x14, 0x5e, 0xd3, 0xeb, 0x65, 0x36, 0xbb, 0xec, 0x06, 0x4d, 0xdf, 0x66, 0xfa,
    0x3d, 0x2c, 0x2f, 0xcf, 0xe9, 0x61, 0x37, 0x19, 0xa4, 0xaf, 0x83, 0xe0, 0x72, 0xbf, 0xb9,
    0xec, 0x76, 0x81, 0x84, 0xe5, 0x34, 0xc8, 0x28, 0x0f, 0x9f, 0xcb, 0x6e, 0x10, 0x3a, 0x5d,
    0x96, 0xeb, 0xeb, 0xa0, 0x7b, 0xd9, 0x4d, 0x2e, 0xbb, 0x41, 0xd3, 0x74, 0x19, 0x34, 0x4f,
    0x8f, 0xd1, 0x20, 0x71, 0x9a, 0x4e, 0x07, 0x16, 0x01, 0x00, 0x00]

/-- `example_pkt6`. -/
def examplePkt6 : List UInt8 :=
   [0x01, 0x3a, 0x00, 0x80, 0x05, 0x01, 0x04, 0x07, 0x00, 0x01, 0x00, 0x2e, 0x00, 0x11, 0x27,
    0x00, 0x00, 0xff, 0xff, 0xff, 0xff, 0x07, 0x1f, 0x00, 0x40, 0x00, 0x11, 0x1c, 0x00, 0x66,
    0x65, 0x50, 0xd8, 0x0d, 0x4a, 0xa2, 0xe5, 0x65, 0x37, 0xe8, 0x58, 0x96, 0xef, 0xe9, 0x65,
    0x74, 0x59, 0x3e, 0xa7, 0x97, 0xd9, 0xec, 0xb2, 0xdc, 0xd5, 0x16, 0x01, 0x00, 0x00]

/-- The message of `send_cb_message_to_modemmanager` that a number stands for. -/
def examplePkts : List (List UInt8) :=
  [examplePkt1, examplePkt2, examplePkt3, examplePkt4, examplePkt5, examplePkt6]

/-- `send_cb_message_to_modemmanager(usbfd, message_id)`: the packets that are written. -/
def cbPackets (messageId : Int) (rand : Nat) : List (List UInt8) :=
  if messageId = -2 then examplePkts
  else if messageId = -1 then (examplePkts[rand % 5]?).toList
  else if messageId = 0 then [examplePkt1.set 29 0x11]
  else []

def sendCbMessageToModemmanager (messageId : Int) (rand : Nat) (s : Runtime) :
    Runtime × List Output :=
  ({ s with debugCb := false, randomDebugCb := false, streamCb := false },
    (cbPackets messageId rand).map .broadcast)

/-! ## A packet -/

variable (handlers : Handlers) (env : RoundEnv)

/-- The announcement of a cell broadcast message, while a call is simulated. -/
def announceInCall (pkt : Bytes) (size : Nat) (calls : Call.CallRt) :
    Except Call.CallFault Call.CallRt :=
  if calls.callSimulationMode ∧ CellBroadcast.IsCellBroadcast pkt size ∧
      cbPageParam pkt >>> 4 = 0x01 then
    Call.addVoiceMessageToQueue calls
      (Text.ascii "WARNING: Incoming Cell Broadcast Message from the network")
  else .ok calls

/-- `check_cb_message(bytes, len, adspfd, usbfd)`. -/
def checkCbMessage (pkt : Bytes) (size : Nat) (s : Runtime) : Except LoopFault Runtime :=
  if size ≥ cellBroadcastHeaderSize ∧ qmiMsgid pkt = wmsEventReport ∧
      pkt 13 = tlvTransferMtMessage ∧ pkt 21 ≠ 0x00 then do
    let calls ← (announceInCall pkt size s.calls).mapError .call
    let messages ← (CellBroadcast.interceptCbMessage s.calls.callSimulationMode pkt size
      s.sms.runtime).mapError .broadcast
    .ok { s.setMessages messages with calls }
  else .ok s

/-- The case of the WMS service in `process_packet`. -/
def processWmsService (source : PacketSource) (pkt : Bytes) (size : Nat) (s : Runtime) :
    Except LoopFault (PacketAction × Runtime × List Output) := do
  let messages := s.sms.runtime
  let (rerouted, interception) ←
    (checkWmsMessage source pkt size).mapError fun fault => .proxy (.pdu fault)
  if rerouted ≠ 0 then
    match interception with
    | some i => do
        let s ← (handlers.parseCommand i.command s).mapError fun fault => .proxy (.sms fault)
        .ok (.bypass, s, [.intercepted i])
    | none => .ok (.bypass, s, [])
  else if size ≥ wmsMessageIndicationPacketSize ∧ qmiMsgid pkt = wmsEventReport ∧ env.suspended then
    .ok (.forcedPt, s.setMessages (checkWmsIndicationMessage pkt size env.suspended messages), [])
  else do
    let s ← checkCbMessage pkt size s
    let check := Recovery.checkWmsListAllMessages source pkt size env.heap s.sms
    if s.tracking.hostSideManagingApp = hostUsesModemManager ∧ env.listAllBypass ∧
        check.needsBypass then
      .ok (.bypass, { s with sms := check.runtime }, check.answer.toList.map .listAnswer)
    else if source = .fromHost then do
      let (messages, rerouted) ←
        (processWmsPacket env.sms pkt size s.sms.runtime).mapError fun fault => .proxy (.sms fault)
      .ok (if rerouted ≠ 0 then .bypass else .forcedPt, s.setMessages messages, [])
    else .ok (.forcedPt, s, [])

/-- The case of the voice service in `process_packet`. -/
def processVoiceService (source : PacketSource) (pkt : Bytes) (size : Nat) (s : Runtime) :
    Except LoopFault (PacketAction × Runtime × List Output) :=
  match Call.callServiceHandler s.calls env.callwait source pkt size with
  | .error fault => .error (.call fault)
  | .ok (action, calls, outputs) => .ok (action, { s with calls }, outputs.map .call)

/-- `process_packet(source, pkt, pkt_size, adspfd, usbfd)`. -/
def processPacket (source : PacketSource) (pkt : Bytes) (size : Nat) (s : Runtime) :
    Except LoopFault (PacketAction × Runtime × List Output) :=
  if size = 0 then .ok (.empty, s, [])
  else if size < 12 then .ok (.empty, s, [])
  else if pkt 4 = 0 then
    if le16 pkt 8 = 0x0022 ∨ le16 pkt 8 = 0x0023 then
      match trackClientCount s.tracking env.now pkt source size with
      | .error fault => .error (.proxy (.tracking fault))
      | .ok tracking => .ok (.passTrhu, { s with tracking }, [])
    else .ok (.passTrhu, s, [])
  else if pkt 4 = 3 then
    .ok (if s.calls.callSimulationMode ∧ qmiMsgid pkt = nasGetSignalInfo then .bypass else .passTrhu,
      s, [])
  else if pkt 4 = 5 then processWmsService handlers env source pkt size s
  else if pkt 4 = 9 then processVoiceService env source pkt size s
  else .ok (.passTrhu, s, [])

/-! ## Injection -/

/-- `is_inject_needed()`. -/
def isInjectNeeded (s : Runtime) : Bool :=
  if pendingFrom .msgInternal s.sms.runtime then true
  else if pendingFrom .msgExternal s.sms.runtime then true
  else if s.calls.isCallPending then true
  else if s.calls.callSimulationMode then true
  else if s.debugCb || s.randomDebugCb || s.streamCb then true
  else if s.sms.stuckMessageDataPending then true
  else false

/-- The last part of `process_simulated_packet`: made up cell broadcast messages. -/
def injectBroadcasts (s : Runtime) : Runtime × List Output :=
  let (s, first) := if s.debugCb then sendCbMessageToModemmanager 0 env.rand s else (s, [])
  let (s, second) := if s.randomDebugCb then sendCbMessageToModemmanager (-1) env.rand s else (s, [])
  let (s, third) := if s.streamCb then sendCbMessageToModemmanager (-2) env.rand s else (s, [])
  (s, first ++ second ++ third)

/-- `process_simulated_packet(source, adspfd, usbfd)`. -/
def processSimulatedPacket (s : Runtime) : Except LoopFault (Runtime × List Output) :=
  if pendingFrom .msgInternal s.sms.runtime then
    match processMessageQueue env.sms s.sms.runtime with
    | .error fault => .error (.proxy (.sms fault))
    | .ok messages => .ok (s.setMessages messages, [])
  else if pendingFrom .msgExternal s.sms.runtime then
    .ok (s.setMessages
      { doInjectNotification env.sms s.sms.runtime with source := .msgNone, notifPending := false },
      [])
  else if s.sms.stuckMessageDataPending then
    match Recovery.retrieveAndDelete env.exchanges s.sms with
    | (_, .error fault) => .error (.recovery fault)
    | (rounds, .ok (_, sms)) => .ok ({ s with sms }, [.recovered rounds])
  else if s.calls.isCallPending then
    let (calls, outputs) := Call.startSimulatedCall (Call.setPendingCallFlag s.calls false)
    .ok ({ s with calls }, outputs.map .call)
  else
    let (calls, outputs) :=
      if s.calls.callSimulationMode then Call.notifySimulatedCall s.calls else (s.calls, [])
    let (s, broadcasts) := injectBroadcasts env { s with calls }
    .ok (s, outputs.map .call ++ broadcasts)

/-! ## The loop -/

/-- `write(targetfd, buf, bytes_read)`, after which failures are counted. -/
def forward (source : PacketSource) (packet : Packet) (s : LoopState) : LoopState × List Output :=
  let stats := { s.rmnetPacketStats with allowed := s.rmnetPacketStats.allowed + 1 }
  let stats := if env.written < 1 then { stats with failed := stats.failed + 1 } else stats
  ({ s with rmnetPacketStats := stats }, [.forwarded source packet env.written])

/-- What `rmnet_proxy` does with the value of `process_packet`. -/
def act (action : PacketAction) (source : PacketSource) (packet : Packet) (s : LoopState) :
    LoopState × List Output :=
  let stats := s.rmnetPacketStats
  match action with
  | .empty =>
      ({ s with rmnetPacketStats := { stats with empty := stats.empty + 1 } },
        [.dropped source packet .empty])
  | .passTrhu =>
      if !env.suspended || source == .fromHost then forward env source packet s
      else
        ({ s with rmnetPacketStats := { stats with discarded := stats.discarded + 1 } },
          [.dropped source packet .discarded])
  | .forcedPt => forward env source packet s
  | .bypass =>
      ({ s with rmnetPacketStats := { stats with bypassed := stats.bypassed + 1 } },
        [.dropped source packet .bypassed])

/-- `proxy_rt.gps_packet_stats.other++`, in the case of the location service. -/
def countLocation (packet : Packet) (s : LoopState) : LoopState :=
  if packet.size ≥ 12 ∧ packet.bytes 4 = 16 then
    { s with gpsPacketStatsOther := s.gpsPacketStatsOther + 1 }
  else s

/-- A packet that has been read. -/
def transfer (source : PacketSource) (packet : Packet) (s : LoopState) :
    Except LoopFault (LoopState × List Output) := do
  let (action, runtime, outputs) ←
    processPacket handlers env source packet.bytes packet.size.toNat s.runtime
  let s := countLocation packet { s with runtime }
  let (s, sent) := act env action source packet s
  .ok (s, outputs ++ sent)

/-- The side that a packet comes from. -/
def side : PacketSource → Relay.Side
  | .fromHost => .near
  | .fromDsp => .far

/-- One round of the loop of `rmnet_proxy`. -/
def rmnetProxy (s : LoopState) (env : RoundEnv) (ready : Relay.Side → Option Packet) :
    Except LoopFault (LoopState × Option Relay.Side × List Output) :=
  let s := { s with runtime := env.others s.runtime }
  match ready (side .fromDsp), ready (side .fromHost) with
  | some packet, _ =>
      (transfer handlers env .fromDsp packet s).map fun (s, sent) => (s, some (side .fromDsp), sent)
  | none, some packet =>
      (transfer handlers env .fromHost packet s).map fun (s, sent) => (s, some (side .fromHost), sent)
  | none, none =>
      if isInjectNeeded s.runtime then
        (processSimulatedPacket env s.runtime).map fun (runtime, sent) =>
          ({ s with runtime }, none, sent)
      else .ok (s, none, [])

end OpenQti.Proxy
