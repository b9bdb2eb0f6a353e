import OpenQti.Lib.Text
import OpenQti.Qmi.Tlv
import OpenQti.Sms.Queue

/-!
# The internal data connection

`wds_client.c` asks the baseband for a data session of the modem's own. Requests are left with the
internal QMI client; the responses, and the indications about the session, come to
`handle_incoming_wds_message`. This module translates `wds_runtime` and the functions that work on it.

`init_internal_networking` waits for a network, so its type is known when it goes on. The set-up of
the interface, DHCP, the IMS session and the log are left out.
-/

namespace OpenQti.Wds

open Bytes Qmi Text
open Sms (qmiMsgid)

/-- The message ids of the service that change the state. -/
inductive WdsMsgid where
  | startNetwork
  | stopNetwork
  | getPacketServiceStatus
  | bindMuxDataPort
  deriving DecidableEq, Repr

def WdsMsgid.code : WdsMsgid → Nat
  | .startNetwork => 0x0020
  | .stopNetwork => 0x0021
  | .getPacketServiceStatus => 0x0022
  | .bindMuxDataPort => 0x00a2

/-- `QMI_RESULT_SUCCESS`. -/
def qmiResultSuccess : Nat := 0x0000

/-- `wds_runtime`. -/
structure WdsRuntime where
  inProgress : Bool
  muxState : UInt8
  userOrderedStop : Bool
  pktDataHandle : Nat
  deriving DecidableEq, Repr

/-- `reset_wds_runtime()`. -/
def WdsRuntime.reset : WdsRuntime := ⟨false, 0, false, 0⟩

/-- What the functions do besides changing the state: a text is sent to the user, or a request is
left for the baseband. -/
inductive WdsOutput where
  | message (text : List UInt8)
  | setAutoconnect (enable : UInt8)
  | startNetwork
  | stopNetwork (handle : Nat)
  | enableIndicationsIpv4
  deriving DecidableEq, Repr

inductive WdsFault where
  /-- A loop over TLVs never ends. -/
  | loops
  deriving DecidableEq, Repr

/-- `did_qmi_op_fail(buf, buf_len)`. -/
def opResult (bytes : Bytes) (len : Nat) : Except WdsFault Nat :=
  match didQmiOpFail bytes len with
  | some result => .ok result
  | none => .error .loops

/-- `get_tlv_offset_by_id(buf, buf_len, tlvid)`. -/
def tlvOffset (bytes : Bytes) (len : Nat) (tlvid : UInt8) : Except WdsFault Nat :=
  match getTlvOffsetById bytes len tlvid with
  | some offset => .ok offset
  | none => .error .loops

variable (enabled : Bool) (s : WdsRuntime)

/-! ## Requests -/

/-- `init_internal_networking()`, with the setting for internal connectivity. -/
def initInternalNetworking : WdsRuntime × List WdsOutput :=
  if !enabled then (s, [])
  -- also while the response to a start that has failed is being handled
  else if s.inProgress then (s, [])
  else ({ s with inProgress := true }, [.setAutoconnect 0, .startNetwork])

/-- `notify_network_down(reason)`. -/
def notifyNetworkDown (reason : List UInt8) : WdsRuntime × List WdsOutput :=
  let text := sprintf "Network connection is down (reason: %s)" [reason]
  if enabled then
    -- the handle of the session that is down is kept
    if !s.userOrderedStop then
      let (s, requests) := initInternalNetworking enabled s
      (s, .message text :: requests)
    else (s, [.message text])
  else (s, [.message text])

/-- `wds_chat_ifup_down(start)`. -/
def wdsChatIfupDown (start : Bool) : WdsRuntime × List WdsOutput :=
  let s := { s with userOrderedStop := false }
  if start ∧ !s.inProgress ∧ s.pktDataHandle = 0 then
    let (s, requests) := initInternalNetworking enabled s
    (s, requests ++ [.message (ascii "Attempting to start the network")])
  else if start then
    (s, [.message (ascii "Can't start netwotk, already running or connecting!")])
  else if s.pktDataHandle ≠ 0 then
    ({ s with userOrderedStop := true },
      [.stopNetwork s.pktDataHandle, .message (ascii "Stopping network...")])
  else (s, [.message (ascii "Can't stop network, it wasn't running!")])

/-! ## Messages of the baseband -/

/-- The session has been started, or so the result says: look for its handle. -/
def takeHandle (bytes : Bytes) (len : Nat) : Except WdsFault (WdsRuntime × List WdsOutput) := do
  let offset ← tlvOffset bytes len 0x01
  if offset > 0 then
    .ok ({ s with pktDataHandle := le32 bytes (offset + 3) },
      [.enableIndicationsIpv4, .message (ascii "Network connection is ready!")])
  else
    let (s, outputs) := notifyNetworkDown enabled s (ascii "Didn't get a packet data handle")
    .ok (s, .enableIndicationsIpv4 :: outputs)

/-- The session has failed or has been started, by the result of the request. -/
def startOutcome (bytes : Bytes) (len result : Nat) :
    Except WdsFault (WdsRuntime × List WdsOutput) :=
  if result ≠ qmiResultSuccess then
    .ok (notifyNetworkDown enabled s (ascii "Operation failed"))
  else takeHandle enabled s bytes len

/-- `wds_handle_start_network_response(buf, buf_len)`. The flag is cleared after the attempt to
connect again. -/
def wdsHandleStartNetworkResponse (bytes : Bytes) (len : Nat) :
    Except WdsFault (WdsRuntime × List WdsOutput) := do
  let result ← opResult bytes len
  let (s, outputs) ← startOutcome enabled s bytes len result
  .ok ({ s with inProgress := false }, outputs)

/-- `wds_handle_packet_service_status(buf, buf_len)`. The reason is printed with four digits. -/
def wdsHandlePacketServiceStatus (bytes : Bytes) (len : Nat) :
    Except WdsFault (WdsRuntime × List WdsOutput) := do
  let result ← opResult bytes len
  if result ≠ qmiResultSuccess then .ok (s, [])
  else
    let offset ← tlvOffset bytes len 0x10
    if offset > 0 then
      .ok (notifyNetworkDown enabled s (padded 4 48 (hexadecimal (le16 bytes (offset + 3)))))
    else .ok (s, [])

/-- The case of `WDS_STOP_NETWORK`. -/
def handleStopNetwork (bytes : Bytes) (len : Nat) :
    Except WdsFault (WdsRuntime × List WdsOutput) := do
  let result ← opResult bytes len
  -- a packet without a result counts as a success
  if result = qmiResultSuccess ∨ result = qmiResultUnknown then
    .ok ({ s with pktDataHandle := 0 }, [])
  else .ok (s, [])

/-- The case of `WDS_BIND_MUX_DATA_PORT`. -/
def handleBindMuxDataPort (bytes : Bytes) (len : Nat) :
    Except WdsFault (WdsRuntime × List WdsOutput) := do
  let result ← opResult bytes len
  if result = qmiResultFailure then .ok ({ s with muxState := 0, inProgress := false }, [])
  else if result = qmiResultSuccess then .ok ({ s with muxState := 2 }, [])
  else if result = qmiResultUnknown then .ok ({ s with inProgress := false }, [])
  else .ok (s, [])

/-- `handle_incoming_wds_message(buf, buf_len)`. -/
def handleIncomingWdsMessage (bytes : Bytes) (len : Nat) :
    Except WdsFault (WdsRuntime × List WdsOutput) :=
  if qmiMsgid bytes = WdsMsgid.bindMuxDataPort.code then handleBindMuxDataPort s bytes len
  else if qmiMsgid bytes = WdsMsgid.startNetwork.code then
    wdsHandleStartNetworkResponse enabled s bytes len
  else if qmiMsgid bytes = WdsMsgid.stopNetwork.code then handleStopNetwork s bytes len
  else if qmiMsgid bytes = WdsMsgid.getPacketServiceStatus.code then
    wdsHandlePacketServiceStatus enabled s bytes len
  else .ok (s, [])

end OpenQti.Wds
