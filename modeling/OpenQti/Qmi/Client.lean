import Mathlib.Logic.Function.Basic
import OpenQti.Lib.Bytes

/-!
# The internal QMI client

The table of services of `qmi.c`, with one slot for a message per service, and the functions
that work on it. `add_pending_message` fills a slot, `send_pending_internal_qmi_messages` goes
through the services and either asks the baseband for a client or sends what is in the slot,
and the packets that are read from the port mark a service as ready or advance its transaction
id.

The table has `QMI_SERVICES_LAST` entries. Every access to it goes through
`InternalQmiClient.get` and `InternalQmiClient.modify`, which fault at and after the end. The
port takes every write; what has been written is kept, in order. The 25 seconds for which
`add_pending_message` waits for a slot are left out: a slot that is emptied in time is one
that is empty when the step is taken. The handlers of the services, which log, answer and add
messages of their own, are left out as well.
-/

namespace OpenQti.Qmi

open Bytes

/-- `QMI_SERVICES_LAST`, the number of entries of the table. -/
def qmiServicesLast : Nat := 255

/-- `CLIENT_REGISTER_REQ`. -/
def clientRegisterReq : Nat := 0x0022

/-- `QMI_SERVICE_MDMFS`. -/
def qmiServiceMdmfs : Nat := 0x15

/-- The services for which `send_pending_internal_qmi_messages` has a case: WDS, DMS, VOICE, NAS,
PDC, MDMFS and the IMS settings. -/
def handledServices : List Nat := [0x01, 0x02, 0x09, 0x03, 0x24, qmiServiceMdmfs, 0x12]

/-- `struct qmi_service_bindings`. The message is `none` for a null pointer. -/
structure QmiServiceBindings where
  service : UInt8
  instanceId : UInt8
  isInitialized : Bool
  hasPendingMessage : Bool
  message : Option (List UInt8)
  transactionId : UInt16
  deriving DecidableEq, Repr

/-- What is written to the port: the message in the slot of a service, or the request for a
client. -/
inductive PortWrite where
  | message (service : Nat) (bytes : List UInt8)
  | allocation (service : Nat)
  deriving DecidableEq, Repr

/-- An access to the table outside its bounds, a null message, or an access past the end of a
message. -/
inductive ClientFault where
  | index (service : Nat)
  | null
  | message (length : Nat)
  deriving DecidableEq, Repr

/-- `internal_qmi_client`, with what has been written to the port so far. -/
@[ext]
structure InternalQmiClient where
  hasPendingMessage : Bool
  services : Nat → QmiServiceBindings
  port : List PortWrite

namespace InternalQmiClient

/-- `internal_qmi_client.services[service]`, read. -/
def get (s : InternalQmiClient) (service : Nat) : Except ClientFault QmiServiceBindings :=
  if service < qmiServicesLast then .ok (s.services service) else .error (.index service)

/-- `internal_qmi_client.services[service]`, changed. -/
def modify (s : InternalQmiClient) (service : Nat)
    (f : QmiServiceBindings → QmiServiceBindings) : Except ClientFault InternalQmiClient :=
  if service < qmiServicesLast then
    .ok { s with services := Function.update s.services service (f (s.services service)) }
  else .error (.index service)

/-- `write_to_qmi_port(…)`. -/
def writeToQmiPort (s : InternalQmiClient) (packet : PortWrite) : InternalQmiClient :=
  { s with port := s.port ++ [packet] }

end InternalQmiClient

open InternalQmiClient

variable (s : InternalQmiClient)

/-! ## Transaction ids -/

/-- `clear_current_transaction_id(service)`. The check does not reject anything: `service` is a
`uint8_t`. -/
def clearCurrentTransactionId (service : UInt8) : Except ClientFault InternalQmiClient :=
  if service.toNat > qmiServicesLast then .ok s
  else s.modify service.toNat fun b => { b with transactionId := 0 }

/-- `get_transaction_id_for_service(service)`. -/
def getTransactionIdForService (service : UInt8) : Except ClientFault UInt16 :=
  if service.toNat > qmiServicesLast then .ok 0
  else do
    let binding ← s.get service.toNat
    .ok binding.transactionId

/-- `set_transaction_id_for_service(service, transaction_id)`. -/
def setTransactionIdForService (service : UInt8) (transactionId : UInt16) :
    Except ClientFault InternalQmiClient :=
  if service.toNat > qmiServicesLast then .ok s
  else s.modify service.toNat fun b => { b with transactionId := transactionId }

/-! ## Messages to the baseband -/

/-- `clear_message_for_service(service)`. -/
def clearMessageForService (service : UInt8) : Except ClientFault InternalQmiClient :=
  if service.toNat > qmiServicesLast then .ok s
  else do
    let binding ← s.get service.toNat
    if binding.message = none then .ok s
    else s.modify service.toNat fun b => { b with message := none, hasPendingMessage := false }

/-- `add_pending_message(service, buf, buf_len)`: the value returned, with what it has changed. -/
def addPendingMessage (service : UInt8) (buf : List UInt8) :
    Except ClientFault (Int × InternalQmiClient) :=
  if service.toNat > qmiServicesLast then .ok (-22, s)
  else do
    let binding ← s.get service.toNat
    if binding.hasPendingMessage then .ok (-22, s)
    else do
      let s ← s.modify service.toNat fun b =>
        { b with message := some buf, hasPendingMessage := true }
      .ok (0, { s with hasPendingMessage := true })

/-- A message with its instance id and its transaction id set. -/
def patch (message : List UInt8) (instanceId : UInt8) (transactionId : UInt16) : List UInt8 :=
  ((message.set 5 instanceId).set 7 (transactionId.toNat % 256).toUInt8).set 8
    (transactionId.toNat / 256).toUInt8

/-- `prepare_internal_pkt(bytes, len)`. The service is the one in the message. -/
def prepareInternalPkt (message : List UInt8) : Except ClientFault (List UInt8) :=
  if message.length < 5 then .error (.message message.length)
  else do
    let binding ← s.get (message.getD 4 0).toNat
    if message.length < 9 then .error (.message message.length)
    else .ok (patch message binding.instanceId binding.transactionId)

/-- The body of the loop of `send_pending_internal_qmi_messages`, for the service `i`. -/
def sendService (i : Nat) : Except ClientFault InternalQmiClient := do
  let binding ← s.get i
  if binding.hasPendingMessage then
    if !binding.isInitialized then
      -- `allocate_qmi_client(i)`; the message stays for a later pass
      .ok (s.writeToQmiPort (.allocation i))
    else if i ∈ handledServices then
      match binding.message with
      | none => .error .null
      | some message => do
          let bytes ← prepareInternalPkt s message
          clearMessageForService (s.writeToQmiPort (.message i bytes)) i.toUInt8
    else
      -- the flag is discarded, and with it the message
      s.modify i fun b => { b with hasPendingMessage := false }
  else .ok s

/-- The loop of `send_pending_internal_qmi_messages` from service `i` on. -/
def sendLoop : Nat → Nat → InternalQmiClient → Except ClientFault InternalQmiClient
  | 0, _, s => .ok s
  | remaining + 1, i, s => do
      let s ← sendService s i
      sendLoop remaining (i + 1) s

/-- `send_pending_internal_qmi_messages()`. -/
def sendPendingInternalQmiMessages : Except ClientFault InternalQmiClient :=
  if !s.hasPendingMessage then .ok s
  else do
    let s ← sendLoop qmiServicesLast 0 s
    if (List.range qmiServicesLast).all fun i => !(s.services i).hasPendingMessage then
      .ok { s with hasPendingMessage := false }
    else .ok s

/-! ## Packets from the baseband -/

/-- The size of `struct client_alloc_response`. -/
def clientAllocResponseSize : Nat := 24

/-- `handle_incoming_qmi_control_message(buf, buf_len)`. -/
def handleIncomingQmiControlMessage (bytes : Bytes) (len : Nat) :
    Except ClientFault InternalQmiClient :=
  if le16 bytes 8 = clientRegisterReq then
    if len ≥ clientAllocResponseSize then
      if le16 bytes 17 = 0 ∧ le16 bytes 15 = 0 then
        s.modify (bytes 22).toNat fun b =>
          { b with
            service := bytes 22
            instanceId := bytes 23
            transactionId := (bytes 7).toUInt16
            isInitialized := true }
      else .ok s
    else
      -- a reply that is too short marks the MDMFS service as ready
      s.modify qmiServiceMdmfs fun b => { b with isInitialized := true }
  else .ok s

/-- `dispatch_incoming_qmi_message(buf, buf_len)`, up to the handlers of the services. -/
def dispatchIncomingQmiMessage (bytes : Bytes) : Except ClientFault InternalQmiClient :=
  setTransactionIdForService s (bytes 4) (le16 bytes 7 + 1).toUInt16

/-- What `init_internal_qmi_client` does with the `len` bytes it has read. -/
def handlePacket (bytes : Bytes) (len : Nat) : Except ClientFault InternalQmiClient :=
  if len > 6 then
    if bytes 4 = 0 then
      if len > 12 then handleIncomingQmiControlMessage s bytes len else .ok s
    else if len > 13 then dispatchIncomingQmiMessage s bytes
    else .ok s
  else .ok s

/-- The packet that has been read, if any. -/
def handleRead : Option (Bytes × Nat) → Except ClientFault InternalQmiClient
  | none => .ok s
  | some (bytes, len) => handlePacket s bytes len

/-- One round of the loop of `init_internal_qmi_client`: a pass over the services if something is
pending, and then the packet. -/
def loopPass (packet : Option (Bytes × Nat)) : Except ClientFault InternalQmiClient :=
  if s.hasPendingMessage then do
    let s ← sendPendingInternalQmiMessages s
    handleRead s packet
  else handleRead s packet

end OpenQti.Qmi
