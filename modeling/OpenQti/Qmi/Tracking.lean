import Mathlib.Data.List.Basic
import Mathlib.Logic.Function.Basic
import OpenQti.Lib.Bytes

/-!
# Tracking of the clients of the host

`track_client_count` looks at the control packets that pass between the host and the baseband and
keeps a table of the clients that are registered, with a counter that is both the number of
clients and the index at which the next one is entered. This module translates `tracking.c`.

The reading of the clock is an argument. The packets that `force_close_qmi` writes and drains,
and the reset of the USB port, are left out; what they leave in the table is not.
-/

namespace OpenQti.Qmi

open Bytes

/-- Who has sent a packet. -/
inductive PacketSource where
  | fromDsp
  | fromHost
  deriving DecidableEq, Repr

/-- `struct service_pair`. -/
@[ext]
structure ServicePair where
  service : UInt8
  instanceId : UInt8
  deriving DecidableEq, Repr

/-- An entry that is not in use. -/
def ServicePair.empty : ServicePair := ⟨0, 0⟩

/-- The number of entries of `client_tracking.services`. -/
def trackedServices : Nat := 33

/-- `MAX_ACTIVE_CLIENTS`. -/
def maxActiveClients : Nat := 22

/-- `HOST_USES_MODEMMANAGER`. -/
def hostUsesModemManager : UInt8 := 0x1a

/-- `HOST_USES_OFONO`. -/
def hostUsesOfono : UInt8 := 0x02

/-- The low bytes of `CLIENT_REGISTER_REQ` and of `CLIENT_RELEASE_REQ`. -/
def registerReq : UInt8 := 0x22

@[inherit_doc registerReq]
def releaseReq : UInt8 := 0x23

/-- `client_tracking`. -/
structure ClientTracking where
  services : Nat → ServicePair
  lastActive : UInt8
  regtime : UInt32
  hostSideManagingApp : UInt8
  dirtyReconnects : UInt8

/-- An entry is written after the end of the table. -/
inductive TrackingFault where
  | index (entry : Nat)
  deriving DecidableEq, Repr

variable (s : ClientTracking)

/-- The loop that empties the first 32 entries. -/
def wipeServices : ClientTracking :=
  { s with services := fun i => if i < 32 then .empty else s.services i }

/-- `reset_client_handler()`. -/
def resetClientHandler : ClientTracking :=
  { wipeServices s with lastActive := 0, regtime := 0, hostSideManagingApp := 0 }

/-- `is_register_release_request(pkt, sz)`. -/
def isRegisterReleaseRequest (pkt : Bytes) (sz : Nat) : Bool :=
  pkt 0 = 0x01 ∧ pkt 9 = 0x00 ∧ sz ≥ 12 ∧ (pkt 8 = registerReq ∨ pkt 8 = releaseReq)

/-- `add_client(service, instance)`: the value returned, with what it has changed. -/
def addClient (now : UInt32) (pair : ServicePair) : Except TrackingFault (Int × ClientTracking) :=
  if s.lastActive.toNat < trackedServices then
    let next : ClientTracking :=
      { s with
        services := Function.update s.services s.lastActive.toNat pair
        lastActive := s.lastActive + 1
        regtime := now }
    .ok (if next.lastActive.toNat > maxActiveClients then -28 else 0, next)
  else .error (.index s.lastActive.toNat)

/-- The entry that `remove_client` finds: the last one of the first 32 that holds the pair. -/
def findClient (pair : ServicePair) : Option Nat :=
  (List.range 32).reverse.find? fun i => s.services i = pair

/-- `remove_client(service, instance)`. The counter is a `uint8_t`. -/
def removeClient (now : UInt32) (pair : ServicePair) : Int × ClientTracking :=
  match findClient s pair with
  | some i =>
      let next : ClientTracking :=
        { s with
          services := Function.update s.services i .empty
          lastActive := s.lastActive - 1 }
      if next.lastActive = 0 then (1, resetClientHandler next)
      else (0, { next with regtime := now })
  | none => (-2, s)

/-- `set_current_host_app(app)`. -/
def setCurrentHostApp (app : UInt8) : Int × ClientTracking :=
  if app = hostUsesModemManager ∨ app = hostUsesOfono then
    (0, { s with hostSideManagingApp := app })
  else (-22, s)

/-- `force_close_qmi(fd)`, up to the packets it writes and drains. -/
def forceCloseQmi : ClientTracking := { wipeServices s with regtime := 0, lastActive := 0 }

/-- The case of a registration by the host in `track_client_count`. -/
def registerFromHost (now : UInt32) (pkt : Bytes) (sz : Nat) : ClientTracking :=
  if s.regtime = 0 then
    let next := { s with regtime := now }
    if next.hostSideManagingApp = 0 then (setCurrentHostApp next (pkt 15)).2 else next
  else if sz ≥ 15 ∧ s.hostSideManagingApp = pkt 15 ∧ s.lastActive.toNat > 0 then
    { forceCloseQmi s with dirtyReconnects := s.dirtyReconnects + 1 }
  else if s.lastActive.toNat > maxActiveClients then forceCloseQmi s
  else s

/-- The pair that `track_client_count` takes from a reply to a registration. -/
def registeredPair (pkt : Bytes) (sz : Nat) : ServicePair :=
  let msglength := if sz > 20 then (pkt 10).toNat + 10 else 0
  ⟨pkt msglength, pkt (msglength + 1)⟩

/-- `track_client_count(pkt, from, sz, fd, rmnet_fd)`. It returns `0`. -/
def trackClientCount (now : UInt32) (pkt : Bytes) (source : PacketSource) (sz : Nat) :
    Except TrackingFault ClientTracking :=
  if !isRegisterReleaseRequest pkt sz then .ok s
  else if pkt 8 = registerReq ∧ pkt 10 = 0x04 ∧ source = .fromHost then
    .ok (registerFromHost s now pkt sz)
  else if sz ≥ 16 ∧ pkt 8 = registerReq ∧ pkt 10 = 0x05 ∧ source = .fromHost then
    .ok { s with regtime := now }
  else if pkt 8 = registerReq ∧ source = .fromDsp then do
    let (_, s) ← addClient s now (registeredPair pkt sz)
    .ok s
  else if sz ≥ 16 ∧ pkt 8 = releaseReq ∧ source = .fromDsp then
    .ok (removeClient s now ⟨pkt 15, pkt 16⟩).2
  else .ok s

end OpenQti.Qmi
