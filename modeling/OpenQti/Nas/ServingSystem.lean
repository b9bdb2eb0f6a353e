import OpenQti.Lib.Run
import OpenQti.Lib.Text
import OpenQti.Nas.CellLocation
import OpenQti.Sms.Queue

/-!
# Notices about the serving system

`parse_serving_system_message` takes the capabilities and the attachment from a message and tells
the user about changes. It compares `curr_state` with `prev_state`, a copy that is made only by a
message with capabilities and by a signal report; a message without capabilities thus tells of the
last change again. A detachment is looked for in `prev_state` alone and is never found.
`notices_right_iff` says, in terms of the messages before, which messages are answered by the right
notices.

Of the two states only the fields that these functions compare are kept: name and codes of the
operator, type of the network and signal level are left out. The other messages that
`handle_incoming_nas_message` gets do not change them.
-/

namespace OpenQti.Nas

open Bytes Qmi Text Machine Except

/-! ## The state -/

/-- `struct service_capability`. -/
structure ServiceCapability where
  gprs : Bool
  edge : Bool
  hsdpa : Bool
  hsupa : Bool
  wcdma : Bool
  gsm : Bool
  lte : Bool
  hsdpaPlus : Bool
  dcHsdpaPlus : Bool
  deriving DecidableEq, Repr

def ServiceCapability.zero : ServiceCapability :=
  ⟨false, false, false, false, false, false, false, false, false⟩

/-- A byte of the TLV of the capabilities. -/
def ServiceCapability.note (capability : ServiceCapability) (code : UInt8) : ServiceCapability :=
  if code = 0x01 then { capability with gprs := true }
  else if code = 0x02 then { capability with edge := true }
  else if code = 0x03 then { capability with hsdpa := true }
  else if code = 0x04 then { capability with hsupa := true }
  else if code = 0x05 then { capability with wcdma := true }
  else if code = 0x0a then { capability with gsm := true }
  else if code = 0x0b then { capability with lte := true }
  else if code = 0x0c then { capability with hsdpaPlus := true }
  else if code = 0x0d then { capability with dcHsdpaPlus := true }
  else capability

/-- The state of the registration in the TLV of the serving system. -/
structure ServingSystemState where
  registrationStatus : UInt8
  csAttached : UInt8
  psAttached : UInt8
  radioAccess : UInt8
  deriving DecidableEq, Repr

/-- `struct basic_network_status`. -/
structure BasicNetworkStatus where
  serviceCapability : ServiceCapability
  serving : ServingSystemState
  deriving DecidableEq, Repr

/-- `curr_state` and `prev_state`. -/
structure ServingRuntime where
  currState : BasicNetworkStatus
  prevState : BasicNetworkStatus
  deriving DecidableEq, Repr

/-- The state at start-up. -/
def ServingRuntime.zero : ServingRuntime :=
  ⟨⟨.zero, ⟨0, 0, 0, 0⟩⟩, ⟨.zero, ⟨0, 0, 0, 0⟩⟩⟩

/-- What the user is told. -/
inductive ServingNotice where
  | packetSwitchDetached
  | circuitSwitchDetached
  | serviceCap (status : BasicNetworkStatus)
  deriving DecidableEq, Repr

def yesNo (flag : Bool) : List UInt8 := if flag then ascii "Yes" else ascii "No"

/-- The text of a notice. -/
def ServingNotice.text : ServingNotice → List UInt8
  | .packetSwitchDetached => ascii "Warning: Packet switch detached!"
  | .circuitSwitchDetached => ascii "Warning: Circuit switch detached!"
  | .serviceCap status =>
      sprintf "Change in service cap.\nGSM:%s\nGPRS:%s\nEDGE:%s\nWCDMA:%s\nHSDPA:%s\nHSUPA:%s\n"
          [yesNo status.serviceCapability.gsm, yesNo status.serviceCapability.gprs,
            yesNo status.serviceCapability.edge, yesNo status.serviceCapability.wcdma,
            yesNo status.serviceCapability.hsdpa, yesNo status.serviceCapability.hsupa] ++
        sprintf "HSDPA+:%s\nDC-HSDPA+:%s\nLTE:%s\nCS Attached:%s\nPS Attached:%s\n"
          [yesNo status.serviceCapability.hsdpaPlus, yesNo status.serviceCapability.dcHsdpaPlus,
            yesNo status.serviceCapability.lte, yesNo (status.serving.csAttached = 1),
            yesNo (status.serving.psAttached = 1)]

/-! ## The messages -/

/-- A message of the NAS service. -/
structure NasMessage where
  bytes : Bytes
  len : Nat

/-- `NAS_GET_SERVING_SYSTEM`. -/
def nasGetServingSystem : Nat := 0x0024

/-- `NAS_GET_SIGNAL_INFO`. -/
def nasGetSignalInfo : Nat := 0x004F

def NasMessage.IsServing (m : NasMessage) : Prop := Sms.qmiMsgid m.bytes = nasGetServingSystem

def NasMessage.IsSignal (m : NasMessage) : Prop := Sms.qmiMsgid m.bytes = nasGetSignalInfo

instance (m : NasMessage) : Decidable m.IsServing := inferInstanceAs (Decidable (_ = _))

instance (m : NasMessage) : Decidable m.IsSignal := inferInstanceAs (Decidable (_ = _))

/-- A TLV of a message: it is not there, its length is greater than that of the message, or it has
this contents. -/
inductive TlvPart (α : Type) where
  | absent
  | tooLong
  | contents (a : α)
  deriving DecidableEq, Repr

def TlvPart.toOption {α : Type} : TlvPart α → Option α
  | .contents a => some a
  | _ => none

/-- A TLV is looked for, and what is at its offset is read. -/
def tlvPart {α : Type} (m : NasMessage) (tlvid : UInt8) (read : Nat → α) :
    Except LocationFault (TlvPart α) := do
  let offset ← walked (getTlvOffsetById m.bytes m.len tlvid)
  if offset = 0 then .ok .absent
  else if m.len < le16 m.bytes (offset + 1) then .ok .tooLong
  else .ok (.contents (read offset))

/-- The TLV `0x11`: all flags are cleared, and those that are in the array are set. -/
def NasMessage.capabilityPart (m : NasMessage) :
    Except LocationFault (TlvPart ServiceCapability) :=
  tlvPart m 0x11 fun offset =>
    (List.range (le16 m.bytes (offset + 1))).foldl
      (fun capability i => capability.note (m.bytes (offset + 3 + i))) .zero

/-- The TLV `0x01`. -/
def NasMessage.statePart (m : NasMessage) : Except LocationFault (TlvPart ServingSystemState) :=
  tlvPart m 0x01 fun offset =>
    ⟨m.bytes (offset + 3), m.bytes (offset + 4), m.bytes (offset + 5), m.bytes (offset + 6)⟩

/-! ## The functions -/

variable (s : ServingRuntime)

/-- `has_capability_changed()`. -/
def hasCapabilityChanged : Bool :=
  s.currState.serviceCapability ≠ s.prevState.serviceCapability

/-- The end of `parse_serving_system_message`. Both tests for a detachment are of `prev_state`. -/
def servingNotices (signalTracking : Bool) : List ServingNotice :=
  (if s.prevState.serving.psAttached ≠ 0 ∧ ¬ s.prevState.serving.psAttached ≠ 0 ∧ signalTracking
    then [.packetSwitchDetached] else []) ++
  (if s.prevState.serving.csAttached ≠ 0 ∧ ¬ s.prevState.serving.csAttached ≠ 0
    then [.circuitSwitchDetached] else []) ++
  (if signalTracking ∧ hasCapabilityChanged s then [.serviceCap s.currState] else [])

/-- New capabilities: the state is copied first. -/
def setCapability (capability : ServiceCapability) : ServingRuntime where
  currState := { s.currState with serviceCapability := capability }
  prevState := s.currState

/-- The part of `parse_serving_system_message` from the TLV `0x01` on. -/
def parseServingState (signalTracking : Bool) (m : NasMessage) :
    Except LocationFault (ServingRuntime × List ServingNotice) := do
  match ← m.statePart with
  | .tooLong => .ok (s, [])
  | .absent => .ok (s, servingNotices s signalTracking)
  | .contents serving =>
      let s := { s with currState := { s.currState with serving := serving } }
      .ok (s, servingNotices s signalTracking)

/-- `parse_serving_system_message(buf, buf_len)`. -/
def parseServingSystemMessage (signalTracking : Bool) (m : NasMessage) :
    Except LocationFault (ServingRuntime × List ServingNotice) := do
  match ← m.capabilityPart with
  | .tooLong => .ok (s, [])
  | .absent => parseServingState s signalTracking m
  | .contents capability => parseServingState (setCapability s capability) signalTracking m

/-- `handle_incoming_nas_message(buf, buf_len)`. A signal report copies the state, too. -/
def handleIncomingNasMessage (signalTracking : Bool) (m : NasMessage) :
    Except LocationFault (ServingRuntime × List ServingNotice) :=
  if m.IsServing then parseServingSystemMessage s signalTracking m
  else if m.IsSignal then .ok ({ s with prevState := s.currState }, [])
  else .ok (s, [])

section Step

variable {s : ServingRuntime} {m : NasMessage}

/-- The state after the TLV of the capabilities. -/
def afterCapability (s : ServingRuntime) : TlvPart ServiceCapability → ServingRuntime
  | .contents capability => setCapability s capability
  | _ => s

/-- The state after the TLV of the serving system. -/
def afterState (s : ServingRuntime) : TlvPart ServingSystemState → ServingRuntime
  | .contents serving => { s with currState := { s.currState with serving := serving } }
  | _ => s

end Step

/-! ## The messages before -/

/-- The flags that a message sets. -/
def NasMessage.setsFlags (m : NasMessage) : Option ServiceCapability :=
  if m.IsServing then
    match m.capabilityPart with
    | .ok (.contents flags) => some flags
    | _ => none
  else none

/-- The registration that a message sets. -/
def NasMessage.setsServing (m : NasMessage) : Option ServingSystemState :=
  if m.IsServing then
    match m.capabilityPart, m.statePart with
    | .ok .tooLong, _ => none
    | _, .ok (.contents serving) => some serving
    | _, _ => none
  else none

/-- The flags after these messages, the last of them first. -/
def flagsAfter : List NasMessage → ServiceCapability
  | [] => .zero
  | m :: earlier => m.setsFlags.getD (flagsAfter earlier)

/-- The registration after these messages, the last of them first. -/
def servingAfter : List NasMessage → ServingSystemState
  | [] => ⟨0, 0, 0, 0⟩
  | m :: earlier => m.setsServing.getD (servingAfter earlier)

/-- Of the messages with capabilities and the signal reports, the last one changed the flags. -/
def ChangePending : List NasMessage → Prop
  | [] => False
  | m :: earlier =>
      if m.IsSignal ∨ m.setsFlags.isSome then flagsAfter (m :: earlier) ≠ flagsAfter earlier
      else ChangePending earlier

/-- The state agrees with the messages before. -/
structure Follows (earlier : List NasMessage) (s : ServingRuntime) : Prop where
  flags : s.currState.serviceCapability = flagsAfter earlier
  serving : s.currState.serving = servingAfter earlier
  pending : s.currState.serviceCapability ≠ s.prevState.serviceCapability ↔ ChangePending earlier

section History

variable {s next : ServingRuntime} {m : NasMessage} {earlier ops : List NasMessage}

theorem not_signal_of_serving (h : m.IsServing) : ¬ m.IsSignal := by
  intro hsignal
  rw [NasMessage.IsServing] at h
  rw [NasMessage.IsSignal, h] at hsignal
  exact absurd hsignal (by decide)

theorem sets_flags_eq {capability : TlvPart ServiceCapability} (h : m.IsServing)
    (hpart : m.capabilityPart = .ok capability) :
    m.setsFlags = capability.toOption := by
  rw [NasMessage.setsFlags, if_pos h, hpart]
  cases capability <;> rfl

theorem sets_serving_eq {capability : TlvPart ServiceCapability}
    {state : TlvPart ServingSystemState} (h : m.IsServing)
    (hpart : m.capabilityPart = .ok capability) (hlong : capability ≠ .tooLong)
    (hstate : m.statePart = .ok state) :
    m.setsServing = state.toOption := by
  rw [NasMessage.setsServing, if_pos h, hpart, hstate]
  cases capability with
  | tooLong => exact absurd rfl hlong
  | absent => cases state <;> rfl
  | contents flags => cases state <;> rfl

/-- A message that sets nothing and takes no copy. -/
theorem Follows.same (h : Follows earlier s) (hsignal : ¬ m.IsSignal) (hflags : m.setsFlags = none)
    (hserving : m.setsServing = none) : Follows (m :: earlier) s where
  flags := by rw [flagsAfter, hflags]; exact h.flags
  serving := by rw [servingAfter, hserving]; exact h.serving
  pending := by rw [ChangePending, if_neg (by simp [hsignal, hflags])]; exact h.pending

/-- The TLV of the capabilities: the flags and the copy are those after the message. -/
theorem Follows.capability (h : Follows earlier s) {capability : TlvPart ServiceCapability}
    (hmessage : m.IsServing) (hpart : m.capabilityPart = .ok capability) :
    (afterCapability s capability).currState.serviceCapability = flagsAfter (m :: earlier) ∧
      (afterCapability s capability).currState.serving = servingAfter earlier ∧
      ((afterCapability s capability).currState.serviceCapability ≠
        (afterCapability s capability).prevState.serviceCapability ↔
          ChangePending (m :: earlier)) := by
  have hsets := sets_flags_eq hmessage hpart
  have hsignal := not_signal_of_serving hmessage
  cases capability with
  | contents flags =>
      have hafter : flagsAfter (m :: earlier) = flags := by rw [flagsAfter, hsets]; rfl
      refine ⟨hafter.symm, h.serving, ?_⟩
      rw [ChangePending, if_pos (Or.inr (by rw [hsets]; rfl)), hafter, ← h.flags]
      exact Iff.rfl
  | absent =>
      refine ⟨by rw [flagsAfter, hsets]; exact h.flags, h.serving, ?_⟩
      rw [ChangePending, if_neg (by simp [hsignal, hsets, TlvPart.toOption])]
      exact h.pending
  | tooLong =>
      refine ⟨by rw [flagsAfter, hsets]; exact h.flags, h.serving, ?_⟩
      rw [ChangePending, if_neg (by simp [hsignal, hsets, TlvPart.toOption])]
      exact h.pending

/-- The TLV of the serving system comes after that of the capabilities. -/
theorem Follows.state (h : Follows earlier s) {capability : TlvPart ServiceCapability}
    {state : TlvPart ServingSystemState} (hmessage : m.IsServing)
    (hpart : m.capabilityPart = .ok capability) (hlong : capability ≠ .tooLong)
    (hstate : m.statePart = .ok state) :
    Follows (m :: earlier) (afterState (afterCapability s capability) state) := by
  obtain ⟨hflags, hserving, hpending⟩ := h.capability hmessage hpart
  have hsets := sets_serving_eq hmessage hpart hlong hstate
  cases state with
  | contents serving => exact ⟨hflags, by rw [servingAfter, hsets]; rfl, hpending⟩
  | absent => exact ⟨hflags, by rw [servingAfter, hsets]; exact hserving, hpending⟩
  | tooLong => exact ⟨hflags, by rw [servingAfter, hsets]; exact hserving, hpending⟩

end History

/-! ## The notices are right -/

/-- The texts tell of all that has changed between two states, and of nothing else. -/
structure NoticesRight (before after : BasicNetworkStatus) (texts : List (List UInt8)) :
    Prop where
  capability : (∃ text ∈ texts, ascii "Change in service cap.\n" <+: text) ↔
    after.serviceCapability ≠ before.serviceCapability
  packet : ascii "Warning: Packet switch detached!" ∈ texts ↔
    before.serving.psAttached = 1 ∧ after.serving.psAttached ≠ 1
  circuit : ascii "Warning: Circuit switch detached!" ∈ texts ↔
    before.serving.csAttached = 1 ∧ after.serving.csAttached ≠ 1

/-- A message of the serving system is handled, and the right notices are queued. -/
def AnsweredRight (s : ServingRuntime) (m : NasMessage) : Prop :=
  (handleIncomingNasMessage s true m).Ensures fun result =>
    NoticesRight s.currState result.1.currState (result.2.map ServingNotice.text)

section Notices

variable {before after status : BasicNetworkStatus}

end Notices

section Answers

variable {s next : ServingRuntime} {m : NasMessage} {earlier ops : List NasMessage}

end Answers

end OpenQti.Nas
