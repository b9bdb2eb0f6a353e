import OpenQti.Call.Service

/-!
# The audio of calls

`audio.c` follows the calls that the baseband announces: it switches on the mixer controls of the
kind of the call and of the output device, opens the PCM devices, and switches the controls off when
the call ends. This module translates `audio_runtime_state` and the functions that work on it.

Operations on mixers and PCM devices succeed. The controls that are not those of a voice call, the
volume of the microphone, the thread that plays a tone, and the one that records a call are left out.
-/

namespace OpenQti.Audio

open Bytes Qmi Call

/-- `MAX_ACTIVE_CALLS`. -/
def maxActiveCalls : Nat := 10

/-- `CALL_STATUS_IDLE`, `CALL_STATUS_CS` and `CALL_STATUS_VOLTE`. -/
inductive CallStatus where
  | idle
  | cs
  | volte
  deriving DecidableEq, Repr

/-- `AUDIO_MODE_I2S` and `AUDIO_MODE_USB`. -/
inductive AudioMode where
  | i2s
  | usb
  deriving DecidableEq, Repr

/-- The mixer controls of a voice call. -/
inductive VoiceCtl where
  | txctlVoice
  | rxctlVoice
  | txctlVolte
  | rxctlVolte
  | afetxVoice
  | aferxVoice
  | afetxVolte
  | aferxVolte
  deriving DecidableEq, Repr

/-- `struct call_data`. -/
structure CallData where
  phoneNumber : List UInt8
  direction : UInt8
  state : UInt8
  callType : UInt8
  deriving DecidableEq, Repr

/-- `audio_runtime_state`, the controls that are switched on, and whether `pcm_tx` and `pcm_rx` have
been opened. -/
structure AudioState where
  currentCallState : CallStatus
  samplingRate : UInt8
  outputDevice : AudioMode
  isMuted : Bool
  isAlerting : Bool
  calls : Nat → CallData
  currentActiveCallId : UInt8
  recordNextCall : Bool
  mixer : VoiceCtl → Bool
  pcm : Bool

/-- `set_audio_runtime_default()`, with all controls off. -/
def AudioState.default : AudioState where
  currentCallState := .idle
  samplingRate := 0
  outputDevice := .i2s
  isMuted := false
  isAlerting := false
  calls := fun _ => ⟨List.replicate maxPhoneNumberLength 0, 0, 0, 0⟩
  currentActiveCallId := 0
  recordNextCall := false
  mixer := fun _ => false
  pcm := false

/-- What the code asks for: `use_external_codec()`, `use_custom_alert_tone()`, and whether
`is_automatic_call_recording_enabled()` is above zero. -/
structure AudioEnv where
  externalCodec : Bool
  customAlertTone : Bool
  automaticRecording : Bool

inductive AudioFault where
  /-- A call id that is not in the array of calls. -/
  | callId (id : UInt8)
  /-- A phone number that does not fit into its array. -/
  | phoneNumber (len : Nat)
  /-- A loop over TLVs never ends. -/
  | loops
  deriving DecidableEq, Repr

variable (s : AudioState)

/-! ## Mixers -/

/-- `set_mixer_ctl(mixer, name, value)`. -/
def setMixerCtl (ctl : VoiceCtl) (value : Bool) : AudioState :=
  { s with mixer := Function.update s.mixer ctl value }

/-- The controls that `start_audio` switches on and `stop_audio` off: playback and capture. -/
def voiceCtls : AudioMode → CallStatus → List VoiceCtl
  | .i2s, .cs => [.txctlVoice, .rxctlVoice]
  | .i2s, .volte => [.txctlVolte, .rxctlVolte]
  | .usb, .cs => [.afetxVoice, .aferxVoice]
  | .usb, .volte => [.afetxVolte, .aferxVolte]
  | _, .idle => []

/-- Some controls are set to a value, one after the other. -/
def setMixerCtls (ctls : List VoiceCtl) (value : Bool) : AudioState :=
  ctls.foldl (fun s ctl => setMixerCtl s ctl value) s

/-- `stop_audio()`. -/
def stopAudio : AudioState :=
  let s := { s with currentActiveCallId := 0 }
  if s.currentCallState = .idle then s
  -- nothing has been opened; the controls and the state of the call stay as they are
  else if !s.pcm then s
  else
    -- the device of now, which need not be the one on which the call was set up
    let s := setMixerCtls s (voiceCtls s.outputDevice s.currentCallState) false
    { s with currentCallState := .idle, isMuted := false }

/-- The part of `start_audio` after the checks. A type that is none of a call is not set up. -/
def setUpAudio (type : CallStatus) : AudioState :=
  if type = .idle then s
  else
    let s := setMixerCtls s (voiceCtls s.outputDevice type) true
    { s with pcm := true, currentCallState := type }

/-- `start_audio(type)`. -/
def startAudio (type : CallStatus) : AudioState :=
  if s.currentCallState ≠ .idle ∧ type ≠ s.currentCallState then setUpAudio (stopAudio s) type
  else if s.currentCallState ≠ .idle ∧ type = s.currentCallState then s
  else setUpAudio s type

/-- `set_output_device(device)`. -/
def setOutputDevice (device : AudioMode) : AudioState := { s with outputDevice := device }

/-- `set_auxpcm_sampling_rate(mode)`. -/
def setAuxpcmSamplingRate (mode : UInt8) : AudioState :=
  let previousCallState := s.currentCallState
  let s := { s with samplingRate := mode }
  if s.currentCallState ≠ .idle then startAudio (stopAudio s) previousCallState else s

/-! ## Calls -/

/-- `meta->call_id`. -/
def callId (bytes : Bytes) (offset : Nat) : UInt8 := metaByte bytes offset 4

/-- `meta->call_mode`. -/
def callMode (bytes : Bytes) (offset : Nat) : UInt8 := metaByte bytes offset 8

/-- `CALL_MODE_VOLTE`. -/
def callModeVolte : UInt8 := 0x04

/-- The `mode` of `handle_call_pkt`. An unknown mode is one of a circuit switched call. -/
def audioType (bytes : Bytes) (offset : Nat) : CallStatus :=
  if callMode bytes offset = callModeVolte then .volte else .cs

/-- What is stored about a call. The number is copied over the one that was there. -/
def callData (bytes : Bytes) (offset : Nat) (phoneNumber : List UInt8) : CallData where
  phoneNumber := overwrite (s.calls (callId bytes offset).toNat).phoneNumber phoneNumber
  direction := callDirection bytes offset
  state := callState bytes offset
  callType := callMode bytes offset

/-- A call has been established. -/
def establish (env : AudioEnv) (id : UInt8) (mode : CallStatus) : AudioState :=
  let s := if env.externalCodec then stopAudio s else s
  let s := startAudio { s with currentActiveCallId := id } mode
  if s.recordNextCall ∨ env.automaticRecording then { s with recordNextCall := false } else s

/-- The other side is called. -/
def alert (env : AudioEnv) (mode : CallStatus) : AudioState :=
  if !env.customAlertTone then startAudio s mode
  else if !s.isAlerting then stopAudio { s with isAlerting := true }
  else s

/-- The `switch` of `handle_call_pkt` on the state of the call. -/
def followCall (env : AudioEnv) (bytes : Bytes) (offset : Nat) : AudioState :=
  let mode := audioType bytes offset
  let state := callState bytes offset
  if state = CallState.preparing.code ∨ state = CallState.attempt.code ∨
      state = CallState.originating.code ∨ state = CallState.ringing.code then
    startAudio { s with isAlerting := false } mode
  else if state = CallState.established.code then
    establish { s with isAlerting := false } env (callId bytes offset) mode
  else if state = CallState.onHold.code ∨ state = CallState.waiting.code then
    { s with isAlerting := false }
  else if state = CallState.alerting.code then alert s env mode
  else if state = CallState.disconnecting.code ∨ state = CallState.hangup.code then
    -- another call in the packet keeps the audio on
    let s := if numInstances bytes offset < 2 then stopAudio s else s
    { s with isAlerting := false }
  else { s with isAlerting := false }

/-- `handle_call_pkt(pkt, sz, phone_number, phone_num_len)`. -/
def handleCallPkt (env : AudioEnv) (bytes : Bytes) (len : Nat) (phoneNumber : List UInt8) :
    Except AudioFault AudioState :=
  match getTlvOffsetById bytes len tlvCallInfo with
  | none => .error .loops
  | some 0 => .ok s
  | some offset =>
      let id := callId bytes offset
      if id.toNat ≥ maxActiveCalls then .error (.callId id)
      else if phoneNumber.length > maxPhoneNumberLength then
        .error (.phoneNumber phoneNumber.length)
      else
        let calls := Function.update s.calls id.toNat (callData s bytes offset phoneNumber)
        .ok (followCall { s with calls := calls } env bytes offset)

end OpenQti.Audio
