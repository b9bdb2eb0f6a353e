import OpenQti.Audio.Runtime
import OpenQti.Lib.Run

/-!
# The controls that are switched on

During a call the playback and the capture control of its kind and of the output device are to be
switched on, and without a call none. `stop_audio` finds the controls to switch off from the output
device of the moment, and `set_output_device` changes that without a look at the call: the controls
of the old device stay on. `routing_kept` says that nothing else breaks the routing.
-/

namespace OpenQti.Audio

open Bytes Qmi Call Machine

/-- A step that changes the audio. -/
inductive AudioOp where
  | handleCallPkt (env : AudioEnv) (bytes : Bytes) (len : Nat) (phoneNumber : List UInt8)
  | stopAudio
  | setAuxpcmSamplingRate (mode : UInt8)
  | setOutputDevice (device : AudioMode)

def audioStep (s : AudioState) (op : AudioOp) : Except AudioFault AudioState :=
  match op with
  | .handleCallPkt env bytes len phoneNumber => handleCallPkt s env bytes len phoneNumber
  | .stopAudio => .ok (stopAudio s)
  | .setAuxpcmSamplingRate mode => .ok (setAuxpcmSamplingRate s mode)
  | .setOutputDevice device => .ok (setOutputDevice s device)

/-- The controls that are on are those of the output device and the call. -/
def Routed (s : AudioState) : Prop :=
  ∀ ctl, s.mixer ctl = true ↔ ctl ∈ voiceCtls s.outputDevice s.currentCallState

/-- There is no call, and all controls are off. -/
def Silent (s : AudioState) : Prop := s.currentCallState = .idle ∧ ∀ ctl, s.mixer ctl = false

/-- Every step from a state that is reached leads to a state in which the routing is right. -/
def AlwaysRouted : Prop :=
  ∀ (start : AudioState) (ops : List AudioOp) (s : AudioState), Silent start →
    Run audioStep Anything start ops s → ∀ op, ∃ next, audioStep s op = .ok next ∧ Routed next

/-- The packet is handled inside of the array of calls. -/
def CallInside (bytes : Bytes) (len : Nat) (phoneNumber : List UInt8) : Prop :=
  ∃ offset, getTlvOffsetById bytes len tlvCallInfo = some offset ∧
    (offset ≠ 0 → (callId bytes offset).toNat < maxActiveCalls ∧
      phoneNumber.length ≤ maxPhoneNumberLength)

/-- The output device is not changed during a call, and a packet is handled inside of the array. -/
def KeepsRouting (s : AudioState) : AudioOp → Prop
  | .setOutputDevice device => s.currentCallState = .idle ∨ device = s.outputDevice
  | .handleCallPkt _ bytes len phoneNumber => CallInside bytes len phoneNumber
  | _ => True

variable {s : AudioState}

/-! ## Mixers -/

/-- What the functions about calls look at. -/
@[simp]
theorem setMixerCtls_frame (ctls : List VoiceCtl) (value : Bool) (s : AudioState) :
    (setMixerCtls s ctls value).outputDevice = s.outputDevice ∧
      (setMixerCtls s ctls value).currentCallState = s.currentCallState ∧
      (setMixerCtls s ctls value).pcm = s.pcm := by
  induction ctls generalizing s with
  | nil => exact ⟨rfl, rfl, rfl⟩
  | cons ctl ctls ih => exact ih (setMixerCtl s ctl value)

theorem mixer_setMixerCtls (ctls : List VoiceCtl) (value : Bool) (s : AudioState) (ctl : VoiceCtl) :
    (setMixerCtls s ctls value).mixer ctl = if ctl ∈ ctls then value else s.mixer ctl := by
  induction ctls generalizing s with
  | nil => rfl
  | cons first ctls ih =>
      have hrest := ih (setMixerCtl s first value)
      rw [show setMixerCtls s (first :: ctls) value = setMixerCtls (setMixerCtl s first value) ctls
        value from rfl, hrest]
      by_cases hfirst : ctl = first
      · simp [hfirst, setMixerCtl]
      · simp [hfirst, setMixerCtl]

/-! ## The steps -/

/-- The routing is right, and during a call the devices have been opened. -/
structure Opened (s : AudioState) : Prop where
  routed : Routed s
  pcm : s.currentCallState ≠ .idle → s.pcm = true

/-- Nothing that the routing depends on is changed. -/
theorem Opened.same {next : AudioState} (h : Opened s) (hmixer : next.mixer = s.mixer)
    (hdevice : next.outputDevice = s.outputDevice)
    (hstate : next.currentCallState = s.currentCallState) (hpcm : next.pcm = s.pcm) :
    Opened next where
  routed := fun ctl => by
    rw [hmixer, hdevice, hstate]
    exact h.routed ctl
  pcm := fun hcall => by
    rw [hpcm]
    exact h.pcm fun hidle => hcall (hstate.trans hidle)

theorem Opened.stop (h : Opened s) :
    Opened (stopAudio s) ∧ (stopAudio s).currentCallState = .idle := by
  unfold stopAudio
  by_cases hidle : s.currentCallState = .idle
  · simp only [hidle, if_true]
    exact ⟨h.same rfl rfl hidle.symm rfl, trivial⟩
  · simp only [hidle, if_false, h.pcm hidle, Bool.not_true, Bool.false_eq_true]
    refine ⟨⟨fun ctl => ?_, fun hcall => absurd rfl hcall⟩, trivial⟩
    -- a control that is on is one of those that are switched off
    have hon := h.routed ctl
    simp only [mixer_setMixerCtls, voiceCtls, List.not_mem_nil, iff_false, Bool.not_eq_true]
    split_ifs with hctl
    · rfl
    · exact Bool.eq_false_iff.2 fun hmixer => hctl (hon.1 hmixer)

theorem Opened.setUp (h : Opened s) (hidle : s.currentCallState = .idle) (type : CallStatus) :
    Opened (setUpAudio s type) := by
  unfold setUpAudio
  split_ifs with htype
  · exact h
  · refine ⟨fun ctl => ?_, fun _ => rfl⟩
    have hoff : s.mixer ctl = false := by
      have hon := h.routed ctl
      rw [hidle] at hon
      exact Bool.eq_false_iff.2 fun hmixer => by simpa [voiceCtls] using hon.1 hmixer
    simp only [mixer_setMixerCtls, (setMixerCtls_frame _ _ _).1]
    split_ifs with hctl
    · simp [hctl]
    · simp [hctl, hoff]

theorem Opened.start (h : Opened s) (type : CallStatus) : Opened (startAudio s type) := by
  unfold startAudio
  split_ifs with hswitch hsame
  · obtain ⟨hstopped, hidle⟩ := h.stop
    exact hstopped.setUp hidle type
  · exact h
  · have hidle : s.currentCallState = .idle := by
      by_contra hcall
      exact hsame ⟨hcall, by_contra fun hother => hswitch ⟨hcall, hother⟩⟩
    exact h.setUp hidle type

theorem Opened.samplingRate (h : Opened s) (mode : UInt8) :
    Opened (setAuxpcmSamplingRate s mode) := by
  have hrate : Opened { s with samplingRate := mode } := h.same rfl rfl rfl rfl
  simp only [setAuxpcmSamplingRate]
  split_ifs
  · exact hrate.stop.1.start _
  · exact hrate

theorem Opened.establish (h : Opened s) (env : AudioEnv) (id : UInt8) (mode : CallStatus) :
    Opened (establish s env id mode) := by
  have hactive : ∀ {state : AudioState}, Opened state →
      Opened (startAudio { state with currentActiveCallId := id } mode) := by
    intro state hstate
    have hid : Opened { state with currentActiveCallId := id } := hstate.same rfl rfl rfl rfl
    exact hid.start mode
  have hstarted : ∀ {state : AudioState}, Opened state → Opened
      (if state.recordNextCall = true ∨ env.automaticRecording = true then
        { state with recordNextCall := false } else state) := by
    intro state hstate
    split_ifs
    · exact hstate.same rfl rfl rfl rfl
    · exact hstate
  simp only [Audio.establish]
  by_cases hcodec : env.externalCodec = true
  · simp only [hcodec, if_true]
    exact hstarted (hactive h.stop.1)
  · simp only [hcodec]
    exact hstarted (hactive h)

theorem Opened.alert (h : Opened s) (env : AudioEnv) (mode : CallStatus) :
    Opened (alert s env mode) := by
  unfold Audio.alert
  split_ifs
  · exact h.start mode
  · exact (h.same rfl rfl rfl rfl : Opened { s with isAlerting := true }).stop.1
  · exact h

theorem Opened.follow (h : Opened s) (env : AudioEnv) (bytes : Bytes) (offset : Nat) :
    Opened (followCall s env bytes offset) := by
  have hquiet : Opened { s with isAlerting := false } := h.same rfl rfl rfl rfl
  simp only [followCall]
  split_ifs
  · exact hquiet.start _
  · exact hquiet.establish _ _ _
  · exact hquiet
  · exact h.alert _ _
  · exact h.stop.1.same rfl rfl rfl rfl
  · exact hquiet
  · exact hquiet

/-- A packet is handled inside of the array of calls, or there is a fault. -/
theorem packet_ok_iff (s : AudioState) (env : AudioEnv) (bytes : Bytes) (len : Nat)
    (phoneNumber : List UInt8) :
    (∃ next, handleCallPkt s env bytes len phoneNumber = .ok next) ↔
      CallInside bytes len phoneNumber := by
  unfold handleCallPkt CallInside
  cases getTlvOffsetById bytes len tlvCallInfo with
  | none => simp
  | some offset =>
      cases offset with
      | zero => simp
      | succ n =>
          simp only [Option.some.injEq, exists_eq_left', ne_eq, Nat.succ_ne_zero, not_false_eq_true,
            true_implies]
          split_ifs with hid hlong
          · simp [hid.not_gt]
          · simp [hlong.not_ge]
          · simp [Nat.not_le.1 hid, Nat.not_lt.1 hlong]

theorem Opened.packet (h : Opened s) {env : AudioEnv} {bytes : Bytes} {len : Nat}
    {phoneNumber : List UInt8} {next : AudioState}
    (hnext : handleCallPkt s env bytes len phoneNumber = .ok next) : Opened next := by
  unfold handleCallPkt at hnext
  split at hnext
  · cases hnext
  · cases hnext
    exact h
  · simp only at hnext
    split_ifs at hnext
    cases hnext
    have hstored : ∀ calls, Opened { s with calls := calls } := fun _ => h.same rfl rfl rfl rfl
    exact (hstored _).follow _ _ _

theorem voiceCtls_ne {first second : AudioMode} {type : CallStatus} (htype : type ≠ .idle)
    (hmodes : first ≠ second) : ∃ ctl, ctl ∈ voiceCtls first type ∧ ctl ∉ voiceCtls second type := by
  cases first <;> cases second <;> cases type <;> simp_all [voiceCtls]

/-- A new output device keeps the routing exactly if there is no call, or it is the old one. -/
theorem Opened.device (h : Opened s) (device : AudioMode) :
    (s.currentCallState = .idle ∨ device = s.outputDevice → Opened (setOutputDevice s device)) ∧
      (Routed (setOutputDevice s device) →
        s.currentCallState = .idle ∨ device = s.outputDevice) := by
  constructor
  · rintro (hidle | rfl)
    · refine ⟨fun ctl => ?_, h.pcm⟩
      have hon := h.routed ctl
      rw [hidle] at hon
      simpa [setOutputDevice, hidle, voiceCtls] using hon
    · exact h
  · intro hrouted
    by_contra hother
    obtain ⟨hcall, hdevice⟩ := not_or.1 hother
    -- the two devices differ in their controls, so one is on that should be off
    obtain ⟨ctl, hnew, hold⟩ := voiceCtls_ne hcall hdevice
    exact hold ((h.routed ctl).1 ((hrouted ctl).2 hnew))

/-- A step keeps the routing exactly if it is allowed. -/
theorem Opened.step (h : Opened s) (op : AudioOp) :
    (KeepsRouting s op → ∃ next, audioStep s op = .ok next) ∧
      (∀ next, audioStep s op = .ok next → KeepsRouting s op → Opened next) ∧
      ((∃ next, audioStep s op = .ok next ∧ Routed next) → KeepsRouting s op) := by
  cases op with
  | handleCallPkt env bytes len phoneNumber =>
      have hok := packet_ok_iff s env bytes len phoneNumber
      exact ⟨hok.2, fun next hnext _ => h.packet hnext, fun ⟨next, hnext, _⟩ => hok.1 ⟨next, hnext⟩⟩
  | stopAudio =>
      refine ⟨fun _ => ⟨_, rfl⟩, fun next hnext _ => ?_, fun _ => trivial⟩
      cases hnext
      exact h.stop.1
  | setAuxpcmSamplingRate mode =>
      refine ⟨fun _ => ⟨_, rfl⟩, fun next hnext _ => ?_, fun _ => trivial⟩
      cases hnext
      exact h.samplingRate mode
  | setOutputDevice device =>
      refine ⟨fun _ => ⟨_, rfl⟩, fun next hnext hallowed => ?_, ?_⟩
      · cases hnext
        exact (h.device device).1 hallowed
      · rintro ⟨next, hnext, hrouted⟩
        cases hnext
        exact (h.device device).2 hrouted

/-! ## Runs -/

theorem Silent.opened (h : Silent s) : Opened s where
  routed := fun ctl => by simp [h.1, h.2 ctl, voiceCtls]
  pcm := fun hcall => absurd h.1 hcall

/-- In every run in which the output device is not changed during a call the routing is right, and a
next step is done inside of the array and keeps the routing exactly if it meets the condition. -/
theorem routing_kept {start : AudioState} {ops : List AudioOp} (hstart : Silent start)
    (h : Run audioStep KeepsRouting start ops s) :
    Routed s ∧ ∀ op, (∃ next, audioStep s op = .ok next ∧ Routed next) ↔ KeepsRouting s op := by
  have hopened : Opened s :=
    Run.invariant Opened hstart.opened
      (fun _ op next hopened hallowed hnext => (hopened.step op).2.1 next hnext hallowed) h
  refine ⟨hopened.routed, fun op => ⟨(hopened.step op).2.2, fun hallowed => ?_⟩⟩
  obtain ⟨next, hnext⟩ := (hopened.step op).1 hallowed
  exact ⟨next, hnext, ((hopened.step op).2.1 next hnext hallowed).routed⟩

/-- The announcement of a call of the host on a network without VoLTE. -/
def sampleCall (state : CallState) : Bytes :=
  Bytes.ofList [0x01, 0x17, 0, 0x80, 0x09, 0x02, 0x04, 1, 0, 0x2e, 0, 0x0b, 0,
    0x01, 0x08, 0, 0x01, 0x01, state.code, 0, 0x01, 0x03, 0, 0]

/-- A call with an analogue codec and the usual tone. -/
def sampleOp (state : CallState) : AudioOp :=
  .handleCallPkt ⟨false, false, false⟩ (sampleCall state) 24 []

/-- The output device is changed during a call. -/
theorem device_changed_in_call : ¬ AlwaysRouted := by
  intro h
  have hrun : ∃ s, Run audioStep Anything .default [sampleOp .originating] s ∧
      s.mixer .txctlVoice = true := by
    refine ⟨_, .snoc (.nil _) trivial rfl, rfl⟩
  obtain ⟨s, hrun, hmixer⟩ := hrun
  obtain ⟨next, hnext, hrouted⟩ := h _ _ s ⟨rfl, fun _ => rfl⟩ hrun (.setOutputDevice .usb)
  cases hnext
  have hon := (hrouted .txctlVoice).1 hmixer
  cases hstate : s.currentCallState <;> simp [setOutputDevice, hstate, voiceCtls] at hon

/-- A call is made and ends, and the device is changed after that. -/
theorem device_changed_after_call :
    ∃ s, Run audioStep KeepsRouting .default
        [sampleOp .originating, sampleOp .hangup, .setOutputDevice .usb] s ∧
      Routed s ∧ s.outputDevice = .usb := by
  have hinside : ∀ state, CallInside (sampleCall state) 24 [] := by
    intro state
    cases state
    all_goals exact ⟨13, rfl, fun _ => ⟨by decide, by decide⟩⟩
  have hrun : ∃ s, Run audioStep KeepsRouting .default
      [sampleOp .originating, sampleOp .hangup, .setOutputDevice .usb] s ∧
      s.outputDevice = .usb := by
    refine ⟨_, .snoc (.snoc (.snoc (.nil _) ?_ rfl) ?_ rfl) ?_ rfl, rfl⟩
    · exact hinside _
    · exact hinside _
    · exact .inl rfl
  obtain ⟨s, hrun, hdevice⟩ := hrun
  exact ⟨s, hrun, (routing_kept ⟨rfl, fun _ => rfl⟩ hrun).1, hdevice⟩

end OpenQti.Audio
