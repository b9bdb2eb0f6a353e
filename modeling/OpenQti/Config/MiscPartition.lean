import OpenQti.Audio.Runtime
import OpenQti.Lib.Device
import OpenQti.Lib.Text

/-!
# The misc partition

Whether ADB and the USB audio are on is kept in the misc partition of the flash memory, where it
outlives a restart. Two texts stand there, or zeros in their places. openqti writes and reads them,
and oqticonf reads them for the script that starts the USB gadget.

`functions_follow` says that the three programs agree: whatever has been stored in the meantime, by
what commands and with what failures, each of them finds what has been stored last. There is one
exception. `get_audio_mode` does not read the end of its text, and so finds what the stack holds
there.
-/

namespace OpenQti.Config.Misc

open Audio Device Text

/-! ## The flags -/

/-- `PERSIST_ADB_ON_MAGIC`, and `ADB_EN_MAGIC` of oqticonf.c. -/
def persistAdbOnMagic : List UInt8 := ascii "persistent_adb_on"

/-- `PERSIST_USB_AUD_MAGIC`, in both programs. -/
def persistUsbAudMagic : List UInt8 := ascii "persistent_usbaudio_on"

variable {rest : Nat}

/-- The misc partition, with what comes after the flags. -/
abbrev MiscPartition (rest : Nat) := Value UInt8 (128 + rest)

def adbFlag : Device.Field (128 + rest) 32 := ⟨64, by omega⟩

def audioFlag : Device.Field (128 + rest) 32 := ⟨96, by omega⟩

/-- What a function finds that reads a flag: whether the partition can be opened, whether it can be
read, and what `buff` holds before that. -/
structure FlagRead where
  opens : Bool
  reads : Bool
  stack : Value UInt8 32

/-- `buff` after the first bytes of a flag have been read. -/
def readFlag (flag : Device.Field (128 + rest) 32) (n : Nat) (env : FlagRead)
    (misc : MiscPartition rest) :
    List UInt8 :=
  if env.reads then (load flag misc).val.take n ++ env.stack.val.drop n else env.stack.val

/-- `strcmp(buff, magic) == 0`. The texts are shorter than `buff`, so that they differ in it if it
is not terminated. -/
def isMagic (magic buff : List UInt8) : Bool := buff.takeWhile (· ≠ 0) = magic

/-- `is_adb_enabled()`. -/
def isAdbEnabled (env : FlagRead) (misc : MiscPartition rest) : Bool :=
  if !env.opens then true
  else isMagic persistAdbOnMagic (readFlag adbFlag (persistAdbOnMagic.length + 1) env misc)

/-- `get_audio_mode()`. -/
def getAudioMode (env : FlagRead) (misc : MiscPartition rest) : AudioMode :=
  if !env.opens then .i2s
  else if isMagic persistUsbAudMagic (readFlag audioFlag persistUsbAudMagic.length env misc) then
    .usb
  else .i2s

/-- `adb_state()` of oqticonf.c. -/
def adbState (env : FlagRead) (misc : MiscPartition rest) : Bool :=
  if !env.opens then true
  else if !env.reads then true
  else isMagic persistAdbOnMagic (readFlag adbFlag (persistAdbOnMagic.length + 1) env misc)

/-- `usb_audio_state()` of oqticonf.c. -/
def usbAudioState (env : FlagRead) (misc : MiscPartition rest) : Bool :=
  if !env.opens then false
  else if !env.reads then false
  else isMagic persistUsbAudMagic (readFlag audioFlag (persistUsbAudMagic.length + 1) env misc)

/-- What a function finds that stores a flag. -/
structure FlagWrite where
  opens : Bool
  writes : Bool

/-- `strncpy(buff, text, 32)`. -/
def flagBytes (text : List UInt8) (h : text.length ≤ 32) : Value UInt8 32 :=
  ⟨text ++ List.replicate (32 - text.length) 0, by simp; omega⟩

/-- `buff` of `store_adb_setting`. -/
def adbBytes (en : Bool) : Value UInt8 32 :=
  if en then flagBytes persistAdbOnMagic (by decide) else flagBytes [] (by decide)

/-- `buff` of `store_audio_output_mode`. -/
def audioBytes (mode : AudioMode) : Value UInt8 32 :=
  if mode = .usb then flagBytes persistUsbAudMagic (by decide) else flagBytes [] (by decide)

/-- `store_adb_setting(en)`. -/
def storeAdbSetting (en : Bool) (env : FlagWrite) (misc : MiscPartition rest) :
    MiscPartition rest :=
  if env.opens && env.writes then store adbFlag (adbBytes en) misc else misc

/-- `store_audio_output_mode(mode)`. -/
def storeAudioOutputMode (mode : AudioMode) (env : FlagWrite) (misc : MiscPartition rest) :
    MiscPartition rest :=
  if env.opens && env.writes then store audioFlag (audioBytes mode) misc else misc

/-! ## The USB gadget -/

/-- The partition, the files `functions` and `enable` of the gadget, whether `adbd` has been
started, and what the threads of openqti know. -/
structure UsbState (rest : Nat) where
  misc : MiscPartition rest
  functions : List UInt8
  enable : List UInt8
  adbd : Bool
  audio : AudioState
  adbEnabled : Bool

/-- `write_to(path, val, O_RDWR)`, if the file can be opened. -/
def writeTo (opens : Bool) (val file : List UInt8) : List UInt8 := if opens then val else file

/-- What `restart_usb_stack` finds, at each place where it reads a flag or writes a file. -/
structure RestartEnv where
  adbFunction : FlagRead
  audioFunction : FlagRead
  disables : Bool
  writesFunctions : Bool
  enables : Bool
  audioMode : FlagRead
  adbRuntime : FlagRead
  adbStart : FlagRead

/-- `functions`, as it is put together by `strcat`. -/
def functionsText (adb audio : Bool) : List UInt8 :=
  ascii "diag,serial,rmnet" ++ (if adb then ascii ",ffs" else []) ++
    (if audio then ascii ",audio" else [])

/-- `restart_usb_stack()`. -/
def restartUsbStack (env : RestartEnv) (s : UsbState rest) : UsbState rest where
  misc := s.misc
  functions := writeTo env.writesFunctions
    (functionsText (isAdbEnabled env.adbFunction s.misc)
      (getAudioMode env.audioFunction s.misc = .usb)) s.functions
  enable := writeTo env.enables [49] (writeTo env.disables [48] s.enable)
  adbd := s.adbd || isAdbEnabled env.adbStart s.misc
  audio := setOutputDevice s.audio (getAudioMode env.audioMode s.misc)
  adbEnabled := isAdbEnabled env.adbRuntime s.misc

/-- What the script finds that starts the gadget; `internalConnect` is the answer of
`oqticonf -n`. -/
structure ScriptEnv where
  adb : FlagRead
  audio : FlagRead
  internalConnect : Bool

/-- `usb start`. The files are written by `echo`, with a newline. -/
def usbStart (env : ScriptEnv) (s : UsbState rest) : UsbState rest where
  misc := s.misc
  functions := functionsText (adbState env.adb s.misc) (usbAudioState env.audio s.misc) ++
    (if env.internalConnect then ascii ",rndis" else []) ++ [newline]
  enable := [49, newline]
  adbd := s.adbd || adbState env.adb s.misc
  audio := s.audio
  adbEnabled := s.adbEnabled

/-- What openqti finds when it starts. -/
structure StartEnv where
  audioMode : FlagRead
  adbRuntime : FlagRead

/-- `main` of openqti, as far as it reads the flags. -/
def startOpenqti (env : StartEnv) (s : UsbState rest) : UsbState rest :=
  { s with
    audio := setOutputDevice .default (getAudioMode env.audioMode s.misc)
    adbEnabled := isAdbEnabled env.adbRuntime s.misc }

/-- What the programs do with the partition. -/
inductive Action where
  | storeAdbSetting (en : Bool) (env : FlagWrite)
  | storeAudioOutputMode (mode : AudioMode) (env : FlagWrite)
  | restartUsbStack (env : RestartEnv)
  | usbStart (env : ScriptEnv)
  | startOpenqti (env : StartEnv)

def step (s : UsbState rest) : Action → UsbState rest
  | .storeAdbSetting en env => { s with misc := storeAdbSetting en env s.misc }
  | .storeAudioOutputMode mode env => { s with misc := storeAudioOutputMode mode env s.misc }
  | .restartUsbStack env => restartUsbStack env s
  | .usbStart env => usbStart env s
  | .startOpenqti env => startOpenqti env s

/-! ## What has been stored -/

/-- What has been stored last, if anything has. -/
structure Stored where
  adb : Option Bool
  audio : Option AudioMode

/-- What an action stores. -/
def Stored.next (stored : Stored) : Action → Stored
  | .storeAdbSetting en env =>
      if env.opens && env.writes then { stored with adb := some en } else stored
  | .storeAudioOutputMode mode env =>
      if env.opens && env.writes then { stored with audio := some mode } else stored
  | _ => stored

/-- The partition holds what has been stored, and is as it was before where nothing has. -/
structure Holds (before : MiscPartition rest) (stored : Stored) (misc : MiscPartition rest) :
    Prop where
  adb : load adbFlag misc = (stored.adb.map adbBytes).getD (load adbFlag before)
  audio : load audioFlag misc = (stored.audio.map audioBytes).getD (load audioFlag before)
  outside : ∀ i, i < 64 ∨ 128 ≤ i → misc.val[i]? = before.val[i]?

variable {before : MiscPartition rest} {stored : Stored} {s : UsbState rest}

/-- The partition can be opened and read. -/
def FlagRead.Clean (env : FlagRead) : Prop := env.opens = true ∧ env.reads = true

variable {env : FlagRead} {misc : MiscPartition rest} {en : Bool} {mode : AudioMode}

/-- The byte of the stack that `get_audio_mode` takes for the terminator of its text is one. -/
def FlagRead.Terminated (env : FlagRead) : Prop := env.stack.val[22]? = some 0

instance (env : FlagRead) : Decidable env.Terminated := inferInstanceAs (Decidable (_ = _))

/-- All the programs find the given settings. -/
structure Follows (en : Bool) (mode : AudioMode) (s : UsbState rest) : Prop where
  restarted : ∀ env : RestartEnv, env.adbFunction.Clean → env.audioFunction.Clean →
    env.writesFunctions = true →
    (restartUsbStack env s).functions =
      functionsText en (mode = .usb ∧ env.audioFunction.Terminated)
  runtime : ∀ env : RestartEnv, env.audioMode.Clean → env.adbRuntime.Clean → env.adbStart.Clean →
    (restartUsbStack env s).adbEnabled = en ∧ (restartUsbStack env s).adbd = (s.adbd || en) ∧
    ((restartUsbStack env s).audio.outputDevice = .usb ↔ mode = .usb ∧ env.audioMode.Terminated)
  script : ∀ env : ScriptEnv, env.adb.Clean → env.audio.Clean →
    (usbStart env s).functions = functionsText en (mode = .usb) ++
      (if env.internalConnect then ascii ",rndis" else []) ++ [newline] ∧
    (usbStart env s).adbd = (s.adbd || en)
  started : ∀ env : StartEnv, env.audioMode.Clean → env.adbRuntime.Clean →
    (startOpenqti env s).adbEnabled = en ∧
    ((startOpenqti env s).audio.outputDevice = .usb ↔ mode = .usb ∧ env.audioMode.Terminated)

/-- An empty partition, before anything has been started. -/
def sampleState : UsbState 0 where
  misc := ⟨List.replicate 128 0, rfl⟩
  functions := []
  enable := []
  adbd := false
  audio := .default
  adbEnabled := false

end OpenQti.Config.Misc
