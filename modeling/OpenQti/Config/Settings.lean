import Mathlib.Logic.Function.Basic
import OpenQti.Lib.Run
import OpenQti.Lib.Text

/-!
# The settings and their file

The settings are kept in memory and written to a file of lines `key=value` whenever one of them is
set. After a restart `read_settings_from_file` starts from the initial settings and applies
`parse_line` to every line.

The functions that set, write and parse a field are the same for all fields of a type, so the
fields are the values of two enumerations. A text is the list of the bytes before its terminator.
The fields that are not written, `first_boot` and `apn_ip_family`, are left out, and so is the
remounting of the partition.
-/

namespace OpenQti.Config

open Machine Text

/-! ## Fields -/

/-- The fields of type `uint8_t`. -/
inductive NumberField where
  | customAlertTone
  | persistentLogging
  | signalTracking
  | signalTrackingMode
  | signalTrackingNotifyDowngrade
  | signalTrackingNotifyCellChange
  | dumpNetworkTables
  | callwaitAutohangup
  | automaticCallRecording
  | smsLogging
  | listAllBypass
  | allowInternalModemConnectivity
  | apnAuthMethod
  | imsAttemptEnable
  | imsVtSupport
  | imsRtpSupport
  | imsSmsSupport
  deriving DecidableEq, Repr

/-- The fields that hold a text. -/
inductive TextField where
  | userName
  | modemName
  | apnAddr
  | apnUsername
  | apnPassword
  | imsApnAddr
  | imsApnUsername
  | imsApnPassword
  deriving DecidableEq, Repr

/-- A field that is written to the file. -/
inductive Field where
  | number (field : NumberField)
  | text (field : TextField)
  deriving DecidableEq, Repr

/-- `struct config_prototype`. -/
structure ConfigPrototype where
  number : NumberField → UInt8
  text : TextField → List UInt8

/-- `MAX_NAME_SZ`. -/
def maxNameSz : Nat := 128

/-- `MAX_APN_FIELD_SZ`. -/
def maxApnFieldSz : Nat := 128

/-- The size of the array that holds a text. -/
def textSize : TextField → Nat
  | .userName => maxNameSz
  | .modemName => maxNameSz
  | _ => maxApnFieldSz

/-- What goes wrong. -/
inductive ConfigFault where
  /-- `strncpy` from the null pointer that `strtok` has returned. -/
  | nullToken
  /-- `strncpy` has filled the whole field, without a terminator. -/
  | unterminated
  deriving DecidableEq, Repr

variable (s : ConfigPrototype)

/-- Set a number. -/
def ConfigPrototype.setNumber (field : NumberField) (value : UInt8) : ConfigPrototype :=
  { s with number := Function.update s.number field value }

/-- Set a text. -/
def ConfigPrototype.setText (field : TextField) (value : List UInt8) : ConfigPrototype :=
  { s with text := Function.update s.text field value }

/-- The name of a field in the file. -/
def key : Field → List UInt8
  | .number .customAlertTone => ascii "custom_alert_tone"
  | .number .persistentLogging => ascii "persistent_logging"
  | .number .signalTracking => ascii "signal_tracking"
  | .number .signalTrackingMode => ascii "signal_tracking_mode"
  | .number .signalTrackingNotifyDowngrade => ascii "signal_tracking_notify_downgrade"
  | .number .signalTrackingNotifyCellChange => ascii "signal_tracking_notify_cell_change"
  | .number .dumpNetworkTables => ascii "dump_network_tables"
  | .number .callwaitAutohangup => ascii "callwait_autohangup"
  | .number .automaticCallRecording => ascii "automatic_call_recording"
  | .number .smsLogging => ascii "sms_logging"
  | .number .listAllBypass => ascii "list_all_bypass"
  | .number .allowInternalModemConnectivity => ascii "allow_internal_modem_connectivity"
  | .number .apnAuthMethod => ascii "auth_method"
  | .number .imsAttemptEnable => ascii "ims_attempt_enable"
  | .number .imsVtSupport => ascii "ims_vt_support"
  | .number .imsRtpSupport => ascii "ims_rtp_support"
  | .number .imsSmsSupport => ascii "ims_sms_support"
  | .text .userName => ascii "user_name"
  | .text .modemName => ascii "modem_name"
  | .text .apnAddr => ascii "apn_addr"
  | .text .apnUsername => ascii "apn_username"
  | .text .apnPassword => ascii "apn_password"
  | .text .imsApnAddr => ascii "ims_apn_addr"
  | .text .imsApnUsername => ascii "ims_apn_username"
  | .text .imsApnPassword => ascii "ims_apn_password"

/-! ## The initial settings -/

/-- The texts that `set_initial_config` sets; the other ones are taken as empty. -/
def initialText : TextField → List UInt8
  | .userName => ascii "Admin"
  | .modemName => ascii "Modem"
  | .imsApnAddr => ascii "ims"
  | _ => []

/-- `set_initial_config()`. The memory for `apn_auth_method` holds `garbage`. -/
def setInitialConfig (garbage : UInt8) : ConfigPrototype where
  number
    | .listAllBypass => 1
    | .apnAuthMethod => garbage
    | _ => 0
  text := initialText

/-! ## The file -/

/-- `'='`. -/
def equalsSign : UInt8 := 61

/-- The bytes of `sep` in `parse_line`. -/
def isSeparator (c : UInt8) : Bool := c = equalsSign ∨ c = newline

/-- The order in which `parse_line` compares the keys. -/
def parseOrder : List Field :=
  [.number .customAlertTone, .number .persistentLogging, .number .signalTracking,
    .number .signalTrackingMode, .number .signalTrackingNotifyDowngrade,
    .number .signalTrackingNotifyCellChange, .number .dumpNetworkTables,
    .number .callwaitAutohangup, .number .smsLogging, .number .listAllBypass,
    .number .allowInternalModemConnectivity, .number .automaticCallRecording, .text .userName,
    .text .modemName, .text .apnAddr, .text .apnUsername, .text .apnPassword,
    .number .apnAuthMethod, .text .imsApnAddr, .text .imsApnUsername, .text .imsApnPassword,
    .number .imsAttemptEnable, .number .imsVtSupport, .number .imsRtpSupport,
    .number .imsSmsSupport]

/-- The value of a line is given to its field: numbers through `atoi`, texts through `snprintf`. -/
def assign (value : List UInt8) : Field → ConfigPrototype
  | .number field => s.setNumber field (UInt8.ofInt (atoi value))
  | .text field => s.setText field (value.take (textSize field - 1))

/-- `parse_line(buf)`, with the value it returns. -/
def parseLine (buf : List UInt8) : Except ConfigFault (ConfigPrototype × Nat) :=
  match strtok isSeparator buf with
  | none => .error .nullToken
  | some (token, rest) =>
      let setting := token.take 63
      match strtok isSeparator rest with
      | none => .ok (s, 0)
      | some (token, _) =>
          let value := token.take 63
          if setting.head? = some 35 then .ok (s, 1)
          else
            match parseOrder.find? fun field => setting = key field with
            | some field => .ok (assign s value field, 1)
            | none => .ok (s, 0)

/-- The order in which `write_settings_to_storage` writes the fields. -/
def writeOrder : List Field :=
  [.number .customAlertTone, .number .persistentLogging, .text .userName, .text .modemName,
    .number .signalTracking, .number .signalTrackingMode, .number .signalTrackingNotifyDowngrade,
    .number .signalTrackingNotifyCellChange, .number .dumpNetworkTables,
    .number .callwaitAutohangup, .number .automaticCallRecording, .number .smsLogging,
    .number .listAllBypass, .number .allowInternalModemConnectivity, .number .apnAuthMethod,
    .text .apnAddr, .text .apnUsername, .text .apnPassword, .text .imsApnAddr,
    .text .imsApnUsername, .text .imsApnPassword, .number .imsAttemptEnable,
    .number .imsVtSupport, .number .imsRtpSupport, .number .imsSmsSupport]

/-- The value of a field as it is printed, with `%i` or `%s`. -/
def printed : Field → List UInt8
  | .number field => decimal (s.number field).toNat
  | .text field => s.text field

/-- The line of a field, without its end. -/
def settingLine (field : Field) : List UInt8 := key field ++ equalsSign :: printed s field

/-- The comments at the top of the file. -/
def headerLines : List (List UInt8) := [ascii "# OpenQTI Config file", ascii "# key=value"]

/-- The file that `write_settings_to_storage()` produces. -/
def writeSettingsToStorage : List UInt8 :=
  (headerLines ++ writeOrder.map (settingLine s)).flatMap (· ++ [newline])

/-- One round of the loop in `read_settings_from_file`: the settings, and
`recreate_cfg_required`. -/
def readLine (state : ConfigPrototype × Bool) (buf : List UInt8) :
    Except ConfigFault (ConfigPrototype × Bool) :=
  (parseLine state.1 buf).map fun result => (result.1, state.2 || result.2 < 1)

/-- The loop in `read_settings_from_file()`: every line of the file, by a buffer of 1024 bytes. -/
def readLines (file : List UInt8) : Except ConfigFault (ConfigPrototype × Bool) :=
  exec readLine (s, false) (fgetsLines 1023 [] file)

/-! ## Setters -/

/-- A text that a setter is called with. -/
structure CText where
  bytes : List UInt8
  noTerminator : 0 ∉ bytes

/-- What the setters of a flag do. -/
def setFlag (field : NumberField) (en : Bool) : ConfigPrototype :=
  s.setNumber field (if en then 1 else 0)

/-- What the setters of the two names do. -/
def setName (field : TextField) (name : CText) : ConfigPrototype :=
  s.setText field (name.bytes.take (maxNameSz - 1))

/-- What the setters of the three texts of the internal network do. -/
def setApnField (field : TextField) (value : CText) : Except ConfigFault ConfigPrototype :=
  if value.bytes.length = maxApnFieldSz then .error .unterminated
  else .ok (s.setText field (value.bytes.take (maxApnFieldSz - 1)))

/-- `set_custom_alert_tone(en)`. -/
def setCustomAlertTone (en : Bool) : ConfigPrototype := setFlag s .customAlertTone en

/-- `set_automatic_call_recording(mode)`. -/
def setAutomaticCallRecording (mode : UInt8) : ConfigPrototype :=
  s.setNumber .automaticCallRecording (if mode = 2 then 2 else if mode = 1 then 1 else 0)

/-- `set_sms_logging(en)`. -/
def setSmsLogging (en : Bool) : ConfigPrototype := setFlag s .smsLogging en

/-- `set_list_all_bypass(en)`. -/
def setListAllBypass (en : Bool) : ConfigPrototype := setFlag s .listAllBypass en

/-- `set_internal_connectivity(en)`. -/
def setInternalConnectivity (en : Bool) : ConfigPrototype :=
  setFlag s .allowInternalModemConnectivity en

/-- `set_persistent_logging(en)`, given whether the partition can be written. -/
def setPersistentLogging (en writable : Bool) : ConfigPrototype :=
  setFlag s .persistentLogging (en && writable)

/-- `set_modem_name(name)`. -/
def setModemName (name : CText) : ConfigPrototype := setName s .modemName name

/-- `set_user_name(name)`. -/
def setUserName (name : CText) : ConfigPrototype := setName s .userName name

/-- `enable_signal_tracking(en)`. -/
def enableSignalTracking (en : Bool) : ConfigPrototype := setFlag s .signalTracking en

/-- `enable_dump_network_tables(en)`. -/
def enableDumpNetworkTables (en : Bool) : ConfigPrototype := setFlag s .dumpNetworkTables en

/-- `set_signal_tracking_mode(mode)`. -/
def setSignalTrackingMode (mode : UInt8) : ConfigPrototype :=
  if mode > 3 then s else s.setNumber .signalTrackingMode mode

/-- `set_signal_tracking_downgrade_notification(enable)`. -/
def setSignalTrackingDowngradeNotification (enable : UInt8) : ConfigPrototype :=
  setFlag s .signalTrackingNotifyDowngrade (enable ≠ 0)

/-- `set_signal_tracking_cell_change_notification(mode)`. -/
def setSignalTrackingCellChangeNotification (mode : UInt8) : ConfigPrototype :=
  if mode > 2 then s else s.setNumber .signalTrackingNotifyCellChange mode

/-- `enable_call_waiting_autohangup(en)`. -/
def enableCallWaitingAutohangup (en : UInt8) : ConfigPrototype :=
  s.setNumber .callwaitAutohangup (if en = 2 then 2 else if en = 1 then 1 else 0)

/-- `set_internal_network_apn_name(apn)`. -/
def setInternalNetworkApnName (apn : CText) : Except ConfigFault ConfigPrototype :=
  setApnField s .apnAddr apn

/-- `set_internal_network_username(username)`. -/
def setInternalNetworkUsername (username : CText) : Except ConfigFault ConfigPrototype :=
  setApnField s .apnUsername username

/-- `set_internal_network_pass(pass)`. -/
def setInternalNetworkPass (pass : CText) : Except ConfigFault ConfigPrototype :=
  setApnField s .apnPassword pass

/-- `set_internal_network_auth_method(method)`. -/
def setInternalNetworkAuthMethod (method : UInt8) : ConfigPrototype :=
  if method < 3 then s.setNumber .apnAuthMethod method else s

/-- A call of a setter. -/
inductive Setter where
  | customAlertTone (en : Bool)
  | automaticCallRecording (mode : UInt8)
  | smsLogging (en : Bool)
  | listAllBypass (en : Bool)
  | internalConnectivity (en : Bool)
  | persistentLogging (en writable : Bool)
  | modemName (name : CText)
  | userName (name : CText)
  | signalTracking (en : Bool)
  | dumpNetworkTables (en : Bool)
  | signalTrackingMode (mode : UInt8)
  | signalTrackingDowngradeNotification (enable : UInt8)
  | signalTrackingCellChangeNotification (mode : UInt8)
  | callWaitingAutohangup (en : UInt8)
  | internalNetworkApnName (apn : CText)
  | internalNetworkUsername (username : CText)
  | internalNetworkPass (pass : CText)
  | internalNetworkAuthMethod (method : UInt8)

/-- What a call does. -/
def set : Setter → Except ConfigFault ConfigPrototype
  | .customAlertTone en => .ok (setCustomAlertTone s en)
  | .automaticCallRecording mode => .ok (setAutomaticCallRecording s mode)
  | .smsLogging en => .ok (setSmsLogging s en)
  | .listAllBypass en => .ok (setListAllBypass s en)
  | .internalConnectivity en => .ok (setInternalConnectivity s en)
  | .persistentLogging en writable => .ok (setPersistentLogging s en writable)
  | .modemName name => .ok (setModemName s name)
  | .userName name => .ok (setUserName s name)
  | .signalTracking en => .ok (enableSignalTracking s en)
  | .dumpNetworkTables en => .ok (enableDumpNetworkTables s en)
  | .signalTrackingMode mode => .ok (setSignalTrackingMode s mode)
  | .signalTrackingDowngradeNotification enable =>
      .ok (setSignalTrackingDowngradeNotification s enable)
  | .signalTrackingCellChangeNotification mode =>
      .ok (setSignalTrackingCellChangeNotification s mode)
  | .callWaitingAutohangup en => .ok (enableCallWaitingAutohangup s en)
  | .internalNetworkApnName apn => setInternalNetworkApnName s apn
  | .internalNetworkUsername username => setInternalNetworkUsername s username
  | .internalNetworkPass pass => setInternalNetworkPass s pass
  | .internalNetworkAuthMethod method => .ok (setInternalNetworkAuthMethod s method)

/-! ## What a setter can do -/

/-- The texts that a setter sets. -/
def settableTexts : List TextField := [.userName, .modemName, .apnAddr, .apnUsername, .apnPassword]

/-- What a call has done: nothing, or it has set a number, or one of the texts. -/
inductive SetterEffect (s t : ConfigPrototype) : Prop where
  | nothing (hsame : t = s)
  | number (field : NumberField) (value : UInt8) (hset : t = s.setNumber field value)
  | text (field : TextField) (value : List UInt8) (hfield : field ∈ settableTexts)
      (hset : t = s.setText field value)

variable {s} {t : ConfigPrototype} {setter : Setter}

theorem set_apn_field_effect {field : TextField} {value : CText} (hfield : field ∈ settableTexts)
    (h : setApnField s field value = .ok t) : SetterEffect s t := by
  unfold setApnField at h
  split at h
  · cases h
  · cases h
    exact .text field _ hfield rfl

theorem set_effect (h : set s setter = .ok t) : SetterEffect s t := by
  cases setter with
  | internalNetworkApnName apn => exact set_apn_field_effect (by decide) h
  | internalNetworkUsername username => exact set_apn_field_effect (by decide) h
  | internalNetworkPass pass => exact set_apn_field_effect (by decide) h
  | modemName name =>
      cases h
      exact .text _ _ (by decide) rfl
  | userName name =>
      cases h
      exact .text _ _ (by decide) rfl
  | signalTrackingMode mode =>
      cases h
      unfold setSignalTrackingMode
      split
      · exact .nothing rfl
      · exact .number _ _ rfl
  | signalTrackingCellChangeNotification mode =>
      cases h
      unfold setSignalTrackingCellChangeNotification
      split
      · exact .nothing rfl
      · exact .number _ _ rfl
  | internalNetworkAuthMethod method =>
      cases h
      unfold setInternalNetworkAuthMethod
      split
      · exact .number _ _ rfl
      · exact .nothing rfl
  | _ =>
      cases h
      exact .number _ _ rfl

/-- No run of setters changes the texts of the IMS client. -/
theorem ims_texts_of_run {garbage : UInt8} {setters : List Setter} {field : TextField}
    (h : Run set Anything (setInitialConfig garbage) setters s) (hfield : field ∉ settableTexts) :
    s.text field = initialText field := by
  refine h.invariant (fun s => s.text field = initialText field) rfl ?_
  intro s setter t hs _ hset
  cases set_effect hset with
  | nothing hsame => rw [hsame, hs]
  | number other value hother => rw [hother, ConfigPrototype.setNumber, hs]
  | text other value hsettable hother =>
      have hne : field ≠ other := by
        intro heq
        exact hfield (heq ▸ hsettable)
      rw [hother, ConfigPrototype.setText, ← hs]
      exact Function.update_of_ne hne value s.text

end OpenQti.Config
