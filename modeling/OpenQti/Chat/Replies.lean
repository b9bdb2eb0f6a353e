import OpenQti.Chat.Commands
import OpenQti.Config.Settings
import OpenQti.Sms.Runtime

/-!
# The replies of the chat

The helpers of `chat_helpers.c`, `scheduler.c` and `wds_client.c` that answer a command, as the
texts they hand to `add_message_to_queue`. A text is what `snprintf` has been asked for: the length
that is handed over is the value it returns, which is the length of the whole text also when the
buffer is too short for it. What the commands do besides answering is left out.

The commands that schedule something are in `OpenQti.Chat.Schedule`.
-/

namespace OpenQti.Chat

open Config Text

/-- A text that is handed to `add_message_to_queue`, with its length. -/
abbrev Reply := List UInt8

/-! ## What the helpers read -/

/-- `struct pkt_stats`. -/
structure PktStats where
  bypassed : UInt32
  empty : UInt32
  discarded : UInt32
  allowed : UInt32
  failed : UInt32
  other : UInt32

/-- `struct nas_report`, as far as it is printed. -/
structure NasReport where
  mcc : UInt16
  mnc : UInt16
  typeOfService : UInt8
  lac : UInt16
  cellId : UInt32
  psc : UInt16
  arfcn : UInt16
  srxLevelMin : Int16
  srxLevelMax : Int16
  rxLevelMin : UInt16
  rxLevelMax : UInt16
  opencellidVerified : UInt8

/-- The types of tasks. -/
inductive TaskType where
  | sms
  | call
  | wakeHost
  | dndClear
  deriving DecidableEq, Repr

/-- `struct task_p`, as far as it is printed. -/
structure Task where
  pending : Bool
  type : TaskType
  execTime : Int
  arguments : List UInt8

/-- `struct sysinfo`, as far as it is printed; a `long` has 32 bits. -/
structure Sysinfo where
  uptime : UInt32
  totalram : UInt32
  freeram : UInt32
  sharedram : UInt32
  bufferram : UInt32
  procs : UInt16

/-- Everything that an answer depends on besides the command. A text of the settings ends within its
array. Files are `none` if they cannot be opened. -/
structure ChatEnv where
  config : ConfigPrototype
  textsFit : ∀ field, (config.text field).length < textSize field
  /-- `cmd_history` and `cmd_position`. -/
  history : Nat → UInt8
  cmdPosition : Nat
  /-- The bytes that `lowercase_cmd` and the number buffer of `get_int_from_str` find on the
  stack. -/
  stack : Nat → UInt8
  numberTail : List UInt8
  sysinfo : Sysinfo
  hour : Fin 24
  minute : Fin 60
  second : Fin 61
  loadAvg : Option (List UInt8)
  suspendState : Int32
  rmnetStats : PktStats
  gpsStats : PktStats
  openqtiLog : Option (List UInt8)
  kernelLog : Option (List UInt8)
  thankYou : Option (List (List UInt8))
  dictionary : Option (List UInt8)
  dirtyReconnects : UInt8
  networkType : UInt8
  signalStrength : UInt8
  cellReport : NasReport
  tasks : List Task
  curTime : Int
  /-- The versions that `cmd_get_sw_version` prints. -/
  versions : List (List UInt8)
  adbEnabled : Bool
  usbAudio : Bool
  /-- The outcomes of `record_current_call`, `send_at_command`, `remove_task` and `add_task`. -/
  callInProgress : Bool
  broadcastSet : Bool
  taskRemoved : Int → Bool
  taskAdded : Bool
  /-- `wds_runtime.in_progress`, and whether `wds_runtime.pkt_data_handle` is not 0. -/
  networkInProgress : Bool
  networkRunning : Bool

variable (env : ChatEnv)

/-- `get_rt_user_name()`. -/
def ChatEnv.userName : List UInt8 := env.config.text .userName

/-- `get_rt_modem_name()`. -/
def ChatEnv.modemName : List UInt8 := env.config.text .modemName

/-- The setting is 1. -/
def ChatEnv.isOn (field : NumberField) : Bool := env.config.number field = 1

/-! ## Fixed answers -/

/-- `set_message_response(command_id, buff)`. -/
def setMessageResponse (id : CommandId) : Reply := sprintf "%s\n" [cmdTextOf id]

/-- `cmd_set_cb_broadcast(en)`. -/
def cmdSetCbBroadcast (en : Bool) : List Reply :=
  if en then
    if env.broadcastSet then [sprintf "Enabling Cell broadcast messages\n" []]
    else [sprintf "Failed to enable cell broadcasting messages\n" []]
  else if env.broadcastSet then [sprintf "Disabling Cell broadcast messages\n" []]
  else [sprintf "Failed to disable cell broadcasting messages\n" []]

/-- `wds_chat_ifup_down(start)`. -/
def wdsChatIfupDown (start : Bool) : List Reply :=
  if start ∧ !env.networkInProgress ∧ !env.networkRunning then
    [sprintf "Attempting to start the network" []]
  else if start then [sprintf "Can't start netwotk, already running or connecting!" []]
  else if env.networkRunning then [sprintf "Stopping network..." []]
  else [sprintf "Can't stop network, it wasn't running!" []]

/-- `cmd_clear_internal_networking_auth()`. -/
def cmdClearInternalNetworkingAuth : List Reply := [sprintf "APN Auth data cleared\n" []]

/-- The warning that the call recording commands append. -/
def storageWarning : Reply :=
  if env.config.number .persistentLogging = 0 then
    sprintf "WARNING: Saving to ram, will be lost on reboot.\n" []
  else []

/-- The answers to `CMD_ID_ACTION_RECORD_CALLS_AND_RECYCLE` and `CMD_ID_ACTION_RECORD_CALLS_ALL`. -/
def recordCallsReplies (id : CommandId) : List Reply :=
  [setMessageResponse id ++ storageWarning env,
    sprintf "NOTICE: Call recording can be forbidden in some jurisdictions. Please check https://en.wikipedia.org/wiki/Telephone_call_recording_laws for more details\n" []]

/-- The answer to `CMD_ID_ACTION_RECORD_CALL_CURRENT`. -/
def recordCurrentCallReplies : List Reply :=
  if env.callInProgress then
    [sprintf "%s\n" [cmdTextOf .actionRecordCallCurrent] ++ storageWarning env]
  else [sprintf "There is no call in progress!\n" []]

/-! ## Answers with numbers -/

/-- The answer to `CMD_ID_GET_USB_SUSPEND_STATE`. -/
def usbSuspendReplies : List Reply :=
  [sprintf "USB Suspend state: %i\n" [signed env.suspendState.toInt]]

/-- The answer to `CMD_ID_GET_RECONNECTS`. -/
def reconnectsReplies : List Reply :=
  [sprintf "%s: %i\n" [cmdTextOf .getReconnects, decimal env.dirtyReconnects.toNat]]

/-- A counter of `struct pkt_stats`, which is printed with `%i`. -/
def counter (n : UInt32) : List UInt8 := signed n.toInt32.toInt

/-- `cmd_get_rmnet_stats()`. -/
def cmdGetRmnetStats : List Reply :=
  [sprintf "RMNET IF stats:\nBypassed: %i\nEmpty:%i\nDiscarded:%i\nFailed:%i\nAllowed:%i"
    [counter env.rmnetStats.bypassed, counter env.rmnetStats.empty,
      counter env.rmnetStats.discarded, counter env.rmnetStats.failed,
      counter env.rmnetStats.allowed]]

/-- `cmd_get_gps_stats()`. -/
def cmdGetGpsStats : List Reply :=
  [sprintf "GPS IF stats:\nBypassed: %i\nEmpty:%i\nDiscarded:%i\nFailed:%i\nAllowed:%i\nQMI Location svc.: %i"
    [counter env.gpsStats.bypassed, counter env.gpsStats.empty, counter env.gpsStats.discarded,
      counter env.gpsStats.failed, counter env.gpsStats.allowed, counter env.gpsStats.other]]

/-- `cmd_get_memory()`. -/
def cmdGetMemory : List Reply :=
  [sprintf "Memory stats:\nTotal:%luM\nFree:%luM\nShared:%luK\nBuffer:%luK\nProcs:%i\n"
    [decimal (env.sysinfo.totalram / 1024 / 1024).toNat,
      decimal (env.sysinfo.freeram / 1024 / 1024).toNat,
      decimal (env.sysinfo.sharedram / 1024).toNat, decimal (env.sysinfo.bufferram / 1024).toNat,
      decimal env.sysinfo.procs.toNat]]

/-- `network_types`. -/
def networkTypes : List String :=
  ["Unknown", "CDMA", "EVDO", "AMPS", "GSM", "UMTS", "Error", "Error", "LTE"]

/-- `cmd_render_gsm_signal_data()`. -/
def cmdRenderGsmSignalData : List Reply :=
  let network :=
    if env.networkType ≤ 8 then
      sprintf "%s\n" [ascii (networkTypes.getD env.networkType.toNat "")]
    else sprintf "Unknown (0x%.2x)\n" [padded 2 48 (hexadecimal env.networkType.toNat)]
  [sprintf "Network type: " [] ++ network ++
    sprintf "Signal strength: -%i dBm\n" [decimal env.signalStrength.toNat]]

/-- The line of `cmd_dump_signal_report` for the type of the network; other types have none. -/
def networkLine (typeOfService : UInt8) : List UInt8 :=
  if typeOfService = 0x01 then sprintf "Current Network: GSM\n" []
  else if typeOfService = 0x05 then sprintf "Current Network: UMTS\n" []
  else if typeOfService = 0x0b then sprintf "Current Network: LTE\n" []
  else if typeOfService = 0x0e then sprintf "Current Network: 5G\n" []
  else []

/-- The text of `cmd_dump_signal_report` for a report that has been retrieved. -/
def signalReport (report : NasReport) : Reply :=
  sprintf "MCC: %i MNC: %i\n" [decimal report.mcc.toNat, decimal report.mnc.toNat] ++
    networkLine report.typeOfService ++
    sprintf "Cell: %.8x\n" [padded 8 48 (hexadecimal report.cellId.toNat)] ++
    sprintf "Location Area Code: %.4x\n" [padded 4 48 (hexadecimal report.lac.toNat)] ++
    sprintf "(E/)ARFCN %u\n" [decimal report.arfcn.toNat] ++
    sprintf "SRX Level (min) %i dBm\n" [signed report.srxLevelMin.toInt] ++
    sprintf "SRX Level (max) %i dBm\n" [signed report.srxLevelMax.toInt] ++
    sprintf "RX Level (min) %u\n" [decimal report.rxLevelMin.toNat] ++
    sprintf "RX Level (max) %u\n" [decimal report.rxLevelMax.toNat] ++
    sprintf "PSC (umts) %.4x\n" [padded 4 48 (hexadecimal report.psc.toNat)] ++
    sprintf "Verified? %s" [if report.opencellidVerified = 1 then ascii "Yes" else ascii "No"]

/-- `cmd_dump_signal_report()`. -/
def cmdDumpSignalReport : List Reply :=
  if env.cellReport.mcc = 0 then
    [sprintf "Serving cell report has not been retrieved yet or is invalid\n" []]
  else [signalReport env.cellReport]

/-! ## Answers with names -/

/-- The answer to `CMD_ID_GET_NAME`. -/
def nameReplies : List Reply := [sprintf "%s %s\n" [cmdTextOf .getName, env.modemName]]

/-- The answer to `CMD_ID_GET_OWNER_NAME`. -/
def ownerNameReplies : List Reply := [sprintf "%s %s\n" [cmdTextOf .getOwnerName, env.userName]]

/-- `cmd_get_uptime()`. -/
def cmdGetUptime : List Reply :=
  let uptime := env.sysinfo.uptime.toNat
  let updays := uptime / 86400
  let uphours := uptime / 60 / 60 % 24
  let upminutes := uptime / 60 % 60
  let days :=
    if updays ≠ 0 then
      sprintf "%u day%s, " [decimal updays, if updays ≠ 1 then ascii "s" else ascii ""]
    else []
  let hours :=
    if uphours ≠ 0 then
      sprintf "%2u:%02u" [padded 2 32 (decimal uphours), padded 2 48 (decimal upminutes)]
    else sprintf "%u min" [decimal upminutes]
  [sprintf "Hi %s, %s:\n" [env.userName, cmdTextOf .getUptime] ++
    sprintf "%02u:%02u:%02u up "
      [padded 2 48 (decimal env.hour), padded 2 48 (decimal env.minute),
        padded 2 48 (decimal env.second)] ++
    days ++ hours]

/-- `cmd_get_load_avg()`. -/
def cmdGetLoadAvg : List Reply :=
  match env.loadAvg with
  | none => []
  | some output => [sprintf "Hi %s, %s:\n %s\n" [env.userName, cmdTextOf .getLoadavg, output]]

/-- `cmd_get_sw_version()`. -/
def cmdGetSwVersion : List Reply :=
  [(sprintf "FW Ver:%s\nADSP Ver:%s\nSerial:%s\nHW Rev:%s\nRev:%s\nModel:%s\n"
    (ascii "0.8.0" :: env.versions)).take 159]

/-- `get_signal_tracking_mode_text()`. -/
def signalTrackingModeText : List UInt8 :=
  if env.config.number .signalTrackingMode = 0 then ascii "Standalone/Learn"
  else if env.config.number .signalTrackingMode = 1 then ascii "Standalone/Strict"
  else if env.config.number .signalTrackingNotifyCellChange = 2 then ascii "OpenCellid/Learn"
  else ascii "unknown"

/-- `get_signal_tracking_cell_change_notification_mode_text()`. -/
def cellChangeNotificationModeText : List UInt8 :=
  if env.config.number .signalTrackingNotifyCellChange = 0 then ascii "none"
  else if env.config.number .signalTrackingNotifyCellChange = 1 then ascii "new cells"
  else if env.config.number .signalTrackingNotifyCellChange = 2 then ascii "any"
  else ascii "unknown"

/-- `cond ? "On" : "Off"`. -/
def onOff (on : Bool) : List UInt8 := if on then ascii "On" else ascii "Off"

/-- `cond ? "Yes" : "No"`. -/
def yesNo (yes : Bool) : List UInt8 := if yes then ascii "Yes" else ascii "No"

/-- The first message of `cmd_get_running_config`. -/
def systemConfig : Reply :=
  sprintf "System\n- Name: %s\n- Owner: %s\n- Persistent storage: %s\n- ADB: %s\n- Audio mode: %s\n"
    [env.modemName, env.userName, onOff (env.isOn .persistentLogging), onOff env.adbEnabled,
      if env.usbAudio then ascii "USB" else ascii "Internal"]

/-- The second message of `cmd_get_running_config`. -/
def userConfig : Reply :=
  sprintf "User Data:\n- Auto call recording: %s\n- Call Wait behaviour: %s\n- Custom Alert tones: %s\n- SMS Logging: %s\n- Boot time message recovery: %s\n"
    [yesNo (env.isOn .automaticCallRecording),
      if env.isOn .callwaitAutohangup then ascii "Ignore" else ascii "Reject",
      yesNo (env.isOn .customAlertTone), yesNo (env.isOn .smsLogging),
      yesNo (env.isOn .listAllBypass)]

/-- The third message of `cmd_get_running_config`. -/
def trackingConfig : Reply :=
  sprintf "Signal tracking:\n- Status: %s\n- Mode: %s\n- Notify net. downgrade: %s\n- Notify cell changes: %s\n- Save csv files with network data: %s\n"
    [onOff (env.isOn .signalTracking), signalTrackingModeText env,
      yesNo (env.isOn .signalTrackingNotifyDowngrade), cellChangeNotificationModeText env,
      yesNo (env.isOn .dumpNetworkTables)]

/-- The fourth message of `cmd_get_running_config`. The last text is the password again. -/
def networkConfig : Reply :=
  sprintf "Internal Networking\n- Status: %s\n- APN: %s\n- User: %s\n- Pass: %s\n- Auth: %s\n"
    [onOff (env.isOn .allowInternalModemConnectivity), env.config.text .apnAddr,
      env.config.text .apnUsername, env.config.text .apnPassword, env.config.text .apnPassword]

/-- `cmd_get_running_config()`. -/
def cmdGetRunningConfig : List Reply :=
  [systemConfig env, userConfig env, trackingConfig env, networkConfig env]

/-! ## Answers in pieces -/

/-- The pieces that a text is sent in. -/
def pieces (size : Nat) (text : List UInt8) : List Reply :=
  if text = [] ∨ size = 0 then [] else text.take size :: pieces size (text.drop size)
termination_by text.length
decreasing_by
  have hpos : 0 < text.length := List.length_pos_iff.2 (by tauto)
  simp only [List.length_drop]
  omega

/-- The text of `cmd_get_help`. -/
def fullHelpMsg : List UInt8 :=
  sprintf "Welcome to the modem distro!\nYou can use the chat to view and change a lot of settings\nHere's a list of what you can do:\n" [] ++
    cmdCategories.flatMap fun category =>
      sprintf "Category: %s\n" [ascii category.2] ++
        (botCommands.filter fun entry => entry.category = category.1).flatMap fun entry =>
          sprintf (if entry.isPartial then "%s x: %s\n" else "%s: %s\n")
            [ascii entry.cmd, ascii entry.help]

/-- `MAX_MESSAGE_SIZE_HEADROOM_GSM7`. -/
def maxMessageSizeHeadroomGsm7 : Nat := 140

/-- `cmd_get_help()`. -/
def cmdGetHelp : List Reply := pieces maxMessageSizeHeadroomGsm7 fullHelpMsg

/-- `cmd_get_openqti_log()`. -/
def cmdGetOpenqtiLog : List Reply :=
  match env.openqtiLog with
  | none => []
  | some file => sprintf "OpenQTI Log\n" [] :: pieces (Sms.maxMessageSize - 2) file

/-- `cmd_get_kernel_log()`, which starts from as many bytes before the end as the queue can
hold. -/
def cmdGetKernelLog : List Reply :=
  match env.kernelLog with
  | none => []
  | some file =>
      sprintf "DMESG:\n" [] ::
        pieces (Sms.maxMessageSize - 2)
          (file.drop (file.length - Sms.maxMessageSize * Sms.queueSize))

/-- The loop over the lines of `thankyou.txt`, with the text and the counter it has come to. -/
def thankYouLoop (text : List UInt8) (i : Nat) : List (List UInt8) → List Reply
  | [] => if text = [] then [] else [text]
  | line :: lines =>
      let text := text ++ sprintf "%s" [line]
      if i > 15 ∨ text.length > 140 then text :: thankYouLoop [] 1 lines
      else thankYouLoop text (i + 1) lines

/-- The lines of `thankyou.txt`, in messages. -/
def thankYouFile : List Reply :=
  match env.thankYou with
  | none => []
  | some lines => thankYouLoop [] 0 lines

/-- `cmd_thank_you()`. -/
def cmdThankYou : List Reply :=
  [sprintf "Hi, my name is %s and I'm at version %s\n" [env.modemName, ascii "0.8.0"],
    sprintf "    .-.     .-.\n .****. .****.\n.*****.*****. Thank\n  .*********.    You\n    .*******.\n     .*****.\n       .***.\n          *\n" [],
    sprintf "Thank you for using me!\n And, especially, for all of you..." []] ++
  thankYouFile env ++
  [sprintf "Thank you for supporting my development and improving me every day, I wouldn't have a purpose without you all!" []]

/-- The loop over the command history, with the text it has come to. -/
def historyLoop (text : List UInt8) : List UInt8 → Reply
  | [] => text
  | id :: ids =>
      if text.length < Sms.maxMessageSize then
        historyLoop (text ++ sprintf "%i " [decimal id.toNat]) ids
      else historyLoop text ids

/-- The entries of the history. -/
def ChatEnv.historyEntries : List UInt8 := (List.range env.cmdPosition).map env.history

/-- The answer to `CMD_ID_GET_HISTORY`. The loop variable has 8 bits, so with more than 255 entries
the loop does not end, and nothing is handed over. -/
def historyReplies : List Reply :=
  if env.cmdPosition ≤ 255 then [historyLoop [] env.historyEntries] else []

/-- `qmi_services`. -/
def qmiServices : List (UInt8 × String) :=
  [(0x00, "Control service"), (0x01, "Wireless Data Service"),
    (0x02, "Device Management Service"), (0x03, "Network Access Service"),
    (0x04, "Quality Of Service service"), (0x05, "Wireless Messaging Service"),
    (0x06, "Position Determination Service"), (0x07, "Authentication service"),
    (0x08, "AT service"), (0x09, "Voice service"),
    (0x0a, "Card Application Toolkit service (v2)"), (0x0b, "User Identity Module service"),
    (0x0c, "Phonebook Management service"), (0x0d, "QCHAT service"),
    (0x0e, "Remote file system service"), (0x0f, "Test service"),
    (0x10, "Location service (~ PDS v2)"), (0x11, "Specific absorption rate service"),
    (0x12, "IMS settings service"), (0x13, "Analog to digital converter driver service"),
    (0x14, "Core sound driver service"), (0x15, "Modem embedded file system service"),
    (0x16, "Time service"), (0x17, "Thermal sensors service"),
    (0x18, "Thermal mitigation device service"), (0x19, "Service access proxy service"),
    (0x1a, "Wireless data administrative service"), (0x1b, "TSYNC control service"),
    (0x1c, "Remote file system access service"),
    (0x1d, "Circuit switched videotelephony service"),
    (0x1e, "Qualcomm mobile access point service"), (0x1f, "IMS presence service"),
    (0x20, "IMS videotelephony service"), (0x21, "IMS application service"),
    (0x22, "Coexistence service"), (0x23, "UNKNOWN SERVICE"),
    (0x24, "Persistent device configuration service"), (0x25, "UNKNOWN SERVICE"),
    (0x26, "Simultaneous transmit service"), (0x27, "Bearer independent transport service"),
    (0x28, "IMS RTP service"), (0x29, "RF radiated performance enhancement service"),
    (0x2a, "Data system determination service"), (0x2b, "Subsystem control service"),
    (0x2c, "Modem external Filesystem service"), (0x2d, "MDM Scrubber service"),
    (0x2e, "UNKNOWN Service"), (0x2f, "Data Port Mapper service"), (0x30, "Data filter service"),
    (0x31, "IPA control service"), (0x32, "UIM remote service"),
    (0x33, "CoreSight remote tracing service"), (0x34, "Dynamic Heap Memory Sharing"),
    (0x35, "Subsystem control...request?"), (0x36, "Flow control management"),
    (0x37, "Sensor location interface"), (0x38, "lowi (location over wlan) service"),
    (0x3c, "Health monitor"), (0x3d, "Filesystem service"),
    (0x40, "Service registry locator service"), (0x42, "Service registry notification service"),
    (0x43, "Bandwidth limit manager"), (0x44, "OTT"), (0x45, "ATH10k WLAN firmware service"),
    (0x46, "LTE service"), (0x47, "UIM http service"), (0x48, "Non IP data service"),
    (0x4a, "Antenna switch service"), (0xe0, "Card Application Toolkit service (v1)"),
    (0xe1, "Remote Management Service"),
    (0xe2, "Open Mobile Alliance device management service")]

/-- The loop of `CMD_ID_GET_KNOWN_QMI_SERVICES`, with the text it has come to. -/
def servicesLoop (text : List UInt8) : List (UInt8 × String) → List Reply
  | [] => [text]
  | (service, name) :: services =>
      let line := sprintf "%u: %s\n" [decimal service.toNat, ascii name]
      if (ascii name).length + 3 + (ascii name).length + text.length > Sms.maxMessageSize then
        text :: servicesLoop line services
      else servicesLoop (text ++ line) services

/-- The answer to `CMD_ID_GET_KNOWN_QMI_SERVICES`. The length of the title is not kept. -/
def knownQmiServicesReplies : List Reply := [] :: servicesLoop [] qmiServices

/-- The minutes until a task is due, as they are printed. -/
def minutesToExec (task : Task) : List UInt8 := signed ((task.execTime - env.curTime).tdiv 60)

/-- The text of `dump_pending_tasks` for task `i`. A task of a type that is not printed is answered
with the length of the text before it. -/
def taskText (i : Nat) (text : List UInt8) (task : Task) : Reply :=
  match task.type with
  | .call =>
      sprintf "Task %i:\n Call me (%ld min to exec): args: %s"
        [decimal i, minutesToExec env task, task.arguments]
  | .sms =>
      sprintf "Task %i:\n Text me (%ld min to exec): args: %s"
        [decimal i, minutesToExec env task, task.arguments]
  | .wakeHost =>
      sprintf "Task %i:\n Wake host up (%ld min to exec)" [decimal i, minutesToExec env task]
  | .dndClear => text

/-- The loop of `dump_pending_tasks` from task `i` on, with the text it has printed last. -/
def pendingTasksLoop (i : Nat) (text : List UInt8) : List Task → List Reply
  | [] => []
  | task :: tasks =>
      if task.pending then
        taskText env i text task :: pendingTasksLoop (i + 1) (taskText env i text task) tasks
      else pendingTasksLoop (i + 1) text tasks

/-- `dump_pending_tasks()`. -/
def dumpPendingTasks : List Reply :=
  if env.tasks.any (·.pending) then pendingTasksLoop env 0 [] env.tasks
  else [sprintf "There are no pending tasks!" []]

/-! ## Answers to commands with arguments -/

/-- The arguments of a partial command: what follows it in the text. `none` if the text only matches
in lower case, and an empty text if nothing follows. -/
def arguments (id : CommandId) (command : List UInt8) : Option (List UInt8) :=
  (strstr (cmdOf id) command).map fun offset => command.drop (offset + (cmdOf id).length)

/-- What the commands with arguments share: an error if the command is not found, and nothing if it
has no arguments. -/
def withArguments (id : CommandId) (command : List UInt8) (error : Reply)
    (reply : List UInt8 → Reply) : Reply :=
  match arguments id command with
  | none => error
  | some [] => []
  | some args => reply args

/-- `cmd_set_custom_modem_name(command)`. -/
def cmdSetCustomModemName (command : List UInt8) : List Reply :=
  [withArguments .setModemName command (sprintf "Error setting my new name\n" []) fun args =>
    sprintf "My name is now %s\n" [args.take 31]]

/-- `cmd_set_custom_user_name(command)`. -/
def cmdSetCustomUserName (command : List UInt8) : List Reply :=
  [withArguments .setOwnerName command (sprintf "Error setting your new name\n" []) fun args =>
    sprintf "I will call you %s from now on\n" [args.take 31]]

/-- `get_qmi_service_name(service)`. -/
def getQmiServiceName (service : UInt8) : List UInt8 :=
  match qmiServices.find? fun entry => entry.1 = service with
  | some entry => ascii entry.2
  | none => ascii "Unknown QMI Service"

/-- `cmd_enable_service_debugging_for_service_id(command)`. -/
def cmdEnableServiceDebuggingForServiceId (command : List UInt8) : List Reply :=
  [withArguments .debugEnableServiceLogging command
    (sprintf "Error trying to find a matching ID\n" []) fun args =>
      let service := UInt8.ofInt (atoi args)
      sprintf "Enabling debugging of service id %u (%s) \n"
        [decimal service.toNat, getQmiServiceName service]]

/-- The modes of `cmd_set_new_signal_tracking_mode`. -/
def signalTrackingModes : List (List UInt8) :=
  [ascii "0:Standalone learn", ascii "1:Standalone enforce", ascii "2:OpenCellID learn",
    ascii "3:OpenCellID enforce"]

/-- `cmd_set_new_signal_tracking_mode(command)`. -/
def cmdSetNewSignalTrackingMode (command : List UInt8) : List Reply :=
  [withArguments .actionSetStMode command (sprintf "Error processing the command\n" []) fun args =>
    let mode := UInt8.ofInt (atoi args)
    if mode < 4 then
      sprintf "Signal Tracking mode changed: %s\n" [signalTrackingModes.getD mode.toNat []]
    else
      sprintf "Available modes for signal tracking:\n%s\n%s\n%s\n%s\nYour choice: %u\n"
        (signalTrackingModes ++ [decimal mode.toNat])]

/-- `cmd_delete_task(command)`. -/
def cmdDeleteTask (command : List UInt8) : List Reply :=
  [withArguments .actionDeleteTask command (sprintf "Command mismatch!\n" []) fun args =>
    if env.taskRemoved (atoi args) then sprintf "Removed task %i \n" [signed (atoi args)]
    else sprintf "Remove task %i failed: It doesn't exist!\n" [signed (atoi args)]]

/-- What the three settings of the internal network share: an error, or the new text, or nothing. -/
def networkTextReplies (id : CommandId) (command : List UInt8) (error : Reply)
    (reply : List UInt8 → Reply) : List Reply :=
  match arguments id command with
  | none => [error]
  | some [] => []
  | some args => [reply (args.take 127)]

/-- `cmd_configure_new_apn(command)`. -/
def cmdConfigureNewApn (command : List UInt8) : List Reply :=
  networkTextReplies .actionInternalNetworkSetApn command
    (sprintf "Error setting internal APN name \n" []) fun apn =>
      sprintf "Setting internal APN name to %s\n" [apn]

/-- `cmd_configure_apn_username(command)`. -/
def cmdConfigureApnUsername (command : List UInt8) : List Reply :=
  networkTextReplies .actionInternalNetworkSetUser command
    (sprintf "Error setting APN username \n" []) fun user =>
      sprintf "Setting internal APN username to %s\n" [user]

/-- `cmd_configure_apn_password(command)`. -/
def cmdConfigureApnPassword (command : List UInt8) : List Reply :=
  networkTextReplies .actionInternalNetworkSetPass command
    (sprintf "Error setting APN password \n" []) fun pass =>
      sprintf "Setting internal APN password to %s\n" [pass]

/-- What the two settings by a word share. -/
def wordReplies (id : CommandId) (command : List UInt8) (words : List (List UInt8))
    (changed : List UInt8 → Reply) (unknown : Reply) : List Reply :=
  let word := ((arguments id command).getD []).take 127
  [if word ∈ words then changed word else unknown]

/-- `cmd_configure_internal_network_auth_method(command)`. -/
def cmdConfigureInternalNetworkAuthMethod (command : List UInt8) : List Reply :=
  wordReplies .actionInternalNetworkSetAuthMethod command
    [ascii "none", ascii "pap", ascii "chap", ascii "auto"]
    (fun word => sprintf "Auth mode changed: %s \n" [word]) (sprintf "Unknown auth mode!\n" [])

/-- `cmd_configure_signal_tracking_cell_notification(command)`. -/
def cmdConfigureSignalTrackingCellNotification (command : List UInt8) : List Reply :=
  wordReplies .actionSetStNotificationLevel command [ascii "none", ascii "new", ascii "all"]
    (fun word => sprintf "Cell ID change notificaitons: %s \n" [word])
    (sprintf "Unknown Cell ID change notification mode!\n" [])

/-- The tokens of a line of the dictionary. -/
def dictionaryTokens : Nat → List UInt8 → List (List UInt8)
  | 0, _ => []
  | fuel + 1, line =>
      match strtok (· = 58) line with
      | none => []
      | some (token, rest) => token :: dictionaryTokens fuel rest

/-- The definition that `cmd_find_dictionary_entry` finds: the fourth token of the first line with
the word for its third token. -/
def findDefinition (word : List UInt8) : List (List UInt8) → Option (List UInt8)
  | [] => none
  | line :: lines =>
      let tokens := dictionaryTokens (line.length + 1) line
      if tokens[2]? = some word then tokens[3]? else findDefinition word lines

/-- The messages of a definition: all but the last one are 159 bytes and a terminator. -/
def definitionPieces (definition : List UInt8) : List Reply :=
  if definition.length > Sms.maxMessageSize then
    (definition.take 159 ++ [0]) :: definitionPieces (definition.drop 159)
  else if definition = [] then [] else [definition]
termination_by definition.length
decreasing_by
  simp only [List.length_drop, Sms.maxMessageSize] at *
  omega

/-- `cmd_find_dictionary_entry(word)`. -/
def cmdFindDictionaryEntry (word : List UInt8) : List Reply :=
  match env.dictionary with
  | none => []
  | some file =>
      match findDefinition word (fgetsLines 32767 [] file) with
      | some definition => definitionPieces definition
      | none => [sprintf "I don't know what '%s' means :(\n" [word]]

/-- `cmd_search_dictionary_entry(command)`. -/
def cmdSearchDictionaryEntry (command : List UInt8) : List Reply :=
  match arguments .define command with
  | none => []
  | some [] => []
  | some args => cmdFindDictionaryEntry env (args.take 127)

/-- The answer to a command that is not in the table. -/
def unknownCommandReplies (command : List UInt8) : List Reply :=
  [sprintf "Sorry %s, I don't understand the command '%s'\n" [env.userName, command]]

end OpenQti.Chat
