import OpenQti.Chat.Dispatch
import OpenQti.Chat.ReplyLengths
import OpenQti.Sms.Handed

/-!
# What the chat hands to the queue

`parse_command` with all its helpers, as the calls that append messages, and the three sources of
messages together: a chat command, a cell broadcast packet and a message that the baseband has kept.
`queue_writes_inside_iff` says exactly when all calls stay inside their entries.

The lengths are the values `snprintf` returns, so that a text which has been cut still counts in
full. What makes them too long are names, arguments and files that are longer than the buffers were
made for, and the report on the serving cell, which is always too long.
-/

namespace OpenQti.Chat

open Bytes Sms Text

/-! ## The sample packets -/

/-- The packets of `cmd_debug_gsm7_cb_message`. -/
def gsm7Samples : List (List UInt8) :=
  [[0x01, 0x73, 0x00, 0x80, 0x05, 0x01, 0x04, 0x02, 0x00, 0x01, 0x00, 0x67, 0x00, 0x11, 0x60,
      0x00, 0x00, 0xff, 0xff, 0xff, 0xff, 0x07, 0x58, 0x00, 0x40, 0x00, 0x11, 0x1c, 0x00, 0x16,
      0xc4, 0x64, 0x71, 0x0a, 0x4a, 0x4e, 0xa9, 0xa0, 0x62, 0xd2, 0x59, 0x04, 0x15, 0xa5, 0x50,
      0xe9, 0x53, 0x58, 0x75, 0x1e, 0x15, 0xc4, 0xb4, 0x0b, 0x24, 0x93, 0xb9, 0x62, 0x31, 0x97,
      0x0c, 0x26, 0x93, 0x81, 0x5a, 0xa0, 0x98, 0x4d, 0x47, 0x9b, 0x81, 0xaa, 0x68, 0x39, 0xa8,
      0x05, 0x22, 0x86, 0xe7, 0x20, 0xa1, 0x70, 0x09, 0x2a, 0xcb, 0xe1, 0xf2, 0xb7, 0x98, 0x0e,
      0x22, 0x87, 0xe7, 0x20, 0x77, 0xb9, 0x5e, 0x06, 0x21, 0xc3, 0x6e, 0x72, 0xbe, 0x75, 0x0d,
      0xcb, 0xdd, 0xad, 0x69, 0x7e, 0x4e, 0x07, 0x16, 0x01, 0x00, 0x00],
    [0x01, 0x73, 0x00, 0x80, 0x05, 0x01, 0x04, 0x03, 0x00, 0x01, 0x00, 0x67, 0x00, 0x11, 0x60,
      0x00, 0x00, 0xff, 0xff, 0xff, 0xff, 0x07, 0x58, 0x00, 0x40, 0x00, 0x11, 0x1c, 0x00, 0x26,
      0xe5, 0x36, 0x28, 0xed, 0x06, 0x25, 0xd1, 0xf2, 0xb2, 0x1c, 0x24, 0x2d, 0x9f, 0xd3, 0x6f,
      0xb7, 0x0b, 0x54, 0x9c, 0x83, 0xc4, 0xe5, 0x39, 0xbd, 0x8c, 0xa6, 0x83, 0xd6, 0xe5, 0xb4,
      0xbb, 0x0c, 0x3a, 0x96, 0xcd, 0x61, 0xb4, 0xdc, 0x05, 0x12, 0xa6, 0xe9, 0xf4, 0x32, 0x28,
      0x7d, 0x76, 0xbf, 0xe5, 0xe9, 0xb2, 0xbc, 0xec, 0x06, 0x4d, 0xd3, 0x65, 0x10, 0x39, 0x5d,
      0x06, 0x39, 0xc3, 0x63, 0xb4, 0x3c, 0x3d, 0x46, 0xd3, 0x5d, 0xa0, 0x66, 0x19, 0x2d, 0x07,
      0x25, 0xdd, 0xe6, 0xf7, 0x1c, 0x64, 0x06, 0x16, 0x01, 0x00, 0x00],
    [0x01, 0x73, 0x00, 0x80, 0x05, 0x01, 0x04, 0x04, 0x00, 0x01, 0x00, 0x67, 0x00, 0x11, 0x60,
      0x00, 0x00, 0xff, 0xff, 0xff, 0xff, 0x07, 0x58, 0x00, 0x40, 0x00, 0x11, 0x1c, 0x00, 0x36,
      0x69, 0x37, 0xb9, 0xec, 0x06, 0x4d, 0xd3, 0x65, 0x50, 0xdd, 0x4d, 0x2f, 0xcb, 0x41, 0x68,
      0x3a, 0x1d, 0xae, 0x7b, 0xbd, 0xee, 0xf7, 0xbb, 0x4b, 0x2c, 0x5e, 0xbb, 0xc4, 0x75, 0x37,
      0xd9, 0x45, 0x2e, 0xbf, 0xc6, 0x65, 0x36, 0x5b, 0x2c, 0x7f, 0x87, 0xc9, 0xe3, 0xf0, 0x9c,
      0x0e, 0x12, 0x82, 0xa6, 0x6f, 0x36, 0x9b, 0x5e, 0x76, 0x83, 0xa6, 0xe9, 0x32, 0x88, 0x9c,
      0x2e, 0xcf, 0xcb, 0x20, 0x67, 0x78, 0x8c, 0x96, 0xa7, 0xc7, 0x68, 0x3a, 0xa8, 0x2c, 0x47,
      0x87, 0xd9, 0xf4, 0xb2, 0x9b, 0x05, 0x02, 0x16, 0x01, 0x00, 0x00],
    [0x01, 0x73, 0x00, 0x80, 0x05, 0x01, 0x04, 0x05, 0x00, 0x01, 0x00, 0x67, 0x00, 0x11, 0x60,
      0x00, 0x00, 0xff, 0xff, 0xff, 0xff, 0x07, 0x58, 0x00, 0x40, 0x00, 0x11, 0x1c, 0x00, 0x46,
      0xf3, 0x37, 0xc8, 0x5e, 0x96, 0x9b, 0xfd, 0x67, 0x3a, 0x28, 0x89, 0x96, 0x83, 0xa6, 0xed,
      0xb0, 0x9c, 0x0e, 0x47, 0xbf, 0xdd, 0x65, 0xd0, 0xf9, 0x6c, 0x76, 0x81, 0xdc, 0xe9, 0x31,
      0x9a, 0x0e, 0xf2, 0x8b, 0xcb, 0x72, 0x10, 0xb9, 0xec, 0x06, 0x85, 0xd7, 0xf4, 0x7a, 0x99,
      0xcd, 0x2e, 0xbb, 0x41, 0xd3, 0xb7, 0x99, 0x7e, 0x0f, 0xcb, 0xcb, 0x73, 0x7a, 0xd8, 0x4d,
      0x76, 0x81, 0xae, 0x69, 0x39, 0xa8, 0xdc, 0x86, 0x9b, 0xcb, 0x68, 0x76, 0xd9, 0x0d, 0x22,
      0x87, 0xd1, 0x65, 0x39, 0x0b, 0x94, 0x04, 0x16, 0x01, 0x00, 0x00],
    [0x01, 0x73, 0x00, 0x80, 0x05, 0x01, 0x04, 0x06, 0x00, 0x01, 0x00, 0x67, 0x00, 0x11, 0x60,
      0x00, 0x00, 0xff, 0xff, 0xff, 0xff, 0x07, 0x58, 0x00, 0x40, 0x00, 0x11, 0x1c, 0x00, 0x56,
      0x68, 0x39, 0xa8, 0xe8, 0x26, 0x9f, 0xcb, 0xf2, 0x3d, 0x1d, 0x14, 0xae, 0x9b, 0x41, 0xe4,
      0xb2, 0x1b, 0x14, 0x5e, 0xd3, 0xeb, 0x65, 0x36, 0xbb, 0xec, 0x06, 0x4d, 0xdf, 0x66, 0xfa,
      0x3d, 0x2c, 0x2f, 0xcf, 0xe9, 0x61, 0x37, 0x19, 0xa4, 0xaf, 0x83, 0xe0, 0x72, 0xbf, 0xb9,
      0xec, 0x76, 0x81, 0x84, 0xe5, 0x34, 0xc8, 0x28, 0x0f, 0x9f, 0xcb, 0x6e, 0x10, 0x3a, 0x5d,
      0x96, 0xeb, 0xeb, 0xa0, 0x7b, 0xd9, 0x4d, 0x2e, 0xbb, 0x41, 0xd3, 0x74, 0x19, 0x34, 0x4f,
      0x8f, 0xd1, 0x20, 0x71, 0x9a, 0x4e, 0x07, 0x16, 0x01, 0x00, 0x00],
    [0x01, 0x3a, 0x00, 0x80, 0x05, 0x01, 0x04, 0x07, 0x00, 0x01, 0x00, 0x2e, 0x00, 0x11, 0x27,
      0x00, 0x00, 0xff, 0xff, 0xff, 0xff, 0x07, 0x1f, 0x00, 0x40, 0x00, 0x11, 0x1c, 0x00, 0x66,
      0x65, 0x50, 0xd8, 0x0d, 0x4a, 0xa2, 0xe5, 0x65, 0x37, 0xe8, 0x58, 0x96, 0xef, 0xe9, 0x65,
      0x74, 0x59, 0x3e, 0xa7, 0x97, 0xd9, 0xec, 0xb2, 0xdc, 0xd5, 0x16, 0x01, 0x00, 0x00]]

/-- The packets of `cmd_debug_ucs2_cb_message`. -/
def ucs2Samples : List (List UInt8) :=
  [[0x01, 0x73, 0x00, 0x80, 0x05, 0x01, 0x04, 0x03, 0x00, 0x01, 0x00, 0x67, 0x00, 0x11, 0x60,
      0x00, 0x00, 0xff, 0xff, 0xff, 0xff, 0x07, 0x58, 0x00, 0x63, 0x40, 0x00, 0x32, 0x59, 0x14,
      0x00, 0x20, 0x04, 0x1f, 0x04, 0x40, 0x04, 0x3e, 0x04, 0x42, 0x04, 0x4f, 0x04, 0x33, 0x04,
      0x3e, 0x04, 0x3c, 0x00, 0x20, 0x04, 0x34, 0x04, 0x3d, 0x04, 0x4f, 0x00, 0x20, 0x04, 0x54,
      0x00, 0x20, 0x04, 0x32, 0x04, 0x38, 0x04, 0x41, 0x04, 0x3e, 0x04, 0x3a, 0x04, 0x30, 0x00,
      0x20, 0x04, 0x56, 0x04, 0x3c, 0x04, 0x3e, 0x04, 0x32, 0x04, 0x56, 0x04, 0x40, 0x04, 0x3d,
      0x04, 0x56, 0x04, 0x41, 0x04, 0x42, 0x04, 0x4c, 0x00, 0x20, 0x04, 0x40, 0x04, 0x30, 0x04,
      0x3a, 0x04, 0x35, 0x04, 0x42, 0x04, 0x3d, 0x16, 0x01, 0x00, 0x00],
    [0x01, 0x73, 0x00, 0x80, 0x05, 0x01, 0x04, 0x04, 0x00, 0x01, 0x00, 0x67, 0x00, 0x11, 0x60,
      0x00, 0x00, 0xff, 0xff, 0xff, 0xff, 0x07, 0x58, 0x00, 0x63, 0x40, 0x00, 0x32, 0x59, 0x24,
      0x04, 0x38, 0x04, 0x45, 0x00, 0x20, 0x04, 0x43, 0x04, 0x34, 0x04, 0x30, 0x04, 0x40, 0x04,
      0x56, 0x04, 0x32, 0x00, 0x20, 0x04, 0x3f, 0x04, 0x3e, 0x00, 0x20, 0x04, 0x42, 0x04, 0x35,
      0x04, 0x40, 0x04, 0x38, 0x04, 0x42, 0x04, 0x3e, 0x04, 0x40, 0x04, 0x56, 0x04, 0x57, 0x00,
      0x20, 0x04, 0x23, 0x04, 0x3a, 0x04, 0x40, 0x04, 0x30, 0x04, 0x57, 0x04, 0x3d, 0x04, 0x38,
      0x00, 0x2e, 0x00, 0x20, 0x04, 0x17, 0x04, 0x30, 0x04, 0x3b, 0x04, 0x38, 0x04, 0x48, 0x04,
      0x30, 0x04, 0x39, 0x04, 0x42, 0x04, 0x35, 0x16, 0x01, 0x00, 0x00],
    [0x01, 0x73, 0x00, 0x80, 0x05, 0x01, 0x04, 0x05, 0x00, 0x01, 0x00, 0x67, 0x00, 0x11, 0x60,
      0x00, 0x00, 0xff, 0xff, 0xff, 0xff, 0x07, 0x58, 0x00, 0x63, 0x40, 0x00, 0x32, 0x59, 0x34,
      0x04, 0x41, 0x04, 0x4c, 0x00, 0x20, 0x04, 0x32, 0x00, 0x20, 0x04, 0x43, 0x04, 0x3a, 0x04,
      0x40, 0x04, 0x38, 0x04, 0x42, 0x04, 0x42, 0x04, 0x4f, 0x04, 0x45, 0x00, 0x20, 0x04, 0x37,
      0x04, 0x30, 0x04, 0x40, 0x04, 0x30, 0x04, 0x34, 0x04, 0x38, 0x00, 0x20, 0x04, 0x12, 0x04,
      0x30, 0x04, 0x48, 0x04, 0x3e, 0x04, 0x57, 0x00, 0x20, 0x04, 0x31, 0x04, 0x35, 0x04, 0x37,
      0x04, 0x3f, 0x04, 0x35, 0x04, 0x3a, 0x04, 0x38, 0x00, 0x2e, 0x00, 0x20, 0x04, 0x1d, 0x04,
      0x35, 0x00, 0x20, 0x04, 0x3d, 0x04, 0x35, 0x16, 0x01, 0x00, 0x00],
    [0x01, 0x72, 0x00, 0x80, 0x05, 0x01, 0x04, 0x06, 0x00, 0x01, 0x00, 0x66, 0x00, 0x11, 0x5f,
      0x00, 0x00, 0xff, 0xff, 0xff, 0xff, 0x07, 0x57, 0x00, 0x63, 0x40, 0x00, 0x32, 0x59, 0x44,
      0x04, 0x45, 0x04, 0x42, 0x04, 0x43, 0x04, 0x39, 0x04, 0x42, 0x04, 0x35, 0x00, 0x20, 0x04,
      0x41, 0x04, 0x38, 0x04, 0x33, 0x04, 0x3d, 0x04, 0x30, 0x04, 0x3b, 0x04, 0x30, 0x04, 0x3c,
      0x04, 0x38, 0x00, 0x20, 0x00, 0x22, 0x04, 0x1f, 0x04, 0x3e, 0x04, 0x32, 0x04, 0x56, 0x04,
      0x42, 0x04, 0x40, 0x04, 0x4f, 0x04, 0x3d, 0x04, 0x30, 0x00, 0x20, 0x04, 0x42, 0x04, 0x40,
      0x04, 0x38, 0x04, 0x32, 0x04, 0x3e, 0x04, 0x33, 0x04, 0x30, 0x00, 0x22, 0x00, 0x2e, 0x00,
      0x0d, 0x00, 0x0d, 0x00, 0x0d, 0x00, 0x16, 0x01, 0x00, 0x00]]

/-- The calls of `check_cb_message` for sample packets. -/
def checkSamples (samples : List (List UInt8)) : List Handed :=
  samples.flatMap fun packet => checkCbMessageCalls (ofList packet) packet.length

/-- `cmd_debug_gsm7_cb_message(command)`. -/
def cmdDebugGsm7CbMessage : List Handed :=
  .message (sprintf "Dummy CB Message parse\n" []).length :: checkSamples gsm7Samples

/-- `cmd_debug_ucs2_cb_message(command)`. -/
def cmdDebugUcs2CbMessage : List Handed := checkSamples ucs2Samples

/-! ## The commands -/

/-- The texts that answer the command `parse_command` has found. The commands that are not listed
are answered with their own text; those with sample packets are in `parseCommand`. -/
def commandReplies (env : ChatEnv) (command : List UInt8) : Option CommandId → List Reply
  | none => unknownCommandReplies env command
  | some .getName => nameReplies env
  | some .getUptime => cmdGetUptime env
  | some .getLoadavg => cmdGetLoadAvg env
  | some .getVersion => cmdGetSwVersion env
  | some .getUsbSuspendState => usbSuspendReplies env
  | some .getMem => cmdGetMemory env
  | some .getNetStats => cmdGetRmnetStats env
  | some .getGpsStats => cmdGetGpsStats env
  | some .getHelp => cmdGetHelp
  -- an empty text follows the answer
  | some .setUsbSuspendAllow => [setMessageResponse .setUsbSuspendAllow, []]
  | some .getHistory => historyReplies env
  | some .getLog => cmdGetOpenqtiLog env
  | some .getKernelLog => cmdGetKernelLog env
  | some .getReconnects => reconnectsReplies env
  | some .getOwnerName => ownerNameReplies env
  | some .getGsmSignal => cmdRenderGsmSignalData env
  | some .getNetReport => cmdDumpSignalReport env
  | some .utilListActiveTasks => dumpPendingTasks env
  | some .getFwTy => cmdThankYou env
  | some .getRunningConfig => cmdGetRunningConfig env
  | some .actionEnableCellBroadcast => cmdSetCbBroadcast env true
  | some .actionDisableCellBroadcast => cmdSetCbBroadcast env false
  | some .actionRecordCallsAndRecycle => recordCallsReplies env .actionRecordCallsAndRecycle
  | some .actionRecordCallsAll => recordCallsReplies env .actionRecordCallsAll
  | some .actionRecordCallCurrent => recordCurrentCallReplies env
  | some .getKnownQmiServices => knownQmiServicesReplies
  | some .actionInternalNetworkClearAuthData => cmdClearInternalNetworkingAuth
  | some .actionInternalNetworkStart =>
      setMessageResponse .actionInternalNetworkStart :: wdsChatIfupDown env true
  | some .actionInternalNetworkStop =>
      setMessageResponse .actionInternalNetworkStop :: wdsChatIfupDown env false
  | some .setModemName => cmdSetCustomModemName command
  | some .setOwnerName => cmdSetCustomUserName command
  | some .actionCallOwnerCountdown => cmdScheduleCall env command
  | some .actionSetReminder => [(cmdScheduleReminder env command).text]
  | some .actionWakeOwner => [(cmdScheduleWakeup env command).text]
  | some .actionDeleteTask => cmdDeleteTask env command
  | some .actionEnableDnd => [(cmdSuspendCallNotifications env command).text]
  | some .debugEnableServiceLogging => cmdEnableServiceDebuggingForServiceId command
  | some .actionSetStMode => cmdSetNewSignalTrackingMode command
  | some .actionSetStNotificationLevel => cmdConfigureSignalTrackingCellNotification command
  | some .define => cmdSearchDictionaryEntry env command
  | some .actionInternalNetworkSetApn => cmdConfigureNewApn command
  | some .actionInternalNetworkSetUser => cmdConfigureApnUsername command
  | some .actionInternalNetworkSetPass => cmdConfigureApnPassword command
  | some .actionInternalNetworkSetAuthMethod => cmdConfigureInternalNetworkAuthMethod command
  | some id => [setMessageResponse id]

/-- `parse_command(command)`. -/
def parseCommand (env : ChatEnv) (command : List UInt8) : List Handed :=
  match findCommand env.stack command with
  | some .debugGetMmSampleGsm7CbMsg => cmdDebugGsm7CbMessage
  | some .debugGetMmSampleUcs2CbMsg => cmdDebugUcs2CbMessage
  | found => (commandReplies env command found).map fun reply => .message reply.length

/-- What a command and everything else it is answered from must meet for the answer to fit. -/
def AnswerFits (env : ChatEnv) (command : List UInt8) : Option CommandId → Prop
  | none => env.userName.length + command.length ≤ 118
  | some .getUptime =>
      env.userName.length + daysLength (env.sysinfo.uptime.toNat / 86400) +
        hoursLength (env.sysinfo.uptime.toNat / 60 / 60 % 24)
          (env.sysinfo.uptime.toNat / 60 % 60) ≤ 123
  | some .getLoadavg =>
      ∀ output, env.loadAvg = some output → env.userName.length + output.length ≤ 139
  | some .getHistory =>
      env.cmdPosition ≤ 255 → ∀ k < env.cmdPosition,
        historyLength env.historyEntries k < 160 → historyLength env.historyEntries (k + 1) ≤ 160
  | some .getNetReport => env.cellReport.mcc = 0
  | some .utilListActiveTasks => ∀ i (h : i < env.tasks.length), TaskFits env i env.tasks[i]
  | some .getFwTy =>
      env.modemName.length ≤ 119 ∧ ∀ lines, env.thankYou = some lines → LinesFit 0 0 lines
  | some .getRunningConfig =>
      env.modemName.length + env.userName.length + (onOff (env.isOn .persistentLogging)).length +
          (onOff env.adbEnabled).length + (if env.usbAudio then 3 else 8) ≤ 88 ∧
        (onOff (env.isOn .allowInternalModemConnectivity)).length +
          (env.config.text .apnAddr).length + (env.config.text .apnUsername).length +
          2 * (env.config.text .apnPassword).length ≤ 94
  | some .actionCallOwnerCountdown =>
      arguments .actionCallOwnerCountdown command = none ∨
        0 < callDelay (argumentText .actionCallOwnerCountdown command) ∨
        env.userName.length ≤ 99
  | some .actionSetReminder =>
      contains (cmdOf .actionSetReminder) command →
        ReminderWordsFit env command (splitWords 0 [] command)
  | some .actionWakeOwner =>
      contains (cmdOf .actionWakeOwner) command →
        WakeupWordsFit command (splitWords 0 [] command)
  | some .actionEnableDnd =>
      contains (cmdOf .actionEnableDnd) command → DndWordsFit (splitWords 0 [] command)
  | some .actionInternalNetworkSetUser =>
      (argumentText .actionInternalNetworkSetUser command).length ≤ 126
  | some .actionInternalNetworkSetPass =>
      (argumentText .actionInternalNetworkSetPass command).length ≤ 126
  | some _ => True

variable (env : ChatEnv) (command : List UInt8)

theorem command_replies_fit_iff (found : Option CommandId) :
    AllFit (commandReplies env command found) ↔ AnswerFits env command found := by
  cases found with
  | none => exact unknown_command_fits_iff env command
  | some id =>
      cases id with
      | getName => exact iff_of_true (name_fits env) trivial
      | getUptime => exact uptime_fits_iff env
      | getLoadavg => exact load_avg_fits_iff env
      | getVersion => exact iff_of_true (sw_version_fits env) trivial
      | getUsbSuspendState => exact iff_of_true (usb_suspend_fits env) trivial
      | getMem => exact iff_of_true (memory_fits env) trivial
      | getNetStats => exact iff_of_true (rmnet_stats_fits env) trivial
      | getGpsStats => exact iff_of_true (gps_stats_fits env) trivial
      | getHelp => exact iff_of_true help_fits trivial
      | setUsbSuspendAllow =>
          refine iff_of_true (all_fit_append.2 ⟨set_message_response_fits _, ?_⟩) trivial
          exact all_fit_singleton.2 (Nat.zero_le _)
      | getHistory => exact history_fits_iff env
      | getLog => exact iff_of_true (openqti_log_fits env) trivial
      | getKernelLog => exact iff_of_true (kernel_log_fits env) trivial
      | getReconnects => exact iff_of_true (reconnects_fits env) trivial
      | getOwnerName => exact iff_of_true (owner_name_fits env) trivial
      | getGsmSignal => exact iff_of_true (gsm_signal_fits env) trivial
      | getNetReport => exact dump_signal_report_fits_iff env
      | utilListActiveTasks => exact pending_tasks_fits_iff env
      | getFwTy => exact thank_you_fits_iff env
      | getRunningConfig => exact running_config_fits_iff env
      | actionEnableCellBroadcast => exact iff_of_true (set_cb_broadcast_fits env true) trivial
      | actionDisableCellBroadcast => exact iff_of_true (set_cb_broadcast_fits env false) trivial
      | actionRecordCallsAndRecycle => exact iff_of_true (record_calls_fits env _) trivial
      | actionRecordCallsAll => exact iff_of_true (record_calls_fits env _) trivial
      | actionRecordCallCurrent => exact iff_of_true (record_current_call_fits env) trivial
      | getKnownQmiServices => exact iff_of_true known_qmi_services_fits trivial
      | actionInternalNetworkClearAuthData => exact iff_of_true clear_auth_fits trivial
      | actionInternalNetworkStart =>
          refine iff_of_true (all_fit_append.2 ⟨set_message_response_fits _, ?_⟩) trivial
          exact ifup_down_fits env true
      | actionInternalNetworkStop =>
          refine iff_of_true (all_fit_append.2 ⟨set_message_response_fits _, ?_⟩) trivial
          exact ifup_down_fits env false
      | setModemName => exact iff_of_true (set_modem_name_fits command) trivial
      | setOwnerName => exact iff_of_true (set_user_name_fits command) trivial
      | actionCallOwnerCountdown => exact schedule_call_fits_iff env command
      | actionSetReminder =>
          refine all_fit_singleton.trans ?_
          rw [schedule_text_fits]
          exact schedule_reminder_fits_iff env command
      | actionWakeOwner =>
          refine all_fit_singleton.trans ?_
          rw [schedule_text_fits]
          exact schedule_wakeup_fits_iff env command
      | actionDeleteTask => exact iff_of_true (delete_task_fits env command) trivial
      | actionEnableDnd =>
          refine all_fit_singleton.trans ?_
          rw [schedule_text_fits]
          exact suspend_call_notifications_fits_iff env command
      | debugEnableServiceLogging => exact iff_of_true (service_debugging_fits command) trivial
      | actionSetStMode => exact iff_of_true (signal_tracking_mode_fits command) trivial
      | actionSetStNotificationLevel =>
          exact iff_of_true (cell_notification_fits command) trivial
      | define => exact iff_of_true (search_dictionary_fits env command) trivial
      | actionInternalNetworkSetApn => exact iff_of_true (new_apn_fits command) trivial
      | actionInternalNetworkSetUser => exact apn_username_fits_iff command
      | actionInternalNetworkSetPass => exact apn_password_fits_iff command
      | actionInternalNetworkSetAuthMethod =>
          exact iff_of_true (auth_method_fits command) trivial
      | _ => exact iff_of_true (set_message_response_fits _) trivial

theorem all_inside_messages_iff (replies : List Reply) :
    AllInside (replies.map fun reply => .message reply.length) ↔ AllFit replies := by
  simp only [AllInside, AllFit, List.forall_mem_map, stays_inside_iff, Handed.len]

theorem samples_fit :
    ∀ packet ∈ gsm7Samples ++ ucs2Samples, CellBroadcastFits (ofList packet) packet.length := by
  have hlens : ∀ packet ∈ gsm7Samples ++ ucs2Samples,
      6 ≤ cbMessageLen (ofList packet) ∧ cbMessageLen (ofList packet) ≤ 166 := by decide +kernel
  intro packet hpacket _ _ _
  exact hlens packet hpacket

theorem check_samples_inside {samples : List (List UInt8)}
    (hsamples : samples ⊆ gsm7Samples ++ ucs2Samples) : AllInside (checkSamples samples) := by
  intro handed hmem
  obtain ⟨packet, hpacket, hcall⟩ := List.mem_flatMap.1 hmem
  unfold checkCbMessageCalls at hcall
  split at hcall
  · exact (intercept_cb_message_inside_iff _ _).2 (samples_fit packet (hsamples hpacket)) handed
      hcall
  · cases hcall

theorem parse_command_inside_iff :
    AllInside (parseCommand env command) ↔
      AnswerFits env command (findCommand env.stack command) := by
  unfold parseCommand
  generalize findCommand env.stack command = found
  split
  · refine iff_of_true (all_inside_cons.2 ⟨length_sprintf_nil_le rfl (by decide), ?_⟩) trivial
    exact check_samples_inside (List.subset_append_left _ _)
  · exact iff_of_true (check_samples_inside (List.subset_append_right _ _)) trivial
  · rw [all_inside_messages_iff, command_replies_fit_iff]

/-! ## Everything that writes to the queue -/

/-- The text of a chat command: a C string of at most 160 bytes. -/
structure ChatText where
  bytes : List UInt8
  length_le : bytes.length ≤ maxMessageSize
  ne_zero : ∀ c ∈ bytes, c ≠ 0

/-- What makes the daemon add messages of its own. -/
inductive QueueWriter where
  | chatCommand (env : ChatEnv) (command : ChatText)
  | cellBroadcast (bytes : Bytes) (len : Nat)
  | stuckMessage (message : StuckMessage)

/-- The calls that add them. -/
def QueueWriter.calls : QueueWriter → List Handed
  | .chatCommand env command => parseCommand env command.bytes
  | .cellBroadcast bytes len => interceptCbMessage bytes len
  | .stuckMessage message => parseAndForwardAdspMessage message

/-- The condition on the command, the packet or the message. -/
def QueueWriter.Fits : QueueWriter → Prop
  | .chatCommand env command => AnswerFits env command.bytes (findCommand env.stack command.bytes)
  | .cellBroadcast bytes len => CellBroadcastFits bytes len
  | .stuckMessage message => StuckMessageFits message

/-- Every length handed to the queue is at most 160 and every call changes only the new entry's text
and attributes, exactly if the condition holds. -/
theorem queue_writes_inside_iff (writer : QueueWriter) :
    AllInside writer.calls ↔ writer.Fits := by
  cases writer with
  | chatCommand env command => exact parse_command_inside_iff env command.bytes
  | cellBroadcast bytes len => exact intercept_cb_message_inside_iff bytes len
  | stuckMessage message => exact forward_inside_iff message

/-- A modem that has just been set up. -/
def freshEnv : ChatEnv where
  config := Config.setInitialConfig 0
  textsFit := by
    intro field
    cases field <;> decide
  history := fun _ => 0
  cmdPosition := 0
  stack := fun _ => 0
  numberTail := []
  sysinfo := ⟨0, 0, 0, 0, 0, 0⟩
  hour := 0
  minute := 0
  second := 0
  loadAvg := none
  suspendState := 0
  rmnetStats := ⟨0, 0, 0, 0, 0, 0⟩
  gpsStats := ⟨0, 0, 0, 0, 0, 0⟩
  openqtiLog := none
  kernelLog := none
  thankYou := none
  dictionary := none
  dirtyReconnects := 0
  networkType := 0
  signalStrength := 0
  cellReport := ⟨0, 0, 0, 0, 0, 0, 0, 0, 0, 0, 0, 0⟩
  tasks := []
  curTime := 0
  versions := []
  adbEnabled := false
  usbAudio := false
  callInProgress := false
  broadcastSet := true
  taskRemoved := fun _ => false
  taskAdded := true
  networkInProgress := false
  networkRunning := false

/-- A command of 114 letters that no entry of the table matches. -/
def longCommand : ChatText where
  bytes := List.replicate 114 97
  length_le := by
    rw [List.length_replicate]
    decide
  ne_zero := by
    intro c hc
    rw [List.eq_of_mem_replicate hc]
    decide

/-- Every word of the table has another letter than `a`. -/
theorem command_has_other_letter : ∀ entry ∈ botCommands, ∃ c ∈ ascii entry.cmd, c ≠ 97 := by
  simp only [botCommands, List.forall_mem_cons, List.not_mem_nil, false_implies, implies_true,
    and_true]
  repeat' apply And.intro
  all_goals
    rw [ascii_of_list]
    decide

/-- The copy of it in lower case is cut off, so that only a word of letters `a` could stand in
either. -/
theorem long_command_unknown : findCommand freshEnv.stack longCommand.bytes = none := by
  have hlower : lowercaseCmd freshEnv.stack longCommand.bytes = List.replicate 97 97 := by
    decide +kernel
  refine find_command_none fun entry hentry hmatched => ?_
  obtain ⟨c, hc, hother⟩ := command_has_other_letter entry hentry
  have hletters : ∀ n, ¬ ascii entry.cmd <:+: List.replicate n 97 := by
    intro n hword
    exact hother (List.eq_of_mem_replicate (hword.subset hc))
  have hnot : ∀ n, List.replicate n 97 ≠ ascii entry.cmd := by
    intro n heq
    exact hletters n (heq ▸ List.infix_refl _)
  unfold Matched matchesCommand at hmatched
  rw [hlower] at hmatched
  split_ifs at hmatched
  · simp only [Bool.or_eq_true, contains_iff] at hmatched
    exact hmatched.elim (hletters 114) (hletters 97)
  · simp only [Bool.or_eq_true, decide_eq_true_eq] at hmatched
    exact hmatched.elim (hnot 114) (hnot 97)

/-- The answer repeats the command. With the name `Admin` it has 161 bytes. -/
theorem unknown_command_overflows : ¬ ∀ writer : QueueWriter, AllInside writer.calls := by
  intro hall
  have hunknown := long_command_unknown
  have hfits := hall (.chatCommand freshEnv longCommand)
  rw [QueueWriter.calls, parse_command_inside_iff, hunknown, AnswerFits] at hfits
  have hlength : freshEnv.userName.length + longCommand.bytes.length = 119 := by decide +kernel
  omega

end OpenQti.Chat
