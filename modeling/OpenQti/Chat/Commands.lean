import Mathlib.Data.List.GetD
import OpenQti.Lib.Text

/-!
# The chat commands

The table of commands and the lookup of `parse_command`. A command is given by its whole text, or
it is a part of the text that arguments follow; the last match in the table counts. The number of a
command and its place in the table are not the same for all of them, and `bot_commands[cmd_id]`
is read at the number.
-/

namespace OpenQti.Chat

open Text

/-! ## The table -/

/-- The command ids, in the order of their numbers. -/
inductive CommandId where
  | getName
  | getUptime
  | getLoadavg
  | getVersion
  | getUsbSuspendState
  | getMem
  | getNetStats
  | getGpsStats
  | getHelp
  | setUsbSuspendBlock
  | setUsbSuspendAllow
  | setAdbOn
  | setAdbOff
  | getHistory
  | getLog
  | getKernelLog
  | getReconnects
  | actionCallOwner
  | getOwnerName
  | actionPoweroff
  | getGsmSignal
  | actionReboot
  | getNetReport
  | actionEnableSignalTracking
  | actionDisableSignalTracking
  | actionEnablePersistentLogging
  | actionDisablePersistentLogging
  | actionEnableSmsLogging
  | actionDisableSmsLogging
  | utilListActiveTasks
  | getFwTy
  | actionEnableCellBroadcast
  | actionDisableCellBroadcast
  | actionCallwaitAutoHangup
  | actionCallwaitAutoIgnore
  | actionCallwaitModeDefault
  | actionEnableCat
  | actionDisableCat
  | actionRecordCallsAndRecycle
  | actionRecordCallsAll
  | actionRecordCallsNone
  | actionRecordCallCurrent
  | actionRecordCallNext
  | actionRecordCallCancelTask
  | debugGetMmSampleGsm7CbMsg
  | debugGetMmSampleUcs2CbMsg
  | actionEnableInternalNetworking
  | actionDisableInternalNetworking
  | actionDisableDoNotDisturb
  | actionDebugDisableSvc
  | getKnownQmiServices
  | actionDebugEnableNetworkDataDump
  | actionDebugDisableNetworkDataDump
  | actionEnableStNetworkDowngradeNotif
  | actionDisableStNetworkDowngradeNotif
  | actionInternalNetworkClearAuthData
  | actionMessageRecoveryEnable
  | actionMessageRecoveryDisable
  | actionInternalNetworkStart
  | actionInternalNetworkStop
  | getRunningConfig
  | setModemName
  | setOwnerName
  | actionCallOwnerCountdown
  | actionSetReminder
  | actionWakeOwner
  | actionDeleteTask
  | actionEnableDnd
  | debugEnableServiceLogging
  | actionSetStMode
  | actionSetStNotificationLevel
  | define
  | actionInternalNetworkSetApn
  | actionInternalNetworkSetUser
  | actionInternalNetworkSetPass
  | actionInternalNetworkSetAuthMethod
  deriving DecidableEq, Repr

/-- The categories of the help text. -/
inductive Category where
  | info
  | help
  | logging
  | calls
  | network
  | utility
  | system
  deriving DecidableEq, Repr

/-- An entry of `bot_commands`. -/
structure BotCommand where
  id : CommandId
  isPartial : Bool
  category : Category
  cmd : String
  cmdText : String
  help : String

/-- `cmd_categories`. -/
def cmdCategories : List (Category × String) :=
  [(.info, "Info"), (.help, "Help"), (.logging, "Logging"), (.calls, "Calls"),
    (.network, "Network"), (.utility, "Utilities"), (.system, "System")]

/-- `bot_commands`. -/
def botCommands : List BotCommand :=
  [⟨.getName, false, .info, "name", "My name is ", "Get Modem's name"⟩,
    ⟨.getUptime, false, .info, "uptime", "This is my uptime:", "Get current uptime"⟩,
    ⟨.getLoadavg, false, .info, "load", "Load avg is:", "Get load average"⟩,
    ⟨.getVersion, false, .info, "version", "Current version:", "Get firmware version"⟩,
    ⟨.getUsbSuspendState, false, .info, "usbsuspend",
      "USB suspend state:", "Get USB suspend state"⟩,
    ⟨.getMem, false, .info, "memory", "Memory stats:", "Get memory stats"⟩,
    ⟨.getNetStats, false, .info, "net stats", "Net stats:", "Get RMNET control stats"⟩,
    ⟨.getGpsStats, false, .info, "gps stats", "GPS stats:", "Get GPS ports status"⟩,
    ⟨.getHelp, false, .info, "help", "Help", "Show this message"⟩,
    ⟨.setUsbSuspendBlock, false, .system, "caffeinate",
      "Blocking USB suspend until reboot or until you tell me otherwise!", "Block USB suspend"⟩,
    ⟨.setUsbSuspendAllow, false, .system, "decaf",
      "Allowing USB to suspend again", "Allow USB suspend"⟩,
    ⟨.setAdbOn, false, .system, "enable adb", "Enabling ADB.", "Turn ON adb (USB will reset)"⟩,
    ⟨.setAdbOff, false, .system, "disable adb", "Disabling ADB.", "Turn OFF adb (USB will reset)"⟩,
    ⟨.getHistory, false, .logging, "get history", "Get command history", "Show command history"⟩,
    ⟨.getLog, false, .logging, "get log", "Openqti.log:", "Dump OpenQTI log"⟩,
    ⟨.getKernelLog, false, .logging, "get dmesg", "Kernel log:", "Dump kernel log"⟩,
    ⟨.getReconnects, false, .info, "get reconnects",
      "Number of resets since last boot", "Show number of reconnects since boot"⟩,
    ⟨.actionCallOwner, false, .utility, "call me", "Calling you now!", "Generate an incoming call"⟩,
    ⟨.getOwnerName, false, .info, "username", "Your name is ", "Show you your name"⟩,
    ⟨.actionPoweroff, false, .system, "off", "Goodbye", "Shutdown the modem"⟩,
    ⟨.getGsmSignal, false, .network, "gsm signal",
      "RF Signal status:", "Show network and signal data"⟩,
    ⟨.actionReboot, false, .system, "reboot", "See you soon", "Reboot the modem"⟩,
    ⟨.getNetReport, false, .network, "net report", "Network report", "Get network report"⟩,
    ⟨.getRunningConfig, false, .info, "get config", "Running config", "Show current configuration"⟩,
    ⟨.actionEnableSignalTracking, false, .network, "enable tracking",
      "Signal tracking: enabled", "Switch on network monitoring"⟩,
    ⟨.actionDisableSignalTracking, false, .network, "disable tracking",
      "Signal tracking: disabled", "Switch off network monitoring"⟩,
    ⟨.actionEnablePersistentLogging, false, .system, "enable persistent logging",
      "Persistent logging: enabled", "Switch on persistent logging"⟩,
    ⟨.actionDisablePersistentLogging, false, .system, "disable persistent logging",
      "Persistent logging: disabled", "Switch off persistent logging"⟩,
    ⟨.actionEnableSmsLogging, false, .logging, "enable sms logging",
      "Enabling SMS logging", "Store all incoming/outgoing messages to a log"⟩,
    ⟨.actionDisableSmsLogging, false, .logging, "disable sms logging",
      "Disabling SMS logging", "Disables logging of all incoming/outgoing messages"⟩,
    ⟨.utilListActiveTasks, false, .utility, "list tasks",
      "Show pending tasks", "Shows all the scheduled tasks"⟩,
    ⟨.getFwTy, false, .info, "thank you",
      "", "Thank you to all of you who help shape this firmware"⟩,
    ⟨.actionEnableCellBroadcast, false, .network, "enable cell broadcast",
      "Enabling Cell broadcasting for index 0-6000...", "Enables Cell broadcasting messages"⟩,
    ⟨.actionDisableCellBroadcast, false, .network, "disable cell broadcast",
      "Disabling cell broadcast...", "Disables Cell broadcasting messages"⟩,
    ⟨.actionCallwaitAutoHangup, false, .calls, "callwait auto hangup",
      "I will automatically terminate all incoming calls while you're talking",
      "Automatically kills any new incoming call while you're talking"⟩,
    ⟨.actionCallwaitAutoIgnore, false, .calls, "callwait auto ignore",
      "I will just inform you that there's a new call waiting",
      "Automatically ignores any new incoming call while you're talking"⟩,
    ⟨.actionCallwaitModeDefault, false, .calls, "callwait mode default",
      "I will let the host handle multiple calls",
      "Disables automatic hang up of incoming calls while you're talking"⟩,
    ⟨.actionEnableCat, false, .calls, "enable custom alert tone",
      "Enabling custom alert tone", "Enables custom alerting tone"⟩,
    ⟨.actionDisableCat, false, .calls, "disable custom alert tone",
      "Using alerting tone from the carrier",
      "Uses the default alerting tone from the carrier if it provides one"⟩,
    ⟨.actionRecordCallsAndRecycle, false, .calls, "record and recycle calls",
      "I will record all your calls and wipe them unless you tell me to keep them during the call ",
      "Enable call recording and autoerase (send 'record this call' to keep it)"⟩,
    ⟨.actionRecordCallsAll, false, .calls, "record all calls",
      "I will record all calls from now on",
      "Enables call recording for all calls (retrieve them via adb)"⟩,
    ⟨.actionRecordCallsNone, false, .calls, "stop recording calls",
      "Automatic call recording is disabled", "Disables automatic call recording"⟩,
    ⟨.actionRecordCallCurrent, false, .calls, "record this call",
      "I got this", "Records current established call"⟩,
    ⟨.actionRecordCallNext, false, .calls, "record next call",
      "I will record the new call you make or receive",
      "Automatically records the next established call"⟩,
    ⟨.actionRecordCallCancelTask, false, .calls, "cancel record next call",
      "I won't record the new call you make or receive", "Cancel automatic recording of next call"⟩,
    ⟨.debugGetMmSampleGsm7CbMsg, false, .logging, "dbg",
      "Sending sample CB messages...", "Send demo cell broadcast message"⟩,
    ⟨.debugGetMmSampleUcs2CbMsg, false, .logging, "dbgucs",
      "Sending sample CB UCS-2 messages...", "Send demo cell broadcast message"⟩,
    ⟨.actionEnableInternalNetworking, false, .network, "enable internal net",
      "Warning: this function is in testing. Reboot to apply changes. Send 'disable internal net' to revert",
      "Attempts to init modem's internal RMNET port"⟩,
    ⟨.actionDisableInternalNetworking, false, .network, "disable internal net",
      "Please reboot to apply changes", "Attempts to init modem's internal RMNET port"⟩,
    ⟨.actionDisableDoNotDisturb, false, .calls, "disable dnd",
      "Disabling Do Not Disturb", "Disables Do Not Disturb feature"⟩,
    ⟨.actionDebugDisableSvc, false, .logging, "disable service debugging",
      "Done boss!", "Disables extensive logging for a defined service"⟩,
    ⟨.getKnownQmiServices, false, .logging, "list qmi services",
      "Available QMI services:", "Shows QMI Service IDs (for service debugging)"⟩,
    ⟨.actionDebugEnableNetworkDataDump, false, .logging, "dump network data",
      "Enabling network data logging", "Dumps network data given by the baseband as CSV files"⟩,
    ⟨.actionDebugDisableNetworkDataDump, false, .logging, "disable network data dump",
      "Disabling network data logging", "Disables network data dump to CSV"⟩,
    ⟨.actionEnableStNetworkDowngradeNotif, false, .network, "enable network downgrade notification",
      "I will notify you if network type gets downgraded",
      "Sends a SMS when the network changes (ie from LTE to WCDMA)"⟩,
    ⟨.actionDisableStNetworkDowngradeNotif, false, .network, "disable network downgrade notification",
      "I won't notify when network type gets downgraded",
      "Disables service downgrade notifications"⟩,
    ⟨.actionInternalNetworkClearAuthData, false, .network, "clear internal network auth",
      "Removing internal networking authentication config",
      "Resets internal networking user,pass and method"⟩,
    ⟨.actionMessageRecoveryEnable, false, .utility, "enable message recovery",
      "Will try to retrieve any stuck messages on next boot",
      "Enables MM bypass of List All messages to retrieve stuck SMS"⟩,
    ⟨.actionMessageRecoveryDisable, false, .utility, "disable message recovery",
      "Will stop hijacking ModemManager's List All Messages",
      "Disables MM bypass of List All messages to retrieve stuck SMS"⟩,
    ⟨.actionInternalNetworkStart, false, .network, "ifup",
      "Trying to kickstart internal networking",
      "Attempts to start a data session from the modem's userspace"⟩,
    ⟨.actionInternalNetworkStop, false, .network, "ifdown",
      "Stopping internal networking ", "Stops an active data session on the modem's userspace"⟩,
    ⟨.setModemName, true, .system, "set name ", "Set Modem Name", "Set a new name for the modem"⟩,
    ⟨.setOwnerName, true, .system, "set user name ", "Set User Name", "Set new username"⟩,
    ⟨.actionCallOwnerCountdown, true, .utility, "call me in ",
      "Calling you back in ", "Call me in X seconds"⟩,
    ⟨.actionSetReminder, true, .utility, "remind me ",
      "Will call you ", "Call you [at/in] hh[:xx min] [text]"⟩,
    ⟨.actionWakeOwner, true, .utility, "wake me up ",
      "Will wake you up ", "Wake you up [at/in] hh[:xx min]"⟩,
    ⟨.actionDeleteTask, true, .utility, "delete task ",
      "Removing task ", "delete task X: Removes task X from the scheduler"⟩,
    ⟨.actionEnableDnd, true, .calls, "enable dnd for ",
      "Silencing calls for  ",
      "enable dnd for X [hours:minutes]: Ignores incoming calls (will send you an sms with the number who called) "⟩,
    ⟨.debugEnableServiceLogging, true, .logging, "enable debugging of service ",
      "Enabling debugging of service ", "Enables extensive logging of a defined QMI service"⟩,
    ⟨.actionSetStMode, true, .network, "signal tracking mode ",
      "Set signal tracking mode", "Set the paranoia level for signal tracking functions"⟩,
    ⟨.actionSetStNotificationLevel, true, .network, "signal tracking cell notifications ",
      "Signal tracking notification",
      "Signal tracking: cell change notification (options: none, new, all -don't notify,notify on new cells only,notify everything all the time)"⟩,
    ⟨.define, true, .utility, "define ",
      "Definition fo X", "define X: Looks up definition for a given word"⟩,
    ⟨.actionInternalNetworkSetApn, true, .network, "set internal network apn ",
      "Set internal apn name ", "Configure your carrier APN for use in internal networking"⟩,
    ⟨.actionInternalNetworkSetUser, true, .network, "set internal network user ",
      "Set internal apn user ",
      "Configure your carrier APN username for use in internal networking"⟩,
    ⟨.actionInternalNetworkSetPass, true, .network, "set internal network pass ",
      "Set internal apn pass ",
      "Configure your carrier APN password for use in internal networking"⟩,
    ⟨.actionInternalNetworkSetAuthMethod, true, .network, "set internal network auth method ",
      "Set internal apn auth method ",
      "Configure your carrier APN authentication method (options: none, pap, chap, auto)"⟩]

/-- `bot_commands[cmd_id]`. Every number is below the length of the table. -/
def botCommand (id : CommandId) : BotCommand :=
  botCommands.getD id.ctorIdx ⟨id, false, .info, "", "", ""⟩

/-- The bytes of `bot_commands[cmd_id].cmd`. -/
def cmdOf (id : CommandId) : List UInt8 := ascii (botCommand id).cmd

/-- The bytes of `bot_commands[cmd_id].cmd_text`. -/
def cmdTextOf (id : CommandId) : List UInt8 := ascii (botCommand id).cmdText

/-! ## The lookup -/

/-- `tolower(c)`. -/
def tolower (c : UInt8) : UInt8 := if 65 ≤ c ∧ c ≤ 90 then c + 32 else c

/-- How many bytes the first loop of `parse_command` copies: it compares its index with the bytes of
the command. -/
def copiedBytes (index : Nat) : List UInt8 → Nat
  | [] => 0
  | c :: command => if index < c.toNat then copiedBytes (index + 1) command + 1 else 0

/-- `lowercase_cmd`. The bytes that are not copied are those that the stack held. -/
def lowercaseCmd (stack : Nat → UInt8) (command : List UInt8) : List UInt8 :=
  let copied := copiedBytes 0 command
  let bytes := (command.take copied).map tolower ++
    (List.range (command.length - copied)).map fun k => stack (copied + k)
  bytes.takeWhile (· ≠ 0)

/-- The test of one entry. -/
def matchesCommand (command lowercase : List UInt8) (entry : BotCommand) : Bool :=
  if entry.isPartial then contains (ascii entry.cmd) command || contains (ascii entry.cmd) lowercase
  else command = ascii entry.cmd || lowercase = ascii entry.cmd

/-- The `cmd_id` that `parse_command` finds; `none` is `CMD_UNKNOWN`. -/
def findCommand (stack : Nat → UInt8) (command : List UInt8) : Option CommandId :=
  let lowercase := lowercaseCmd stack command
  botCommands.foldl
    (fun found entry => if matchesCommand command lowercase entry then some entry.id else found)
    none

/-! ## Bounds of the table -/

theorem cmd_text_length_le_of_mem :
    ∀ entry ∈ botCommands, (ascii entry.cmdText).length ≤ 100 := by
  simp only [botCommands, List.forall_mem_cons, List.not_mem_nil, false_implies, implies_true,
    and_true]
  repeat' apply And.intro
  all_goals
    rw [length_ascii]
    decide

theorem cmd_text_length_le (id : CommandId) : (cmdTextOf id).length ≤ 100 := by
  unfold cmdTextOf botCommand
  by_cases hplace : id.ctorIdx < botCommands.length
  · rw [List.getD_eq_getElem _ _ hplace]
    exact cmd_text_length_le_of_mem _ (List.getElem_mem hplace)
  · rw [List.getD_eq_default _ _ (Nat.le_of_not_lt hplace), length_ascii]
    decide

end OpenQti.Chat
