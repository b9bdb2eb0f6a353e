import OpenQti.Lib.Bytes
import OpenQti.Lib.LittleEndian
import OpenQti.Lib.Ensures
import OpenQti.Lib.Loop
import OpenQti.Lib.Run
import OpenQti.Lib.Text
import OpenQti.Lib.Buffer
import OpenQti.Lib.Window
import OpenQti.Lib.Slots
import OpenQti.Lib.Trace
import OpenQti.Lib.Calendar
import OpenQti.Lib.Records
import OpenQti.Qmi.Tlv
import OpenQti.Qmi.TlvChain
import OpenQti.Qmi.TlvPacket
import OpenQti.Qmi.Client
import OpenQti.Qmi.ClientPass
import OpenQti.Qmi.ClientSteps
import OpenQti.Qmi.ClientDelivery
import OpenQti.Qmi.ClientAllocation
import OpenQti.Qmi.ClientTransactions
import OpenQti.Qmi.ClientTable
import OpenQti.Qmi.Tracking
import OpenQti.Qmi.TrackingRuns
import OpenQti.Qmi.TrackingBounds
import OpenQti.Sms.Runtime
import OpenQti.Sms.Queue
import OpenQti.Sms.Effects
import OpenQti.Sms.Steps
import OpenQti.Sms.IndexSafety
import OpenQti.Sms.Delivery
import OpenQti.Sms.Worker
import OpenQti.Sms.Retries
import OpenQti.Sms.Replies
import OpenQti.Sms.Pending
import OpenQti.Sms.FreshEntries
import OpenQti.Sms.Pdu
import OpenQti.Sms.PduBounds
import OpenQti.Sms.PduSafety
import OpenQti.Sms.HeaderElements
import OpenQti.Sms.SenderNumbers
import OpenQti.Sms.RecipientNumbers
import OpenQti.Sms.Intercept
import OpenQti.Sms.Proxy
import OpenQti.Sms.Handed
import OpenQti.Sms.CellBroadcast
import OpenQti.Sms.Contents
import OpenQti.Sms.Gsm7
import OpenQti.Sms.ChatText
import OpenQti.Sms.MessagePacket
import OpenQti.Sms.SentTexts
import OpenQti.Sms.StuckMessages
import OpenQti.Sms.Recovery
import OpenQti.Sms.TransactionIds
import OpenQti.Sms.ListedEntries
import OpenQti.Config.Settings
import OpenQti.Config.Restart
import OpenQti.Config.AnyFile
import OpenQti.Chat.Commands
import OpenQti.Chat.Replies
import OpenQti.Chat.Schedule
import OpenQti.Chat.StackDigits
import OpenQti.Chat.Dispatch
import OpenQti.Chat.LetterCase
import OpenQti.Chat.ReplyLengths
import OpenQti.Chat.QueueWrites
import OpenQti.Chat.Dictionary
import OpenQti.Chat.ApnSettings
import OpenQti.Chat.History
import OpenQti.Nas.Reports
import OpenQti.Nas.ReportTable
import OpenQti.Nas.ReportStorage
import OpenQti.Nas.LearnedCells
import OpenQti.Call.Runtime
import OpenQti.Call.Service
import OpenQti.Call.Steps
import OpenQti.Call.VoiceQueue
import OpenQti.Call.Exclusion
import OpenQti.Call.Responses
import OpenQti.Call.DoNotDisturb
import OpenQti.Call.Alike
import OpenQti.Call.FreshCalls
import OpenQti.Call.BasebandReplies
import OpenQti.Call.SpeechLoops
import OpenQti.Call.Outgoing
import OpenQti.Call.Callers
import OpenQti.Call.MaskedNumbers
import OpenQti.Audio.Runtime
import OpenQti.Audio.Routing
import OpenQti.Audio.CallTable
import OpenQti.Audio.FailedStart
import OpenQti.Nas.OpenCellid
import OpenQti.Nas.Downgrades
import OpenQti.Nas.CellLocation
import OpenQti.Nas.Neighbours
import OpenQti.Nas.ServingSystem
import OpenQti.Nas.ReportKeys
import OpenQti.Wds.Connection
import OpenQti.Wds.Reconnection
import OpenQti.Wds.StartRequest
import OpenQti.Qmi.Builders
import OpenQti.Qmi.ReceivedLists
import OpenQti.Qmi.BuilderBounds
import OpenQti.Qmi.PacketPrinter
import OpenQti.Scheduler.Tasks
import OpenQti.Scheduler.DndTimer
import OpenQti.Scheduler.Storage
import OpenQti.Scheduler.StuckTasks
import OpenQti.Scheduler.TimeOfDay
import OpenQti.Scheduler.PartialFiles
import OpenQti.Scheduler.DeletedTasks
import OpenQti.Scheduler.TimeCommands
import OpenQti.Scheduler.ValidTimes
import OpenQti.Lib.BlockHash
import OpenQti.Firmware.Md5
import OpenQti.Firmware.Md5Digest
import OpenQti.Firmware.AdspVersion
import OpenQti.Lib.Relay
import OpenQti.Proxy.Loop
import OpenQti.Proxy.Packets
import OpenQti.At.Runtime
import OpenQti.At.Logs
import OpenQti.Proxy.Gps
import OpenQti.At.Answers
import OpenQti.Lib.Device
import OpenQti.Config.MiscPartition
import OpenQti.Audio.Storage
import OpenQti.Audio.Recording
import OpenQti.Proxy.Messages
import OpenQti.Lib.Rate
import OpenQti.Threads.Thermal
import OpenQti.Threads.TimeSync
