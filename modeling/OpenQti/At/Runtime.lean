import OpenQti.Firmware.AdspVersion
import OpenQti.Lib.Trace

/-!
# The AT commands of the host

The baseband forwards AT commands that it does not know to `start_atfwd_thread`, which
`init_atfwd` has registered them for. `handle_atfwd_response` answers a request, and does what has
been asked for. Answers are packets with a result, a flag that says whether more of them follow,
and a text. What is done in other parts of the program is an output.
-/

namespace OpenQti.At

open Bytes Firmware Loop Text

/-! ## The table -/

/-- `at_commands`. -/
def atCommands : List (Nat × String) :=
  [(0, "+QNAND"), (1, "+QPRTPARA"), (2, "+QWSERVER"), (3, "+QWTOCLIEN"), (4, "+QWTOCLI"),
    (5, "+QWPARAM"), (6, "+QDATAFWD"), (7, "+QFTCMD"), (8, "+QBTPWR"), (9, "+QBTLEADDR"),
    (10, "+QBTNAME"), (11, "+QBTGATREG"), (12, "+QBTGATSS"), (13, "+QBTGATSC"), (14, "+QBTGATSD"),
    (15, "+QBTGATSIND"), (16, "+QBTGATSNOD"), (17, "+QBTGATRRSP"), (18, "+QBTGATWRSP"),
    (19, "+QBTGATSENLE"), (20, "+QBTGATADV"), (21, "+QBTGATDISC"), (22, "+QBTGATPER"),
    (23, "+QBTGATDBALC"), (24, "+QBTGATDBDEALC"), (25, "+QBTGATSA"), (26, "+QBTGATDA"),
    (27, "+QFCT"), (28, "+QFCTTX"), (29, "+QFCTRX"), (30, "+QBTSPPACT"), (31, "+QBTSPPDIC"),
    (32, "+QBTSPPWRS"), (33, "+QBTSCAN"), (34, "+QBTAVACT"), (35, "+QBTAVREG"), (36, "+QBTAVCON"),
    (37, "+QBTHFGCON"), (38, "+QIIC"), (39, "+QAUDLOOP"), (40, "+QDAI"), (41, "+QSIDET"),
    (42, "+QAUDMOD"), (43, "+QEEC"), (44, "+QMIC"), (45, "+QRXGAIN"), (46, "+QAUDRD"),
    (47, "+QAUDPLAY"), (48, "+QAUDSTOP"), (49, "+QPSND"), (50, "+QTTS"), (51, "+QTTSETUP"),
    (52, "+QLTONE"), (53, "+QLDTMF"), (54, "+QAUDCFG"), (55, "+QTONEDET"), (56, "+QWTTS"),
    (57, "+QPCMV"), (58, "+QTXIIR"), (59, "+QRXIIR"), (60, "+QPOWD"), (61, "+QSCLK"),
    (62, "+QCFG"), (63, "+QADBKEY"), (64, "+QADC"), (65, "+QADCTEMP"), (66, "+QGPSCFG"),
    (67, "+QODM"), (68, "+QFUMO"), (69, "+QFUMOCFG"), (70, "+QPRINT"), (71, "+QSDMOUNT"),
    (72, "+QFDUMMY"), (73, "+QPSM"), (74, "+QPSMCFG"), (75, "+QLINUXCPU"), (76, "+QVERSION"),
    (77, "+QSUBSYSVER"), (78, "+QTEMPDBG"), (79, "+QTEMP"), (80, "+QTEMPDBGLVL"),
    (81, "+QDIAGPORT"), (82, "+QLPMCFG"), (83, "+QSGMIICFG"), (84, "+QWWAN"), (85, "+QLWWANUP"),
    (86, "+QLWWANDOWN"), (87, "+QLWWANSTATUS"), (88, "+QLWWANURCCFG"), (89, "+QLWWANCID"),
    (90, "+QLPING"), (91, "+QWIFI"), (92, "+QWSSID"), (93, "+QWSSIDHEX"), (94, "+QWAUTH"),
    (95, "+QWMOCH"), (96, "+QWISO"), (97, "+QWBCAST"), (98, "+QWCLICNT"), (99, "+QWCLIP"),
    (100, "+QWCLILST"), (101, "+QWSTAINFO"), (102, "+QWCLIRM"), (103, "+QWSETMAC"),
    (104, "+QWRSTD"), (105, "+QWIFICFG"), (106, "+QAPRDYIND"), (107, "+QFOTADL"), (108, "+CFUN"),
    (109, "+CMUX"), (110, "+IPR"), (111, "+PWRDN"), (112, "+ADBON"), (113, "+ADBOFF"),
    (114, "+RESETUSB"), (115, "+REBOOT_REC"), (116, "+IS_CUSTOM"), (117, "+EN_PCM16K"),
    (118, "+EN_PCM48K"), (119, "+EN_PCM8K"), (120, "+EN_USBAUD"), (121, "+DIS_USBAUD"),
    (122, "+CMUT"), (123, "+REBOOTDO"), (124, "+EN_CAT"), (125, "+DIS_CAT"), (126, "+GETSWREV"),
    (127, "+QFASTBOOT"), (128, "+GETFWBRANCH"), (129, "+QGMR"), (130, "+DMESG"), (131, "+OQLOG"),
    (132, "+SETLOGDBG"), (133, "+SETLOGNFO"), (134, "+SIMUSMS"), (135, "+SIMUNOTIF"),
    (136, "+EN_USBSUSPEND"), (137, "+DIS_USBSUSPEND"), (138, "+GETADSPVER"), (139, "+RESETAUDPA"),
    (140, "+RECON"), (141, "+RECOFF"), (142, "+WIPESMS"), (143, "+QCFG=\"secbootstat\""),
    (144, "+SEND_SAMPLE_CB"), (145, "+SEND_RANDOM_CB"), (146, "+SEND_MULTIPART_CB")]

/-- The member `fwstring` of the entries of `known_adsp_fw`. -/
def fwStrings : List String := [
  "Unknown ADSP Firmware",
  "EG25GGBR07A08M2G_01.003.01.003",
  "EG25GGBR07A08M2G_01.002.07",
  "EG25GGBR07A08M2G_01.001.10",
  "EG25GGBR07A07M2G_01.001.02",
  "EG25GGBR07A07M2G_OCPU_01.001.01.001",
  "EG25GGBR07A08M2G_30.004.30.004",
  "EG25GGBR07A08M2G_30.006.30.006",
  "EG25GGBR07A08M2G_30.007.30.007",
  "EG25GGBR07A08M2G_30.200.30.200",
  "EG25GGBR07A08M2G_30.202.30.202"]

/-- `RELEASE_VER`. -/
def releaseVer : String := "0.8.0"

/-! ## The state and the outputs -/

/-- `qmidev->transaction_id`, and `atfwd_runtime_state`. Nothing reads `adb_enabled`. -/
structure AtRuntime where
  transactionId : UInt8
  isSmsNotificationPending : Bool
  randomDebugCb : Bool
  debugCb : Bool
  streamCb : Bool

/-- What `reboot` is asked for. -/
inductive Reboot where
  | powerOff
  | restart
  | recovery
  | bootloader
  deriving DecidableEq, Repr

/-- The calls of functions of other parts of the program. -/
inductive Callee where
  | reboot (how : Reboot)
  | storeAdbSetting (en : Bool)
  | storeAudioOutputMode (usb : Bool)
  | restartUsbStack
  | resetUsbPort
  | setAudioMute (mute : Bool)
  | setCustomAlertTone (en : Bool)
  | setLogLevel (debug : Bool)
  | injectMessage
  | pulseRingIn
  | setPendingNotificationSourceExternal
  | setNotifPending
  | setSuspendInhibit (mode : Bool)
  | setExternalCodecDefaults
  | setAutomaticCallRecording (en : Bool)
  | wipeMessageStorage
  | getOpencellidData
  deriving DecidableEq, Repr

/-- What the thread does: a packet is sent to the baseband, or something is called. -/
inductive Output where
  | send (packet : List UInt8)
  | call (callee : Callee)
  deriving DecidableEq, Repr

/-- What ends a run of the model: a text that does not fit into a reply, or a log that is never
read to its end. -/
inductive AtFault where
  | reply (fault : Buffer.Overflow)
  | loops

/-- What a round of the thread finds: the request that has been read if there is one, whether the
proxy has made up its broadcast messages and whether the notification of a message has been asked
for since the last round, the counts of messages, what the network says, what `read_adsp_version`
returns, the logs, and what the stack holds. -/
structure AtEnv where
  request : Option (Bytes × Nat)
  broadcast : Bool
  notified : Bool
  internalMessages : UInt32
  adspMessages : UInt32
  cellDataWanted : Bool
  mcc : List UInt8
  mnc : List UInt8
  adspVersion : Nat
  messagesLog : Option Stream
  openqtiLog : Option Stream
  stack : Bytes

/-! ## Answers -/

/-- `MAX_REPLY_SZ`. -/
def maxReplySz : Nat := 2048

/-- `MAX_RESPONSE_NUM`. -/
def maxResponseNum : Nat := 4

/-- `sizeof(struct qmi_packet)`. -/
def qmiPacketSize : Nat := 7

/-- `sizeof(struct at_command_meta)`. -/
def atCommandMetaSize : Nat := 3

/-- `sizeof(struct at_command_respnse)`. -/
def atCommandRespnseSize : Nat := 18 + maxReplySz

/-- `struct at_command_respnse`, without what is the same in all of them. -/
structure AtCommandRespnse where
  transactionId : UInt8
  result : UInt8
  response : UInt8
  replysz : Nat
  reply : Bytes

/-- The answer that `handle_atfwd_response` starts from: a success, in one packet. -/
def initialResponse (transactionId : UInt8) : AtCommandRespnse where
  transactionId := transactionId
  result := 1
  response := 3
  replysz := 0
  reply := fun _ => 0

/-- The bytes of `htole16`. -/
def htole16 (n : Nat) : List UInt8 := [UInt8.ofNat n, UInt8.ofNat (n / 256)]

/-- `pkt_size`, for a reply of so many bytes. -/
def pktSize (bytesInReply : Nat) : Nat := atCommandRespnseSize - (maxReplySz - bytesInReply)

/-- `send_pkt(qmidev, pkt, sz)`. -/
def sendPkt (pkt : AtCommandRespnse) (sz : Nat) : List UInt8 :=
  ([0x00, pkt.transactionId, 0x00, 0x22, 0x00] ++ htole16 (sz - qmiPacketSize) ++ [0x01] ++
    htole16 (sz - qmiPacketSize - atCommandMetaSize) ++
    [0x0b, 0x00, 0x00, 0x00, pkt.result, pkt.response] ++ htole16 pkt.replysz ++
    (List.range maxReplySz).map pkt.reply).take sz

/-- `sprintf(response->reply, …)` and `response->replysz = …`. -/
def print (pkt : AtCommandRespnse) (text : List UInt8) : Except AtFault AtCommandRespnse :=
  match Buffer.putAll maxReplySz pkt.reply 0 (text ++ [0]) with
  | .error fault => .error (.reply fault)
  | .ok reply => .ok { pkt with reply, replysz := text.length }

/-- An answer with a text, in one packet. -/
def sendText (pkt : AtCommandRespnse) (text : List UInt8) : Except AtFault Output := do
  let pkt ← print pkt text
  .ok (.send (sendPkt pkt (pktSize text.length)))

/-! ## Logs -/

/-- The variables of the loop over a log: `filebuff`, the file, and what has been sent. -/
structure LogState where
  filebuff : Bytes
  stream : Stream
  sends : List Output

/-- The loop of `+DMESG` over the bytes that have been read. It leaves out the last one. -/
def replaceNuls (filebuff : Bytes) (ret : Nat) : Bytes := fun j =>
  if j < ret - 1 ∧ filebuff j = 0x00 then 0x20 else filebuff j

/-- `filebuff` when it is copied. -/
def shown (blanks : Bool) (filebuff : Bytes) (ret : Nat) : Bytes :=
  if blanks then replaceNuls filebuff ret else filebuff

/-- A part of a log. `strncpy` writes the whole of `reply`. -/
def logPart (pkt : AtCommandRespnse) (filebuff : Bytes) (ret : Nat) : AtCommandRespnse :=
  { pkt with
    response := 2
    reply := ofList (((List.range maxReplySz).map filebuff).takeWhile (· ≠ 0))
    replysz := ret }

/-- One round of the loop over a log. -/
def logRound (blanks : Bool) (pkt : AtCommandRespnse) (s : LogState) :
    Round LogState (List Output) :=
  let (data, stream) := fread (maxReplySz - 2) s.stream
  let filebuff : Bytes := fun j => data.getD j (s.filebuff j)
  if data.length > 0 then
    let filebuff := shown blanks filebuff data.length
    .again ⟨filebuff, stream,
      s.sends ++ [.send (sendPkt (logPart pkt filebuff data.length) (pktSize data.length))]⟩
  else .leave s.sends

/-- The loop over a log. -/
def readLog (blanks : Bool) (stack : Bytes) (pkt : AtCommandRespnse) (stream : Stream) :
    Except AtFault (List Output) :=
  match run (logRound blanks pkt) (stream.data.length + 1) ⟨stack, stream, []⟩ with
  | none => .error .loops
  | some sends => .ok sends

/-- `fseek` to where a log is read from, for the value of `ftell`. -/
def seekLog (ret : Nat) (stream : Stream) : Stream :=
  if ret > maxReplySz * maxResponseNum then
    { stream with data := stream.data.drop (ret - maxReplySz * maxResponseNum) }
  else stream

/-- The cases of `+DMESG` and `+OQLOG`. The first one asks for the position in the file before it
has been moved to the end. -/
def sendLog (blanks : Bool) (stack : Bytes) (pkt : AtCommandRespnse) :
    Option Stream → Except AtFault (List Output)
  | none => .ok [.send (sendPkt { pkt with result := 2 } (pktSize 0))]
  | some stream => do
      let first ← sendText { pkt with response := 0 } (ascii "\r\n")
      let ret := if blanks then 0 else stream.data.length
      let sends ← readLog blanks stack pkt (seekLog ret stream)
      let last ← sendText { pkt with response := 1 } (ascii "\r\nEOF\r\n")
      .ok (first :: sends ++ [last])

/-! ## Registration -/

/-- `sizeof(struct atcmd_reg_request)`. -/
def atcmdRegRequestSize : Nat := 15

/-- The buffer that `build_atcommand_reg_request(tid, command, buf)` fills, of 256 bytes. -/
def buildAtcommandRegRequest (tid : UInt8) (command : List UInt8) : Except AtFault Bytes :=
  let packetSize := command.length + 40 + atcmdRegRequestSize
  let var2 := UInt8.ofNat (command.length + 2)
  let atcmd := [0x00, tid, 0x00, 0x20, 0x00] ++ htole16 packetSize ++
    [0x01, var2 + 3, 0x00, 0x01, var2, 0x00, 0x00, UInt8.ofNat command.length]
  (Buffer.putAll 256 (fun _ => 0) 0 (atcmd ++ command)).mapError .reply

/-- The loop of `init_atfwd`. What is answered is only logged. -/
def registerCommands (s : AtRuntime) : List String → Except AtFault (AtRuntime × List Output)
  | [] => .ok (s, [])
  | command :: rest => do
      let atcmd ← buildAtcommandRegRequest s.transactionId (ascii command)
      let pktsize := atcmdRegRequestSize + ((ascii command).length + 47)
      let (s, sends) ← registerCommands { s with transactionId := s.transactionId + 1 } rest
      .ok (s, .send ((List.range pktsize).map atcmd) :: sends)

/-- `init_atfwd(qmidev)`, from the point on where the socket is open. -/
def initAtfwd (s : AtRuntime) : Except AtFault (AtRuntime × List Output) :=
  registerCommands s (atCommands.map Prod.snd)

/-! ## A request -/

/-- `parsedcmd`. -/
def parsedCmd (buf : Bytes) : List UInt8 :=
  ((List.range (buf 18).toNat).map fun i => buf (19 + i)).takeWhile (· ≠ 0)

/-- `cmd_id`: the id of the last entry with the text. -/
def cmdId (text : List UInt8) : Option Nat :=
  atCommands.foldl (fun id entry => if text = ascii entry.2 then some entry.1 else id) none

variable (env : AtEnv)

/-- `sprintf(…, "\r\n+CMTI: \"ME\",%i\r\n", …)`. -/
def cmtiText (messages : UInt32) : List UInt8 :=
  sprintf "\r\n+CMTI: \"ME\",%i\r\n" [signed messages.toInt32.toInt]

/-- A command that is answered first, before something is called. -/
def answerThen (pkt : AtCommandRespnse) (s : AtRuntime) (callees : List Callee) :
    Except AtFault (AtRuntime × List Output) :=
  .ok (s, .send (sendPkt pkt (pktSize 0)) :: callees.map .call)

/-- A command that is answered by a text, before something is called. -/
def replyThen (pkt : AtCommandRespnse) (s : AtRuntime) (text : List UInt8)
    (callees : List Callee) : Except AtFault (AtRuntime × List Output) := do
  let first ← sendText pkt text
  .ok (s, first :: callees.map .call)

/-- The `switch` of `handle_atfwd_response`. -/
def handleCommand (buf : Bytes) (pkt : AtCommandRespnse) (s : AtRuntime) :
    Option Nat → Except AtFault (AtRuntime × List Output)
  | some 111 => answerThen pkt s [.reboot .powerOff]
  | some 109 => answerThen pkt s []
  | some 112 => answerThen pkt s [.storeAdbSetting true, .restartUsbStack]
  | some 113 => answerThen pkt s [.storeAdbSetting false, .restartUsbStack]
  | some 114 => answerThen pkt s [.resetUsbPort]
  | some 115 => answerThen pkt s [.reboot .recovery]
  | some 116 => answerThen pkt s []
  | some 117 => answerThen { pkt with result := 2 } s []
  | some 118 => answerThen { pkt with result := 2 } s []
  | some 119 => answerThen { pkt with result := 2 } s []
  | some 120 => answerThen pkt s [.storeAudioOutputMode true, .restartUsbStack]
  | some 121 => answerThen pkt s [.storeAudioOutputMode false, .restartUsbStack]
  | some 122 => answerThen pkt s [.setAudioMute (buf 30 = 0x31)]
  | some 123 => .ok (s, [.call (.reboot .restart), .send (sendPkt pkt (pktSize 0))])
  | some 124 => answerThen pkt s [.setCustomAlertTone true]
  | some 125 => answerThen pkt s [.setCustomAlertTone false]
  | some 129 => replyThen pkt s (sprintf "\r\n%s\r\n" [ascii releaseVer]) []
  | some 126 => replyThen pkt s (sprintf "\r\n%s\r\n" [ascii releaseVer]) []
  | some 127 => answerThen pkt s [.reboot .bootloader]
  | some 128 => replyThen pkt s (ascii "\r\ncommunity\r\n") []
  | some 130 => (sendLog true env.stack pkt env.messagesLog).map (s, ·)
  | some 131 => (sendLog false env.stack pkt env.openqtiLog).map (s, ·)
  | some 132 => answerThen pkt s [.setLogLevel true]
  | some 133 => answerThen pkt s [.setLogLevel false]
  | some 134 =>
      replyThen pkt s (cmtiText (env.internalMessages + env.adspMessages))
        [.injectMessage, .pulseRingIn]
  | some 135 =>
      replyThen pkt s (cmtiText (env.internalMessages + env.adspMessages))
        [.setPendingNotificationSourceExternal, .setNotifPending, .pulseRingIn]
  | some 136 => answerThen pkt s [.setSuspendInhibit false]
  | some 137 => answerThen pkt s [.setSuspendInhibit true]
  | some 138 =>
      replyThen pkt s (sprintf "\r\n%s\r\n" [ascii (fwStrings.getD env.adspVersion "")]) []
  | some 139 => answerThen pkt s [.setExternalCodecDefaults]
  | some 140 => answerThen pkt s [.setAutomaticCallRecording true]
  | some 141 => answerThen pkt s [.setAutomaticCallRecording false]
  | some 142 => answerThen pkt s [.wipeMessageStorage]
  | some 143 => replyThen pkt s (ascii "\r\n+QCFG: \"secbootstat\",0\r\n") []
  | some 144 => answerThen pkt { s with debugCb := true } []
  | some 145 => answerThen pkt { s with randomDebugCb := true } []
  | some 146 => answerThen pkt { s with streamCb := true } []
  | some id => answerThen { pkt with result := if id > 0 ∧ id < 111 then 1 else 2 } s []
  | none => answerThen { pkt with result := 2 } s []

/-- The packet is a request. -/
def IsRequest (buf : Bytes) (sz : Nat) : Prop := 16 ≤ sz ∧ buf 0 = 0x04 ∧ buf 3 = 0x21

instance (buf : Bytes) (sz : Nat) : Decidable (IsRequest buf sz) :=
  inferInstanceAs (Decidable (_ ∧ _))

/-- `handle_atfwd_response(qmidev, buf, sz)`. -/
def handleAtfwdResponse (buf : Bytes) (sz : Nat) (s : AtRuntime) :
    Except AtFault (AtRuntime × List Output) :=
  if sz = 14 then .ok (s, [])
  else if sz < 16 then .ok (s, [])
  else if buf 0 ≠ 0x04 then .ok (s, [])
  else if buf 3 ≠ 0x21 then .ok (s, [])
  else do
    let (s, outputs) ←
      handleCommand env buf (initialResponse s.transactionId) s (cmdId (parsedCmd buf))
    .ok ({ s with transactionId := s.transactionId + 1 }, outputs)

/-! ## The thread -/

/-- `at_send_cmti_urc(qmidev)`. -/
def atSendCmtiUrc (s : AtRuntime) : Except AtFault (AtRuntime × List Output) := do
  let first ← sendText (initialResponse s.transactionId) (cmtiText env.internalMessages)
  .ok ({ s with transactionId := s.transactionId + 1 },
    [first, .call .setPendingNotificationSourceExternal, .call .setNotifPending])

/-- `at_send_missing_cellid_data(qmidev)`. -/
def atSendMissingCellidData (s : AtRuntime) : Except AtFault (AtRuntime × List Output) := do
  let first ← sendText (initialResponse s.transactionId)
    (sprintf "\r\n+MISSINGOCID: %s-%s\r\n" [env.mcc, env.mnc])
  .ok ({ s with transactionId := s.transactionId + 1 }, [first])

/-- The request of a round. -/
def serveRequest (s : AtRuntime) : Except AtFault (AtRuntime × List Output) :=
  match env.request with
  | none => .ok (s, [])
  | some (buf, sz) => handleAtfwdResponse env buf sz s

/-- The notification of a round. -/
def serveNotification (s : AtRuntime) : Except AtFault (AtRuntime × List Output) :=
  if s.isSmsNotificationPending then do
    let (s, outputs) ← atSendCmtiUrc env s
    .ok ({ s with isSmsNotificationPending := false }, outputs)
  else .ok (s, [])

/-- The question for cell data of a round. -/
def serveCellData (s : AtRuntime) : Except AtFault (AtRuntime × List Output) :=
  if env.cellDataWanted then do
    let (s, outputs) ← atSendMissingCellidData env s
    .ok (s, outputs ++ [.call .getOpencellidData])
  else .ok (s, [])

/-- What other threads have changed. -/
def changed (s : AtRuntime) : AtRuntime :=
  { s with
    isSmsNotificationPending := s.isSmsNotificationPending || env.notified
    randomDebugCb := s.randomDebugCb && !env.broadcast
    debugCb := s.debugCb && !env.broadcast
    streamCb := s.streamCb && !env.broadcast }

/-- One round of the loop of `start_atfwd_thread`. -/
def startAtfwdThread (s : AtRuntime) (env : AtEnv) : Except AtFault (AtRuntime × List Output) := do
  let (s, first) ← serveRequest env (changed env s)
  let (s, second) ← serveNotification env s
  let (s, third) ← serveCellData env s
  .ok (s, first ++ second ++ third)

end OpenQti.At
