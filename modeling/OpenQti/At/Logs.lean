import OpenQti.At.Runtime
import OpenQti.Lib.Ensures

/-!
# Logs over the AT interface

`+DMESG` and `+OQLOG` answer with a log in parts. `decode` takes an answer apart and checks the
three lengths in it. `log_dumped` is about `+OQLOG`: put together, the parts are the end of the
log, of which at most 8192 bytes are sent, however the calls of `fread` split it up. `+DMESG` sends
all of its log, and where there are zeros in it something else; `messages_dumped` says that every
other byte stands where it stood.
-/

namespace OpenQti.At

open Bytes Except Firmware Loop Text

/-! ## Taking an answer apart -/

/-- What an answer says. -/
structure Reply where
  transactionId : UInt8
  result : UInt8
  response : UInt8
  text : List UInt8
  deriving DecidableEq, Repr

/-- The answer in a packet, if its lengths agree with that of the packet. -/
def decode (packet : List UInt8) : Option Reply :=
  let bytes := ofList packet
  if 18 ≤ packet.length ∧ bytes 0 = 0x00 ∧ le16 bytes 3 = 0x0022 ∧
      le16 bytes 5 = packet.length - 7 ∧ le16 bytes 8 = packet.length - 10 ∧
      le16 bytes 16 = packet.length - 18 then
    some ⟨bytes 1, bytes 14, bytes 15, packet.drop 18⟩
  else none

variable {pkt next : AtCommandRespnse} {text : List UInt8} {n : Nat}

theorem pkt_size_eq (hfits : n ≤ maxReplySz) : pktSize n = 18 + n := by
  rw [pktSize, atCommandRespnseSize]
  omega

/-- An answer is sent as it is, if the length of its text is given right. -/
theorem decode_send (hfits : n ≤ maxReplySz) (hsize : pkt.replysz = n) :
    decode (sendPkt pkt (pktSize n)) =
      some ⟨pkt.transactionId, pkt.result, pkt.response, (List.range n).map pkt.reply⟩ := by
  have hmax : maxReplySz = 2048 := rfl
  have htext : ((List.range maxReplySz).map pkt.reply).take n = (List.range n).map pkt.reply := by
    rw [← List.map_take, List.take_range, Nat.min_eq_left hfits]
  have hpacket : sendPkt pkt (18 + n) =
      [0x00, pkt.transactionId, 0x00, 0x22, 0x00, UInt8.ofNat (11 + n),
        UInt8.ofNat ((11 + n) / 256), 0x01, UInt8.ofNat (8 + n), UInt8.ofNat ((8 + n) / 256),
        0x0b, 0x00, 0x00, 0x00, pkt.result, pkt.response, UInt8.ofNat n, UInt8.ofNat (n / 256)] ++
        (List.range n).map pkt.reply := by
    have hqmi : 18 + n - qmiPacketSize = 11 + n := by
      rw [qmiPacketSize]
      omega
    have hat : 11 + n - atCommandMetaSize = 8 + n := by
      rw [atCommandMetaSize]
      omega
    rw [sendPkt, hqmi, hat, hsize, ← htext]
    simp only [htole16, List.cons_append, List.nil_append, Nat.add_comm 18, List.take_succ_cons]
  have hlength : (sendPkt pkt (18 + n)).length = 18 + n := by
    rw [hpacket, List.length_append, List.length_map, List.length_range]
    rfl
  rw [pkt_size_eq hfits, decode, hlength]
  have hfields : 18 ≤ 18 + n ∧ ofList (sendPkt pkt (18 + n)) 0 = 0x00 ∧
      le16 (ofList (sendPkt pkt (18 + n))) 3 = 0x0022 ∧
      le16 (ofList (sendPkt pkt (18 + n))) 5 = 18 + n - 7 ∧
      le16 (ofList (sendPkt pkt (18 + n))) 8 = 18 + n - 10 ∧
      le16 (ofList (sendPkt pkt (18 + n))) 16 = 18 + n - 18 := by
    rw [hpacket]
    refine ⟨Nat.le_add_right _ _, rfl, rfl, ?_, ?_, ?_⟩
    all_goals
      simp only [le16, ofList, List.cons_append, List.getD_cons_succ, List.getD_cons_zero,
        UInt8.toNat_ofNat']
      omega
  rw [if_pos hfields, hpacket]
  rfl

/-- A text that is printed is sent. -/
theorem send_text_spec {output : Output} (h : sendText pkt text = .ok output) :
    ∃ packet, output = .send packet ∧
      decode packet = some ⟨pkt.transactionId, pkt.result, pkt.response, text⟩ := by
  unfold sendText at h
  obtain ⟨printed, hprint, h⟩ := bind_ok h
  cases h
  unfold print at hprint
  by_cases hfits : text.length + 1 ≤ maxReplySz
  · obtain ⟨reply, hput, hfront⟩ := Buffer.put_all_front (i := 0) pkt.reply (text ++ [0])
      (by simpa using hfits)
    simp only [hput] at hprint
    cases hprint
    refine ⟨_, rfl, ?_⟩
    rw [decode_send (show text.length ≤ maxReplySz by omega) rfl]
    have htext : (List.range text.length).map reply = text := by
      have hall := congrArg (List.take text.length) hfront
      rw [List.range_zero, List.map_nil, List.nil_append, ← List.map_take, List.take_range,
        List.length_append, List.take_left' rfl] at hall
      rwa [Nat.min_eq_left (by omega)] at hall
    rw [htext]
  · have hlong : maxReplySz < 0 + (text ++ [0]).length := by
      rw [List.length_append, List.length_singleton]
      omega
    obtain ⟨fault, hput⟩ := Buffer.put_all_overflow pkt.reply (by simp) hlong
    simp only [hput] at hprint
    cases hprint

/-! ## One part of a log -/

/-- The text stands for the bytes of the file. Where `blanks` does not hold, this is only said of
bytes without a zero. -/
def Copied (blanks : Bool) (data text : List UInt8) : Prop :=
  blanks ∨ 0 ∉ data → List.Forall₂ (fun byte c => byte ≠ 0 → c = byte) data text

theorem Copied.append {blanks : Bool} {data text more rest : List UInt8}
    (h : Copied blanks data text) (hmore : Copied blanks more rest) :
    Copied blanks (data ++ more) (text ++ rest) := by
  intro hgood
  refine List.rel_append (h ?_) (hmore ?_)
  · exact hgood.imp_right fun hnone hmem => hnone (List.mem_append_left _ hmem)
  · exact hgood.imp_right fun hnone hmem => hnone (List.mem_append_right _ hmem)

/-- A string is copied up to a place, if it does not end before. -/
theorem string_get {f : Bytes} {j : Nat} (hinside : j < n) (hopen : ∀ k < j, f k ≠ 0) :
    ofList (((List.range n).map f).takeWhile (· ≠ 0)) j = f j := by
  have hsplit : (List.range n).map f =
      (List.range j).map f ++ f j :: (List.range (n - (j + 1))).map fun k => f (j + 1 + k) := by
    have hn : n = j + (1 + (n - (j + 1))) := by omega
    conv_lhs => rw [hn, List.range_add, List.range_add]
    simp [List.map_append, Function.comp_def, Nat.add_assoc]
  have hprefix : ∀ c ∈ (List.range j).map f, decide (c ≠ 0) = true := by
    intro c hc
    obtain ⟨k, hk, rfl⟩ := List.mem_map.1 hc
    exact decide_eq_true (hopen k (List.mem_range.1 hk))
  rw [hsplit, List.takeWhile_append_of_pos hprefix, ofList,
    List.getD_append_right _ _ _ _ (by simp), List.length_map, List.length_range, Nat.sub_self]
  by_cases hzero : f j = 0
  · simp [hzero]
  · simp [hzero]

/-- The text that is sent for the bytes that have been read. -/
def partText (blanks : Bool) (filebuff : Bytes) (ret : Nat) : List UInt8 :=
  (List.range ret).map
    (ofList (((List.range maxReplySz).map (shown blanks filebuff ret)).takeWhile (· ≠ 0)))

theorem decode_part (blanks : Bool) (pkt : AtCommandRespnse) (filebuff : Bytes)
    (hfits : n ≤ maxReplySz) :
    decode (sendPkt (logPart pkt (shown blanks filebuff n) n) (pktSize n)) =
      some ⟨pkt.transactionId, pkt.result, 2, partText blanks filebuff n⟩ := by
  have hsize : (logPart pkt (shown blanks filebuff n) n).replysz = n := rfl
  rw [decode_send hfits hsize, partText]
  simp only [logPart]

theorem part_copied (blanks : Bool) (old : Bytes) {data : List UInt8}
    (hfits : data.length ≤ maxReplySz) :
    Copied blanks data (partText blanks (fun j => data.getD j (old j)) data.length) := by
  intro hgood
  generalize hfilebuff : (fun j => data.getD j (old j) : Bytes) = filebuff
  rw [partText]
  generalize hshown : shown blanks filebuff data.length = copy
  have hread : ∀ j (hj : j < data.length), filebuff j = data[j] := by
    intro j hj
    rw [← hfilebuff]
    exact List.getD_eq_getElem _ _ hj
  have hkeeps : ∀ j, filebuff j ≠ 0 → copy j = filebuff j := by
    intro j hj
    rw [← hshown]
    cases blanks with
    | false => rfl
    | true => exact if_neg fun hboth => hj hboth.2
  have hopen : ∀ j < data.length, ∀ k < j, copy k ≠ 0 := by
    intro j hj k hk
    cases blanks with
    | true =>
        by_cases hzero : filebuff k = 0
        · have hblank : copy k = 0x20 := by
            rw [← hshown]
            exact if_pos ⟨by omega, hzero⟩
          rw [hblank]
          decide
        · rw [hkeeps k hzero]
          exact hzero
    | false =>
        have hnone : 0 ∉ data := hgood.resolve_left Bool.false_ne_true
        have hkeep : copy k = data.get ⟨k, by omega⟩ := by
          rw [← hshown]
          exact hread k (by omega)
        rw [hkeep]
        exact fun hzero => hnone (hzero ▸ List.getElem_mem _)
  refine List.forall₂_iff_get.2 ⟨by simp, fun j hj hsecond hbyte => ?_⟩
  have hshown := string_get (n := maxReplySz) (f := copy) (by omega) (hopen j hj)
  simp only [List.get_eq_getElem, List.getElem_map, List.getElem_range] at hbyte ⊢
  rw [hshown, hkeeps j (by rw [hread j hj]; exact hbyte), hread j hj]

/-! ## The loop -/

/-- What is sent are the parts of an answer, none of them the last one, that stand for the bytes. -/
def Parts (blanks : Bool) (transactionId : UInt8) (data : List UInt8) (sends : List Output) :
    Prop :=
  ∃ (packets : List (List UInt8)) (replies : List Reply), sends = packets.map .send ∧
    packets.map decode = replies.map some ∧
    (∀ reply ∈ replies, reply.transactionId = transactionId ∧ reply.response = 2) ∧
    Copied blanks data (replies.flatMap Reply.text)

theorem parts_nil (blanks : Bool) (transactionId : UInt8) : Parts blanks transactionId [] [] :=
  ⟨[], [], rfl, rfl, ⟨fun _ hmem => (List.not_mem_nil hmem).elim, fun _ => .nil⟩⟩

theorem Parts.snoc {blanks : Bool} {transactionId : UInt8} {data more packet : List UInt8}
    {sends : List Output} {reply : Reply} (h : Parts blanks transactionId data sends)
    (hdecode : decode packet = some reply) (hid : reply.transactionId = transactionId)
    (hresponse : reply.response = 2) (hcopied : Copied blanks more reply.text) :
    Parts blanks transactionId (data ++ more) (sends ++ [.send packet]) := by
  obtain ⟨packets, replies, rfl, hdecodes, hparts, hall⟩ := h
  refine ⟨packets ++ [packet], replies ++ [reply], ?_, ?_, ?_, ?_⟩
  · rw [List.map_append, List.map_singleton]
  · rw [List.map_append, List.map_append, hdecodes, List.map_singleton, List.map_singleton, hdecode]
  · refine List.forall_mem_append.2 ⟨hparts, fun last hlast => ?_⟩
    cases List.mem_singleton.1 hlast
    exact ⟨hid, hresponse⟩
  · rw [List.flatMap_append, List.flatMap_singleton]
    exact hall.append hcopied

/-- Every part of the file is sent, and the loop leaves. -/
theorem read_log_spec (blanks : Bool) (stack : Bytes) (pkt : AtCommandRespnse) (stream : Stream) :
    ∃ sends, readLog blanks stack pkt stream = .ok sends ∧
      Parts blanks pkt.transactionId stream.data sends := by
  have hrun := run_decreasing (logRound blanks pkt) ⟨stack, stream, []⟩
    (fun s => ∃ read, read ++ s.stream.data = stream.data ∧
      Parts blanks pkt.transactionId read s.sends)
    (Parts blanks pkt.transactionId stream.data) (fun s => s.stream.data.length) ?_
    ⟨[], rfl, parts_nil _ _⟩ (Nat.lt_succ_self _)
  · obtain ⟨sends, hsends, hparts⟩ := hrun
    exact ⟨sends, by rw [readLog, hsends], hparts⟩
  rintro s ⟨read, hread, hparts⟩
  obtain ⟨hdata, hle, hend, -⟩ := fread_spec s.stream (show 0 < maxReplySz - 2 by decide)
  rw [logRound]
  generalize fread (maxReplySz - 2) s.stream = got at *
  obtain ⟨data, left⟩ := got
  dsimp only at *
  by_cases hsome : data.length > 0
  · have hfits : data.length ≤ maxReplySz := Nat.le_trans hle (Nat.sub_le _ _)
    rw [if_pos hsome]
    refine .inl ⟨_, rfl, ⟨read ++ data, ?_, ?_⟩, ?_⟩
    · rw [← hread, ← hdata, List.append_assoc]
    · exact hparts.snoc (decode_part blanks pkt _ hfits) rfl rfl
        (part_copied blanks s.filebuff hfits)
    · show left.data.length < s.stream.data.length
      rw [← hdata, List.length_append]
      omega
  · have hnone : data = [] := List.eq_nil_of_length_eq_zero (by omega)
    rw [if_neg hsome]
    refine .inr ⟨s.sends, rfl, ?_⟩
    rw [← hread, hend hnone, List.append_nil]
    exact hparts

/-- The parts of a log that is there. -/
theorem send_log_spec {blanks : Bool} {stack : Bytes} {stream : Stream} {outputs : List Output}
    (h : sendLog blanks stack pkt (some stream) = .ok outputs) :
    ∃ first last sends, outputs = .send first :: sends ++ [.send last] ∧
      decode first = some ⟨pkt.transactionId, pkt.result, 0, ascii "\r\n"⟩ ∧
      decode last = some ⟨pkt.transactionId, pkt.result, 1, ascii "\r\nEOF\r\n"⟩ ∧
      Parts blanks pkt.transactionId
        (seekLog (if blanks then 0 else stream.data.length) stream).data sends := by
  unfold sendLog at h
  obtain ⟨firstOutput, hfirst, h⟩ := bind_ok h
  obtain ⟨sends, hsends, h⟩ := bind_ok h
  obtain ⟨lastOutput, hlast, h⟩ := bind_ok h
  cases h
  obtain ⟨first, rfl, hdecodeFirst⟩ := send_text_spec hfirst
  obtain ⟨last, rfl, hdecodeLast⟩ := send_text_spec hlast
  obtain ⟨parts, hparts, hspec⟩ := read_log_spec blanks stack pkt
    (seekLog (if blanks then 0 else stream.data.length) stream)
  cases hsends.symm.trans hparts
  exact ⟨first, last, sends, rfl, hdecodeFirst, hdecodeLast, hspec⟩

/-! ## The log as it is received -/

/-- The packets that are sent. -/
def sent (outputs : List Output) : List (List UInt8) :=
  outputs.filterMap fun output =>
    match output with
    | .send packet => some packet
    | .call _ => none

theorem sent_append (outputs more : List Output) :
    sent (outputs ++ more) = sent outputs ++ sent more :=
  List.filterMap_append

theorem sent_sends (packets : List (List UInt8)) : sent (packets.map .send) = packets := by
  rw [sent, List.filterMap_map]
  exact List.filterMap_some

theorem sent_calls (callees : List Callee) : sent (callees.map .call) = [] := by
  rw [sent, List.filterMap_map]
  exact List.filterMap_eq_nil_iff.2 fun _ _ => rfl

/-- A text comes in parts, between a first and a last answer. -/
def ReceivedAs (outputs : List Output) (text : List UInt8) : Prop :=
  ∃ first parts last, (sent outputs).map decode = (first :: parts ++ [last]).map some ∧
    parts.flatMap Reply.text = text

theorem send_text_ok (pkt : AtCommandRespnse) (hfits : text.length < maxReplySz) :
    ∃ output, sendText pkt text = .ok output := by
  obtain ⟨reply, hput, -⟩ := Buffer.put_all_front (i := 0) pkt.reply (text ++ [0])
    (show 0 + (text ++ [0]).length ≤ maxReplySz by
      rw [List.length_append, List.length_singleton]
      omega)
  refine ⟨.send (sendPkt { pkt with reply, replysz := text.length } (pktSize text.length)), ?_⟩
  simp only [sendText, print, hput]
  rfl

/-- The texts around a log fit, so that the log is sent. -/
theorem send_log_ok (blanks : Bool) (stack : Bytes) (pkt : AtCommandRespnse) (stream : Stream) :
    ∃ outputs, sendLog blanks stack pkt (some stream) = .ok outputs := by
  obtain ⟨first, hfirst⟩ := send_text_ok { pkt with response := 0 }
    (show (ascii "\r\n").length < maxReplySz by decide)
  obtain ⟨last, hlast⟩ := send_text_ok { pkt with response := 1 }
    (show (ascii "\r\nEOF\r\n").length < maxReplySz by decide)
  obtain ⟨sends, hsends, -⟩ := read_log_spec blanks stack pkt
    (seekLog (if blanks then 0 else stream.data.length) stream)
  refine ⟨first :: sends ++ [last], ?_⟩
  rw [sendLog, hfirst]
  simp only [bind, Except.bind, hsends, hlast]

/-- What is received of a log. -/
theorem received_of_log {blanks : Bool} {stack : Bytes} {stream : Stream} {outputs : List Output}
    (h : sendLog blanks stack pkt (some stream) = .ok outputs) :
    ∃ text, ReceivedAs outputs text ∧
      Copied blanks (seekLog (if blanks then 0 else stream.data.length) stream).data text := by
  obtain ⟨first, last, sends, rfl, hfirst, hlast, packets, replies, rfl, hdecode, -, hcopied⟩ :=
    send_log_spec h
  refine ⟨_, ⟨⟨pkt.transactionId, pkt.result, 0, ascii "\r\n"⟩, replies,
    ⟨pkt.transactionId, pkt.result, 1, ascii "\r\nEOF\r\n"⟩, ?_, rfl⟩, hcopied⟩
  have hsent : sent (.send first :: packets.map .send ++ [.send last]) =
      first :: packets ++ [last] := by
    rw [← List.map_singleton, ← List.map_cons, ← List.map_append, sent_sends]
  rw [hsent, List.map_append, List.map_cons, hdecode, hfirst, List.map_singleton, hlast]
  simp

/-- A request for a command. -/
theorem handle_of_request {env : AtEnv} {buf : Bytes} {sz id : Nat} {s : AtRuntime}
    (hrequest : IsRequest buf sz) (hid : cmdId (parsedCmd buf) = some id) :
    handleAtfwdResponse env buf sz s =
      (handleCommand env buf (initialResponse s.transactionId) s (some id)).map fun handled =>
        ({ handled.1 with transactionId := handled.1.transactionId + 1 }, handled.2) := by
  obtain ⟨hsize, hcontrol, htype⟩ := hrequest
  rw [handleAtfwdResponse, if_neg (by omega), if_neg (by omega), if_neg (not_not.2 hcontrol),
    if_neg (not_not.2 htype), hid]
  cases handleCommand env buf (initialResponse s.transactionId) s (some id) <;> rfl

theorem cmd_id_log : cmdId (ascii "+OQLOG") = some 131 := by decide

theorem cmd_id_messages : cmdId (ascii "+DMESG") = some 130 := by decide

/-- A request for a command, without an argument. -/
def commandRequest (command : List UInt8) : Bytes :=
  ofList ([0x04, 0, 0, 0x21, 0, 0, 0, 0, 0, 0, 0, 0, 0, 0, 0, 0, 0, 0, UInt8.ofNat command.length] ++
    command)

/-- A round in which nothing has happened but a request, with two short logs. -/
def sampleEnv (request : Option (Bytes × Nat)) : AtEnv where
  request := request
  broadcast := false
  notified := false
  internalMessages := 0
  adspMessages := 0
  cellDataWanted := false
  mcc := []
  mnc := []
  adspVersion := 0
  messagesLog := some ⟨[0x61, 0x00, 0x62], [], false⟩
  openqtiLog := some ⟨[0x61, 0x62, 0x63], [0], false⟩
  stack := fun _ => 0

/-- The state after `init_atfwd`. -/
def sampleRuntime : AtRuntime := ⟨147, false, false, false, false⟩

/-- `+OQLOG`: the end of the log is received as it is, if there are no zeros in it. -/
theorem log_dumped (env : AtEnv) {buf : Bytes} {sz : Nat} (s : AtRuntime) {stream : Stream}
    (hrequest : IsRequest buf sz) (hcommand : parsedCmd buf = ascii "+OQLOG")
    (hlog : env.openqtiLog = some stream) (hnone : 0 ∉ stream.data) :
    ∃ next outputs, handleAtfwdResponse env buf sz s = .ok (next, outputs) ∧
      ReceivedAs outputs (stream.data.drop (stream.data.length - 8192)) := by
  obtain ⟨outputs, houtputs⟩ := send_log_ok false env.stack (initialResponse s.transactionId) stream
  obtain ⟨text, hreceived, hcopied⟩ := received_of_log houtputs
  have hcommand : cmdId (parsedCmd buf) = some 131 := by rw [hcommand, cmd_id_log]
  rw [handle_of_request hrequest hcommand, handleCommand, hlog, houtputs]
  refine ⟨_, outputs, rfl, ?_⟩
  have hend : (seekLog stream.data.length stream).data =
      stream.data.drop (stream.data.length - 8192) := by
    rw [seekLog, show maxReplySz * maxResponseNum = 8192 from rfl]
    by_cases hlong : stream.data.length > 8192
    · rw [if_pos hlong]
    · rw [if_neg hlong, show stream.data.length - 8192 = 0 by omega, List.drop_zero]
  rw [if_neg Bool.false_ne_true, hend] at hcopied
  have hsame := hcopied (.inr fun hzero => hnone (List.mem_of_mem_drop hzero))
  have htext : stream.data.drop (stream.data.length - 8192) = text := by
    have hnonzero : ∀ byte ∈ stream.data.drop (stream.data.length - 8192), byte ≠ 0 :=
      fun byte hmem hzero => hnone (List.mem_of_mem_drop (hzero ▸ hmem))
    have hequal := ((List.forall₂_and_left _ _).2 ⟨hnonzero, hsame⟩).imp
      fun byte c hboth => (hboth.2 hboth.1).symm
    rwa [List.forall₂_eq_eq_eq] at hequal
  rwa [htext]

theorem log_dumped_sample :
    ∃ next outputs, handleAtfwdResponse (sampleEnv none) (commandRequest (ascii "+OQLOG")) 25
        sampleRuntime = .ok (next, outputs) ∧
      ReceivedAs outputs [0x61, 0x62, 0x63] := by
  obtain ⟨next, outputs, hhandle, hreceived⟩ := log_dumped (sampleEnv none) sampleRuntime
    (show IsRequest (commandRequest (ascii "+OQLOG")) 25 from ⟨by decide, by decide, by decide⟩)
    (by decide) rfl (by decide)
  exact ⟨next, outputs, hhandle, by simpa using hreceived⟩

/-- `+DMESG`: all of the log is received, and its bytes stand where they stood, zeros apart. -/
theorem messages_dumped (env : AtEnv) {buf : Bytes} {sz : Nat} (s : AtRuntime) {stream : Stream}
    (hrequest : IsRequest buf sz) (hcommand : parsedCmd buf = ascii "+DMESG")
    (hlog : env.messagesLog = some stream) :
    ∃ next outputs text, handleAtfwdResponse env buf sz s = .ok (next, outputs) ∧
      ReceivedAs outputs text ∧
      List.Forall₂ (fun byte c => byte ≠ 0 → c = byte) stream.data text := by
  obtain ⟨outputs, houtputs⟩ := send_log_ok true env.stack (initialResponse s.transactionId) stream
  obtain ⟨text, hreceived, hcopied⟩ := received_of_log houtputs
  have hcommand : cmdId (parsedCmd buf) = some 130 := by rw [hcommand, cmd_id_messages]
  rw [handle_of_request hrequest hcommand, handleCommand, hlog, houtputs]
  exact ⟨_, outputs, text, rfl, hreceived, hcopied (.inl rfl)⟩

theorem messages_dumped_sample :
    ∃ next outputs text, handleAtfwdResponse (sampleEnv none) (commandRequest (ascii "+DMESG")) 25
        sampleRuntime = .ok (next, outputs) ∧ ReceivedAs outputs text ∧
      List.Forall₂ (fun byte c => byte ≠ 0 → c = byte) [0x61, 0x00, 0x62] text :=
  messages_dumped (sampleEnv none) sampleRuntime ⟨by decide, by decide, by decide⟩ (by decide) rfl

end OpenQti.At
