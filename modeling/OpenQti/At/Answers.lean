import OpenQti.At.Logs

/-!
# Answers to AT commands

The host waits for the answer to a command before it sends another one, so that a request without
an answer locks the interface. `requests_answered` is about runs of the thread in which requests of
any content come, messages are announced and cell data is asked for: what is sent are complete
answers, one for every request, with transaction ids in a row. Apart from `+REBOOTDO`, an answer is
sent before anything else is done.

`cmd_id_iff` says which request is for which command, and `command_registered` that the commands
are those that `init_atfwd` has registered.
-/

namespace OpenQti.At

open Bytes Except Firmware Loop Machine Text

variable {pkt : AtCommandRespnse} {text : List UInt8} {buf : Bytes} {sz id : Nat}
  {env : AtEnv} {s next : AtRuntime} {outputs : List Output} {tid : UInt8}

/-! ## The table -/

theorem fold_mem {entries : List (Nat × String)} {start : Option Nat}
    (h : entries.foldl (fun id entry => if text = ascii entry.2 then some entry.1 else id) start =
      some id) : (∃ command, (id, command) ∈ entries ∧ text = ascii command) ∨ start = some id := by
  induction entries generalizing start with
  | nil => exact .inr h
  | cons entry entries ih =>
      rcases ih h with ⟨command, hmem, htext⟩ | hstart
      · exact .inl ⟨command, List.mem_cons_of_mem _ hmem, htext⟩
      · dsimp only at hstart
        by_cases hentry : text = ascii entry.2
        · rw [if_pos hentry] at hstart
          cases hstart
          exact .inl ⟨entry.2, List.mem_cons_self .., hentry⟩
        · rw [if_neg hentry] at hstart
          exact .inr hstart

theorem fold_kept {entries : List (Nat × String)} {start : Option Nat}
    (h : text ∉ entries.map fun entry => ascii entry.2) :
    entries.foldl (fun id entry => if text = ascii entry.2 then some entry.1 else id) start =
      start := by
  induction entries with
  | nil => rfl
  | cons entry entries ih =>
      rw [List.map_cons, List.mem_cons, not_or] at h
      rw [List.foldl_cons, if_neg h.1, ih h.2]

/-- If no two entries have the same text, the entry of a text is found. -/
theorem fold_found {entries : List (Nat × String)} {entry : Nat × String} (start : Option Nat)
    (hdistinct : (entries.map fun entry => ascii entry.2).Nodup) (hmem : entry ∈ entries) :
    entries.foldl (fun id other => if ascii entry.2 = ascii other.2 then some other.1 else id)
      start = some entry.1 := by
  induction entries generalizing start with
  | nil => cases hmem
  | cons other entries ih =>
      rw [List.map_cons, List.nodup_cons] at hdistinct
      rw [List.foldl_cons]
      rcases List.mem_cons.1 hmem with rfl | hmem
      · rw [if_pos rfl]
        exact fold_kept hdistinct.1
      · exact ih _ hdistinct.2 hmem

/-- A text as one number. Texts with different numbers are different. -/
def textNumber (text : List UInt8) : Nat := text.foldl (fun n c => 256 * n + c.toNat) 0

theorem texts_distinct : (atCommands.map fun entry => ascii entry.2).Nodup := by
  have hnumbers : ((atCommands.map fun entry => ascii entry.2).map textNumber).Nodup := by
    decide +kernel
  exact hnumbers.of_map textNumber

theorem table_found : ∀ entry ∈ atCommands, cmdId (ascii entry.2) = some entry.1 :=
  fun _ hmem => fold_found none texts_distinct hmem

/-- A request is for the command with just its text. -/
theorem cmd_id_iff : cmdId text = some id ↔
    ∃ command, (id, command) ∈ atCommands ∧ text = ascii command := by
  constructor
  · intro h
    rcases fold_mem h with hmem | hnone
    · exact hmem
    · cases hnone
  · rintro ⟨command, hmem, rfl⟩
    exact table_found (id, command) hmem

theorem restart_entry : ∀ entry ∈ atCommands, entry.1 = 123 → entry.2 = "+REBOOTDO" := by
  have hall : atCommands.all (fun entry => entry.1 = 123 → entry.2 = "+REBOOTDO") = true := by
    decide +kernel
  simpa only [List.all_eq_true, decide_eq_true_eq] using hall

/-! ## Registration -/

/-- The transaction id and the command in a packet that registers one. -/
def registered (packet : List UInt8) : Option (UInt8 × List UInt8) :=
  let bytes := ofList packet
  if 15 ≤ packet.length ∧ le16 bytes 3 = 0x0020 ∧ le16 bytes 5 = packet.length - 7 then
    some (bytes 1, (packet.drop 15).take (bytes 14).toNat)
  else none

/-- What is behind the bytes of an array is zero. -/
theorem map_range_ofList {data : List UInt8} {n : Nat} (h : data.length ≤ n) :
    (List.range n).map (ofList data) = data ++ List.replicate (n - data.length) 0 := by
  have hn : n = data.length + (n - data.length) := by omega
  conv_lhs => rw [hn, List.range_add, List.map_append, List.map_map]
  congr 1
  · refine List.ext_getElem (by simp) fun i hi _ => ?_
    rw [List.getElem_map, List.getElem_range]
    exact List.getD_eq_getElem _ _ (by simpa using hi)
  · refine List.eq_replicate_iff.2 ⟨by simp, fun byte hmem => ?_⟩
    obtain ⟨i, -, rfl⟩ := List.mem_map.1 hmem
    exact List.getD_eq_default _ _ (by simp)

/-- What stands before the command in a packet that registers it. -/
def regHeader (tid : UInt8) (length : Nat) : List UInt8 :=
  [0x00, tid, 0x00, 0x20, 0x00, UInt8.ofNat (length + 55), UInt8.ofNat ((length + 55) / 256), 0x01,
    UInt8.ofNat (length + 2) + 3, 0x00, 0x01, UInt8.ofNat (length + 2), 0x00, 0x00,
    UInt8.ofNat length]

theorem build_eq (tid : UInt8) {command : List UInt8} (hfits : command.length ≤ 190) :
    buildAtcommandRegRequest tid command =
      .ok (ofList (regHeader tid command.length ++ command)) := by
  have hlength : (regHeader tid command.length ++ command).length = command.length + 15 := by
    rw [List.length_append, Nat.add_comm]
    rfl
  have hput := Buffer.put_all_ofList [] (regHeader tid command.length ++ command)
    (Nat.zero_le 256)
  rw [if_pos (by rw [hlength, List.length_nil]; omega)] at hput
  exact congrArg (Except.mapError AtFault.reply) hput

/-- A command is registered by its text. -/
theorem register_one (tid : UInt8) {command : List UInt8} (hfits : command.length ≤ 190) :
    ∃ atcmd, buildAtcommandRegRequest tid command = .ok atcmd ∧
      registered ((List.range (atcmdRegRequestSize + (command.length + 47))).map atcmd) =
        some (tid, command) := by
  refine ⟨_, build_eq tid hfits, ?_⟩
  have hlength : (regHeader tid command.length ++ command).length = 15 + command.length := by
    rw [List.length_append]
    rfl
  generalize hpacket : (List.range (atcmdRegRequestSize + (command.length + 47))).map
    (ofList (regHeader tid command.length ++ command)) = packet
  have hsize : packet.length = command.length + 62 := by
    rw [← hpacket, List.length_map, List.length_range, atcmdRegRequestSize]
    omega
  have hbytes : packet = regHeader tid command.length ++ (command ++
      List.replicate (atcmdRegRequestSize + (command.length + 47) - (15 + command.length)) 0) := by
    rw [← hpacket, map_range_ofList (by rw [hlength, atcmdRegRequestSize]; omega), hlength,
      List.append_assoc]
  have hfields : 15 ≤ packet.length ∧ le16 (ofList packet) 3 = 0x0020 ∧
      le16 (ofList packet) 5 = packet.length - 7 := by
    rw [hsize]
    refine ⟨by omega, by rw [hbytes]; rfl, ?_⟩
    rw [hbytes]
    simp only [le16, ofList, regHeader, List.cons_append, List.getD_cons_succ,
      List.getD_cons_zero, UInt8.toNat_ofNat']
    omega
  rw [registered, if_pos hfields, hbytes]
  have hcount : (ofList (regHeader tid command.length ++ (command ++ List.replicate
      (atcmdRegRequestSize + (command.length + 47) - (15 + command.length)) 0)) 14).toNat =
      command.length := by
    simp only [ofList, regHeader, List.cons_append, List.getD_cons_succ, List.getD_cons_zero,
      UInt8.toNat_ofNat']
    omega
  rw [hcount, List.drop_left' (show (regHeader tid command.length).length = 15 from rfl),
    List.take_left' rfl]
  rfl

/-- The commands of a list are registered one after the other. -/
theorem register_all {commands : List String} (s : AtRuntime)
    (hfits : ∀ command ∈ commands, (ascii command).length ≤ 190) :
    ∃ (next : AtRuntime) (packets : List (List UInt8)),
      registerCommands s commands = .ok (next, packets.map .send) ∧
      packets.length = commands.length ∧
      ∀ i command, commands[i]? = some command →
        packets[i]?.bind registered = some (s.transactionId + UInt8.ofNat i, ascii command) := by
  induction commands generalizing s with
  | nil => exact ⟨s, [], rfl, rfl, fun i command h => by simp at h⟩
  | cons command commands ih =>
      obtain ⟨atcmd, hbuild, hregistered⟩ := register_one s.transactionId
        (hfits command (List.mem_cons_self ..))
      obtain ⟨next, packets, hrest, hlength, hall⟩ :=
        ih { s with transactionId := s.transactionId + 1 }
          fun other hmem => hfits other (List.mem_cons_of_mem _ hmem)
      refine ⟨next, (List.range (atcmdRegRequestSize + ((ascii command).length + 47))).map atcmd ::
        packets, ?_, ?_, ?_⟩
      · rw [registerCommands, bind_of_eq_ok hbuild, bind_of_eq_ok hrest]
        rfl
      · rw [List.length_cons, List.length_cons, hlength]
      · intro i other hi
        cases i with
        | zero =>
            cases hi
            rw [List.getElem?_cons_zero, Option.bind_some, hregistered]
            exact congrArg (fun tid => some (tid, _)) (UInt8.add_zero _).symm
        | succ i =>
            have hid :
                s.transactionId + 1 + UInt8.ofNat i = s.transactionId + UInt8.ofNat (i + 1) := by
              rw [Nat.add_comm i 1, UInt8.ofNat_add, UInt8.add_assoc]
              rfl
            rw [List.getElem?_cons_succ, hall i other hi, ← hid]

/-- The commands are numbered by their places. -/
theorem mem_table_iff {command : String} :
    (id, command) ∈ atCommands ↔ (atCommands.map Prod.snd)[id]? = some command := by
  have hids : atCommands.map Prod.fst = List.range atCommands.length := by decide +kernel
  have hplace : ∀ (i : Nat) (entry : Nat × String), atCommands[i]? = some entry → entry.1 = i := by
    intro i entry hentry
    have hid := congrArg (fun ids => ids[i]?) hids
    have hinside : i < atCommands.length := (List.getElem?_eq_some_iff.1 hentry).1
    simp only [List.getElem?_map, hentry, Option.map_some, List.getElem?_range hinside] at hid
    exact Option.some.inj hid
  constructor
  · intro hmem
    obtain ⟨i, hi⟩ := List.mem_iff_getElem?.1 hmem
    have hid : id = i := hplace i _ hi
    rw [hid, List.getElem?_map, hi, Option.map_some]
  · intro hcommand
    rw [List.getElem?_map] at hcommand
    obtain ⟨entry, hentry, rfl⟩ := Option.map_eq_some_iff.1 hcommand
    have hid : entry.1 = id := hplace id entry hentry
    rw [← hid]
    exact List.mem_of_getElem? hentry

/-- The commands that requests are for are those that have been registered. -/
theorem command_registered (s : AtRuntime) :
    ∃ (next : AtRuntime) (packets : List (List UInt8)),
      initAtfwd s = .ok (next, packets.map .send) ∧
      ∀ text id, cmdId text = some id ↔
        packets[id]?.bind registered = some (s.transactionId + UInt8.ofNat id, text) := by
  have hfits : ∀ command ∈ atCommands.map Prod.snd, (ascii command).length ≤ 190 := by
    decide +kernel
  obtain ⟨next, packets, hregister, hlength, hall⟩ := register_all s hfits
  refine ⟨next, packets, hregister, fun text id => ?_⟩
  rw [cmd_id_iff]
  constructor
  · rintro ⟨command, hmem, rfl⟩
    exact hall id command (mem_table_iff.1 hmem)
  · intro h
    cases hcommand : (atCommands.map Prod.snd)[id]? with
    | none =>
        rw [List.getElem?_eq_none_iff, ← hlength, ← List.getElem?_eq_none_iff] at hcommand
        rw [hcommand] at h
        cases h
    | some command =>
        rw [hall id command hcommand] at h
        cases h
        exact ⟨command, mem_table_iff.2 hcommand, rfl⟩

/-! ## Complete answers -/

/-- The flags of an answer in one packet, or in parts. -/
inductive Complete : List UInt8 → Prop where
  | single : Complete [3]
  | parts (n : Nat) : Complete (0 :: List.replicate n 2 ++ [1])

/-- The packets are one answer. -/
def IsAnswer (tid : UInt8) (packets : List (List UInt8)) : Prop :=
  ∃ replies : List Reply, packets.map decode = replies.map some ∧
    (∀ reply ∈ replies, reply.transactionId = tid) ∧ Complete (replies.map Reply.response)

/-- Nothing is called before the answer has been sent. -/
def AnswersFirst (outputs : List Output) : Prop :=
  ∃ (packets : List (List UInt8)) (callees : List Callee),
    outputs = packets.map .send ++ callees.map .call

theorem single_answer {packet : List UInt8} {reply : Reply} (callees : List Callee)
    (hdecode : decode packet = some reply) (hid : reply.transactionId = tid)
    (hresponse : reply.response = 3) :
    IsAnswer tid (sent (.send packet :: callees.map .call)) ∧
      AnswersFirst (.send packet :: callees.map .call) := by
  refine ⟨⟨[reply], ?_, ?_, ?_⟩, [packet], callees, rfl⟩
  · have hsent : sent (.send packet :: callees.map .call) = [packet] :=
      congrArg (packet :: ·) (sent_calls callees)
    rw [hsent, List.map_singleton, hdecode, List.map_singleton]
  · intro other hmem
    cases List.mem_singleton.1 hmem
    exact hid
  · rw [List.map_singleton, hresponse]
    exact .single

theorem answer_then_answers {callees : List Callee} (hsize : pkt.replysz = 0)
    (hresponse : pkt.response = 3) (h : answerThen pkt s callees = .ok (next, outputs)) :
    next = s ∧ IsAnswer pkt.transactionId (sent outputs) ∧ AnswersFirst outputs := by
  cases h
  exact ⟨rfl, single_answer callees (decode_send (Nat.zero_le _) hsize) rfl hresponse⟩

theorem reply_then_answers {callees : List Callee} (hresponse : pkt.response = 3)
    (h : replyThen pkt s text callees = .ok (next, outputs)) :
    next = s ∧ IsAnswer pkt.transactionId (sent outputs) ∧ AnswersFirst outputs := by
  obtain ⟨first, hfirst, h⟩ := bind_ok h
  cases h
  obtain ⟨packet, rfl, hdecode⟩ := send_text_spec hfirst
  exact ⟨rfl, single_answer callees hdecode rfl hresponse⟩

theorem send_log_answers {blanks : Bool} {stack : Bytes} {log : Option Stream}
    (hsize : pkt.replysz = 0) (hresponse : pkt.response = 3)
    (h : sendLog blanks stack pkt log = .ok outputs) :
    IsAnswer pkt.transactionId (sent outputs) ∧ AnswersFirst outputs := by
  cases log with
  | none =>
      cases h
      exact single_answer [] (decode_send (Nat.zero_le _) hsize) rfl hresponse
  | some stream =>
      obtain ⟨first, last, sends, rfl, hfirst, hlast, packets, replies, rfl, hdecode, hparts, -⟩ :=
        send_log_spec h
      have houtputs : .send first :: packets.map .send ++ [.send last] =
          (first :: packets ++ [last]).map Output.send := by
        rw [List.map_append, List.map_cons, List.map_singleton]
      rw [houtputs, sent_sends]
      refine ⟨⟨⟨pkt.transactionId, pkt.result, 0, ascii "\r\n"⟩ :: replies ++
        [⟨pkt.transactionId, pkt.result, 1, ascii "\r\nEOF\r\n"⟩], ?_, ?_, ?_⟩,
        first :: packets ++ [last], [], (List.append_nil _).symm⟩
      · rw [List.map_append, List.map_cons, hdecode, hfirst, List.map_singleton, hlast]
        simp only [List.map_append, List.map_cons, List.map_nil]
      · intro reply hmem
        rcases List.mem_append.1 hmem with hmem | hmem
        · rcases List.mem_cons.1 hmem with rfl | hmem
          · rfl
          · exact (hparts reply hmem).1
        · cases List.mem_singleton.1 hmem
          rfl
      · have hflags : replies.map Reply.response = List.replicate replies.length 2 := by
          refine List.eq_replicate_iff.2 ⟨List.length_map _, fun flag hmem => ?_⟩
          obtain ⟨reply, hreply, rfl⟩ := List.mem_map.1 hmem
          exact (hparts reply hreply).2
        rw [List.map_append, List.map_cons, hflags, List.map_singleton]
        exact .parts replies.length

/-! ## One request -/

/-- What the `switch` does: there is one answer, and it comes first unless the command restarts the
modem before. -/
structure Handles (restarts : Prop) (s next : AtRuntime) (outputs : List Output) : Prop where
  answer : IsAnswer s.transactionId (sent outputs)
  first : ¬ restarts → AnswersFirst outputs
  transactionId : next.transactionId = s.transactionId
  pending : next.isSmsNotificationPending = s.isSmsNotificationPending

theorem then_handles {restarts : Prop} {flags : AtRuntime} {callees : List Callee}
    (h : answerThen pkt flags callees = .ok (next, outputs))
    (hid : pkt.transactionId = s.transactionId) (hsize : pkt.replysz = 0)
    (hresponse : pkt.response = 3) (hflags : flags.transactionId = s.transactionId)
    (hpending : flags.isSmsNotificationPending = s.isSmsNotificationPending) :
    Handles restarts s next outputs := by
  obtain ⟨rfl, hanswer, hfirst⟩ := answer_then_answers hsize hresponse h
  exact ⟨hid ▸ hanswer, fun _ => hfirst, hflags, hpending⟩

theorem reply_handles {restarts : Prop} {callees : List Callee}
    (h : replyThen (initialResponse s.transactionId) s text callees = .ok (next, outputs)) :
    Handles restarts s next outputs := by
  obtain ⟨rfl, hanswer, hfirst⟩ := reply_then_answers rfl h
  exact ⟨hanswer, fun _ => hfirst, rfl, rfl⟩

theorem log_handles {restarts : Prop} {blanks : Bool} {log : Option Stream}
    (h : (sendLog blanks env.stack (initialResponse s.transactionId) log).map (s, ·) =
      .ok (next, outputs)) : Handles restarts s next outputs := by
  obtain ⟨sends, hsends, heq⟩ := of_map_ok h
  cases heq
  obtain ⟨hanswer, hfirst⟩ := send_log_answers rfl rfl hsends
  exact ⟨hanswer, fun _ => hfirst, rfl, rfl⟩

theorem command_handles {command : Option Nat}
    (h : handleCommand env buf (initialResponse s.transactionId) s command = .ok (next, outputs)) :
    Handles (command = some 123) s next outputs := by
  unfold handleCommand at h
  split at h
  -- `+REBOOTDO`
  case h_14 =>
    cases h
    have hdecode : decode (sendPkt (initialResponse s.transactionId) (pktSize 0)) =
        some ⟨s.transactionId, 1, 3, []⟩ := decode_send (Nat.zero_le _) rfl
    exact ⟨(single_answer [] hdecode rfl rfl).1, fun hother => absurd rfl hother, rfl, rfl⟩
  all_goals first
    | exact then_handles h rfl rfl rfl rfl rfl
    | exact reply_handles h
    | exact log_handles h

/-- The request is for `+REBOOTDO`. -/
def Restarts (buf : Bytes) : Prop := parsedCmd buf = ascii "+REBOOTDO"

/-- A request is answered, and what is none is dropped. -/
theorem request_served (h : handleAtfwdResponse env buf sz s = .ok (next, outputs)) :
    (IsRequest buf sz ∧ Handles (Restarts buf) s { next with transactionId := s.transactionId }
      outputs ∧ next.transactionId = s.transactionId + 1) ∨
    (¬ IsRequest buf sz ∧ next = s ∧ outputs = []) := by
  unfold handleAtfwdResponse at h
  by_cases hack : sz = 14
  · rw [if_pos hack] at h
    cases h
    exact .inr ⟨fun hrequest => by have := hrequest.1; omega, rfl, rfl⟩
  rw [if_neg hack] at h
  by_cases hsmall : sz < 16
  · rw [if_pos hsmall] at h
    cases h
    exact .inr ⟨fun hrequest => by have := hrequest.1; omega, rfl, rfl⟩
  rw [if_neg hsmall] at h
  by_cases hcontrol : buf 0 ≠ 0x04
  · rw [if_pos hcontrol] at h
    cases h
    exact .inr ⟨fun hrequest => hcontrol hrequest.2.1, rfl, rfl⟩
  rw [if_neg hcontrol] at h
  by_cases htype : buf 3 ≠ 0x21
  · rw [if_pos htype] at h
    cases h
    exact .inr ⟨fun hrequest => htype hrequest.2.2, rfl, rfl⟩
  rw [if_neg htype] at h
  obtain ⟨⟨handled, sends⟩, hhandled, h⟩ := bind_ok h
  have hhandles := command_handles hhandled
  cases h
  refine .inl ⟨⟨by omega, not_not.1 hcontrol, not_not.1 htype⟩, ⟨hhandles.answer, ?_, rfl,
    hhandles.pending⟩, ?_⟩
  · intro hother
    refine hhandles.first fun hid => hother ?_
    obtain ⟨command, hmem, htext⟩ := cmd_id_iff.1 hid
    have hcommand : command = "+REBOOTDO" := restart_entry _ hmem rfl
    rw [Restarts, htext, hcommand]
  · rw [hhandles.transactionId]

/-! ## One round of the thread -/

/-- Each of the parts is an answer, with transaction ids in a row. -/
def Numbered (tid : UInt8) : List (List Output) → Prop
  | [] => True
  | answer :: answers => IsAnswer tid (sent answer) ∧ Numbered (tid + 1) answers

theorem Numbered.append {answers more : List (List Output)} (h : Numbered tid answers)
    (hmore : Numbered (tid + UInt8.ofNat answers.length) more) :
    Numbered tid (answers ++ more) := by
  induction answers generalizing tid with
  | nil => simpa using hmore
  | cons answer answers ih =>
      refine ⟨h.1, ih h.2 ?_⟩
      rw [List.length_cons, Nat.add_comm, UInt8.ofNat_add, ← UInt8.add_assoc] at hmore
      exact hmore

/-- What a part of a round does that sends so many answers. -/
structure Sends (count : Nat) (restarts : Prop) (s next : AtRuntime) (outputs : List Output) :
    Prop where
  answers : ∃ answers : List (List Output), answers.length = count ∧ outputs = answers.flatten ∧
    Numbered s.transactionId answers ∧ (¬ restarts → ∀ answer ∈ answers, AnswersFirst answer)
  transactionId : next.transactionId = s.transactionId + UInt8.ofNat count

theorem Sends.imp {count : Nat} {restarts other : Prop} (h : Sends count restarts s next outputs)
    (himp : restarts → other) : Sends count other s next outputs := by
  obtain ⟨⟨answers, hlength, houtputs, hnumbered, hfirst⟩, hid⟩ := h
  exact ⟨⟨answers, hlength, houtputs, hnumbered, fun hother => hfirst (mt himp hother)⟩, hid⟩

theorem sends_none (restarts : Prop) (s : AtRuntime) : Sends 0 restarts s s [] :=
  ⟨⟨[], rfl, rfl, trivial, fun _ _ hmem => (List.not_mem_nil hmem).elim⟩, (UInt8.add_zero _).symm⟩

theorem sends_one {restarts : Prop} (hanswer : IsAnswer s.transactionId (sent outputs))
    (hfirst : ¬ restarts → AnswersFirst outputs)
    (hid : next.transactionId = s.transactionId + 1) : Sends 1 restarts s next outputs := by
  refine ⟨⟨[outputs], rfl, (List.flatten_singleton ..).symm, ⟨hanswer, trivial⟩, ?_⟩, hid⟩
  intro hother answer hmem
  cases List.mem_singleton.1 hmem
  exact hfirst hother

theorem Sends.append {count more : Nat} {restarts : Prop} {middle : AtRuntime}
    {rest : List Output} (h : Sends count restarts s middle outputs)
    (hmore : Sends more restarts middle next rest) :
    Sends (count + more) restarts s next (outputs ++ rest) := by
  obtain ⟨⟨answers, hlength, rfl, hnumbered, hfirst⟩, hid⟩ := h
  obtain ⟨⟨others, hothers, rfl, hrest, hlater⟩, hnext⟩ := hmore
  refine ⟨⟨answers ++ others, ?_, ?_, ?_, ?_⟩, ?_⟩
  · rw [List.length_append, hlength, hothers]
  · rw [List.flatten_append]
  · rw [hid, ← hlength] at hrest
    exact hnumbered.append hrest
  · exact fun hother => List.forall_mem_append.2 ⟨hfirst hother, hlater hother⟩
  · rw [hnext, hid, UInt8.add_assoc, UInt8.ofNat_add]

/-- There is a request, and not just a packet. -/
def hasRequest (env : AtEnv) : Bool :=
  match env.request with
  | none => false
  | some (buf, sz) => decide (IsRequest buf sz)

/-- The answers of a round that has started with no notification pending. -/
def answersOf (env : AtEnv) : Nat :=
  (hasRequest env).toNat + env.notified.toNat + env.cellDataWanted.toNat

/-- The request of a round is for `+REBOOTDO`. -/
def RestartsIn (env : AtEnv) : Prop := ∃ buf sz, env.request = some (buf, sz) ∧ Restarts buf

theorem request_sends (h : serveRequest env s = .ok (next, outputs)) :
    Sends (hasRequest env).toNat (RestartsIn env) s next outputs ∧
      next.isSmsNotificationPending = s.isSmsNotificationPending := by
  unfold serveRequest at h
  cases hrequest : env.request with
  | none =>
      rw [hrequest] at h
      cases h
      have hnone : hasRequest env = false := by rw [hasRequest, hrequest]
      rw [hnone]
      exact ⟨sends_none _ _, rfl⟩
  | some request =>
      obtain ⟨buf, sz⟩ := request
      simp only [hrequest] at h
      rcases request_served h with ⟨hvalid, hhandles, hid⟩ | ⟨hinvalid, rfl, rfl⟩
      · have hsome : hasRequest env = true := by
          simp only [hasRequest, hrequest]
          exact decide_eq_true hvalid
        rw [hsome]
        refine ⟨sends_one hhandles.answer (fun hother => hhandles.first fun hrestarts =>
          hother ⟨buf, sz, hrequest, hrestarts⟩) hid, hhandles.pending⟩
      · have hnone : hasRequest env = false := by
          simp only [hasRequest, hrequest]
          exact decide_eq_false hinvalid
        rw [hnone]
        exact ⟨sends_none _ _, rfl⟩

/-- A text that is sent unasked. -/
theorem unasked_sends {restarts : Prop} {first : Output} (callees : List Callee)
    (h : sendText (initialResponse s.transactionId) text = .ok first)
    (hid : next.transactionId = s.transactionId + 1) :
    Sends 1 restarts s next (first :: callees.map .call) := by
  obtain ⟨packet, rfl, hdecode⟩ := send_text_spec h
  obtain ⟨hanswer, hfirst⟩ := single_answer callees hdecode rfl rfl
  exact sends_one hanswer (fun _ => hfirst) hid

theorem notification_sends {restarts : Prop}
    (h : serveNotification env s = .ok (next, outputs)) :
    Sends s.isSmsNotificationPending.toNat restarts s next outputs ∧
      next.isSmsNotificationPending = false := by
  unfold serveNotification at h
  by_cases hpending : s.isSmsNotificationPending
  · rw [if_pos hpending] at h
    obtain ⟨⟨sentState, sends⟩, hsends, h⟩ := bind_ok h
    obtain ⟨first, hfirst, hsends⟩ := bind_ok hsends
    cases hsends
    cases h
    rw [hpending]
    exact ⟨unasked_sends [.setPendingNotificationSourceExternal, .setNotifPending] hfirst rfl, rfl⟩
  · rw [if_neg hpending] at h
    cases h
    rw [Bool.eq_false_of_not_eq_true hpending]
    exact ⟨sends_none _ _, rfl⟩

theorem cell_data_sends {restarts : Prop} (h : serveCellData env s = .ok (next, outputs)) :
    Sends env.cellDataWanted.toNat restarts s next outputs ∧
      next.isSmsNotificationPending = s.isSmsNotificationPending := by
  unfold serveCellData at h
  by_cases hwanted : env.cellDataWanted
  · rw [if_pos hwanted] at h
    obtain ⟨⟨sentState, sends⟩, hsends, h⟩ := bind_ok h
    obtain ⟨first, hfirst, hsends⟩ := bind_ok hsends
    cases hsends
    cases h
    rw [hwanted]
    exact ⟨unasked_sends [.getOpencellidData] hfirst rfl, rfl⟩
  · rw [if_neg hwanted] at h
    cases h
    rw [Bool.eq_false_of_not_eq_true hwanted]
    exact ⟨sends_none _ _, rfl⟩

theorem round_sends (hpending : s.isSmsNotificationPending = false)
    (h : startAtfwdThread s env = .ok (next, outputs)) :
    Sends (answersOf env) (RestartsIn env) s next outputs ∧
      next.isSmsNotificationPending = false := by
  unfold startAtfwdThread at h
  obtain ⟨⟨afterRequest, first⟩, hrequest, h⟩ := bind_ok h
  obtain ⟨⟨afterNotification, second⟩, hnotification, h⟩ := bind_ok h
  obtain ⟨⟨afterCellData, third⟩, hcellData, h⟩ := bind_ok h
  cases h
  obtain ⟨hfirst, hkept⟩ := request_sends hrequest
  obtain ⟨hsecond, hdone⟩ := notification_sends hnotification
  obtain ⟨hthird, hsame⟩ := cell_data_sends hcellData
  have hchanged : (changed env s).isSmsNotificationPending = env.notified := by
    rw [changed, hpending, Bool.false_or]
  rw [hkept, hchanged] at hsecond
  have hall := (hfirst.append hsecond).append hthird
  exact ⟨⟨hall.answers, hall.transactionId⟩, hsame.trans hdone⟩

/-! ## Answers fit -/

/-- The texts for the network fit into an answer. -/
def CodesFit (env : AtEnv) : Prop := env.mcc.length ≤ 1000 ∧ env.mnc.length ≤ 1000

theorem length_cmti (messages : UInt32) : (cmtiText messages).length < maxReplySz := by
  refine Nat.lt_of_le_of_lt (length_sprintf_le 11 ?_ rfl (by decide)) (show 100 < 2048 by decide)
  simp [length_signed_int32]

theorem length_line {line : List UInt8} (h : line.length ≤ 100) :
    (sprintf "\r\n%s\r\n" [line]).length < maxReplySz := by
  refine Nat.lt_of_le_of_lt (length_sprintf_le 100 ?_ rfl (by decide)) (show 200 < 2048 by decide)
  simpa using h

theorem length_fw_string (n : Nat) : (ascii (fwStrings.getD n "")).length ≤ 100 := by
  have hall : ∀ name ∈ fwStrings, (ascii name).length ≤ 100 := by decide +kernel
  rw [List.getD_eq_getElem?_getD]
  cases hname : fwStrings[n]? with
  | none => decide
  | some name => exact hall name (List.mem_of_getElem? hname)

theorem length_missing (hfits : CodesFit env) :
    (sprintf "\r\n+MISSINGOCID: %s-%s\r\n" [env.mcc, env.mnc]).length < maxReplySz := by
  refine Nat.lt_of_le_of_lt (length_sprintf_le 1000 ?_ rfl (by decide))
    (show 2040 < 2048 by decide)
  simpa using And.intro hfits.1 hfits.2

theorem reply_ok (callees : List Callee) (hfits : text.length < maxReplySz) :
    ∃ result, replyThen pkt s text callees = .ok result := by
  obtain ⟨first, hfirst⟩ := send_text_ok pkt hfits
  exact ⟨_, bind_of_eq_ok hfirst⟩

theorem log_ok (blanks : Bool) (stack : Bytes) (log : Option Stream) :
    ∃ result, (sendLog blanks stack pkt log).map (s, ·) = .ok result := by
  cases log with
  | none => exact ⟨_, rfl⟩
  | some stream =>
      obtain ⟨outputs, houtputs⟩ := send_log_ok blanks stack pkt stream
      exact ⟨_, by rw [houtputs]; rfl⟩

theorem command_ok (env : AtEnv) (buf : Bytes) (pkt : AtCommandRespnse) (s : AtRuntime)
    (command : Option Nat) :
    ∃ result, handleCommand env buf pkt s command = .ok result := by
  unfold handleCommand
  split
  -- the commands that are answered by a text or a log
  case h_17 | h_18 => exact reply_ok [] (length_line (by decide))
  case h_20 | h_34 => exact reply_ok [] (by decide)
  case h_21 | h_22 => exact log_ok _ _ _
  case h_25 | h_26 => exact reply_ok _ (length_cmti _)
  case h_29 => exact reply_ok [] (length_line (length_fw_string _))
  all_goals exact ⟨_, rfl⟩

theorem request_ok (env : AtEnv) (s : AtRuntime) : ∃ result, serveRequest env s = .ok result := by
  unfold serveRequest
  cases env.request with
  | none => exact ⟨_, rfl⟩
  | some request =>
      unfold handleAtfwdResponse
      dsimp only
      split_ifs
      · exact ⟨_, rfl⟩
      · exact ⟨_, rfl⟩
      · exact ⟨_, rfl⟩
      · exact ⟨_, rfl⟩
      · obtain ⟨result, hresult⟩ := command_ok env request.1 (initialResponse s.transactionId) s
          (cmdId (parsedCmd request.1))
        exact ⟨_, bind_of_eq_ok hresult⟩

theorem notification_ok (env : AtEnv) (s : AtRuntime) :
    ∃ result, serveNotification env s = .ok result := by
  unfold serveNotification
  split_ifs
  · obtain ⟨first, hfirst⟩ := send_text_ok (initialResponse s.transactionId)
      (length_cmti env.internalMessages)
    exact ⟨_, bind_of_eq_ok (bind_of_eq_ok hfirst)⟩
  · exact ⟨_, rfl⟩

theorem cell_data_ok (s : AtRuntime) (hfits : CodesFit env) :
    ∃ result, serveCellData env s = .ok result := by
  unfold serveCellData
  split_ifs
  · obtain ⟨first, hfirst⟩ := send_text_ok (initialResponse s.transactionId) (length_missing hfits)
    exact ⟨_, bind_of_eq_ok (bind_of_eq_ok hfirst)⟩
  · exact ⟨_, rfl⟩

theorem round_ok (s : AtRuntime) (hfits : CodesFit env) :
    ∃ result, startAtfwdThread s env = .ok result := by
  obtain ⟨⟨afterRequest, first⟩, hrequest⟩ := request_ok env (changed env s)
  obtain ⟨⟨afterNotification, second⟩, hnotification⟩ := notification_ok env afterRequest
  obtain ⟨⟨afterCellData, third⟩, hcellData⟩ := cell_data_ok afterNotification hfits
  refine ⟨(afterCellData, first ++ second ++ third), (bind_of_eq_ok hrequest).trans ?_⟩
  exact (bind_of_eq_ok hnotification).trans (bind_of_eq_ok hcellData)

/-! ## Every run -/

theorem run_ok (start : AtRuntime) {rounds : List AtEnv} (hfits : ∀ env ∈ rounds, CodesFit env) :
    ∃ result, emit startAtfwdThread start rounds = .ok result := by
  induction rounds generalizing start with
  | nil => exact ⟨_, rfl⟩
  | cons env rounds ih =>
      obtain ⟨⟨next, first⟩, hfirst⟩ := round_ok start (hfits env (List.mem_cons_self ..))
      obtain ⟨result, hrest⟩ := ih next fun other hmem => hfits other (List.mem_cons_of_mem _ hmem)
      exact ⟨_, by rw [emit_cons hfirst, hrest]; rfl⟩

/-- The answers that are sent in some rounds. -/
def answersIn (rounds : List AtEnv) : Nat := rounds.foldr (fun env n => answersOf env + n) 0

theorem run_sends {start finish : AtRuntime} {rounds : List AtEnv} {outputs : List Output}
    (hstart : start.isSmsNotificationPending = false)
    (h : emit startAtfwdThread start rounds = .ok (finish, outputs)) :
    Sends (answersIn rounds) (∃ env ∈ rounds, RestartsIn env) start finish outputs := by
  induction rounds generalizing start outputs with
  | nil =>
      cases h
      exact sends_none _ _
  | cons env rounds ih =>
      obtain ⟨next, first, rest, hfirst, hrest, rfl⟩ := emit_cons_ok h
      obtain ⟨hround, hpending⟩ := round_sends hstart hfirst
      have hhead := hround.imp fun hrestarts =>
        (⟨env, List.mem_cons_self .., hrestarts⟩ : ∃ other ∈ env :: rounds, RestartsIn other)
      refine hhead.append ((ih hpending hrest).imp ?_)
      rintro ⟨other, hmem, hrestarts⟩
      exact ⟨other, List.mem_cons_of_mem _ hmem, hrestarts⟩

/-- What is sent in a run are complete answers with transaction ids in a row: one for every request,
and one for whatever is sent unasked. Unless the modem is restarted, nothing is done before the
answer has been sent. -/
theorem requests_answered {start : AtRuntime} {rounds : List AtEnv}
    (hstart : start.isSmsNotificationPending = false) (hfits : ∀ env ∈ rounds, CodesFit env) :
    ∃ finish outputs, ∃ answers : List (List Output),
      emit startAtfwdThread start rounds = .ok (finish, outputs) ∧ outputs = answers.flatten ∧
      answers.length = answersIn rounds ∧ Numbered start.transactionId answers ∧
      ((∀ env ∈ rounds, ¬ RestartsIn env) → ∀ answer ∈ answers, AnswersFirst answer) := by
  obtain ⟨⟨finish, outputs⟩, hrun⟩ := run_ok start hfits
  obtain ⟨⟨answers, hlength, houtputs, hnumbered, hfirst⟩, -⟩ := run_sends hstart hrun
  refine ⟨finish, outputs, answers, hrun, houtputs, hlength, hnumbered, fun hnone => hfirst ?_⟩
  rintro ⟨env, hmem, hrestarts⟩
  exact hnone env hmem hrestarts

/-- Rounds with a request for a restart of the USB port, without a request, and with a request for a
log. -/
def sampleRounds : List AtEnv :=
  [sampleEnv (some (commandRequest (ascii "+RESETUSB"), 27)), { sampleEnv none with notified := true },
    sampleEnv (some (commandRequest (ascii "+OQLOG"), 25))]

theorem requests_answered_sample :
    ∃ finish outputs, ∃ answers : List (List Output),
      emit startAtfwdThread sampleRuntime sampleRounds = .ok (finish, outputs) ∧
      outputs = answers.flatten ∧ answers.length = answersIn sampleRounds ∧
      Numbered 147 answers ∧
      ((∀ env ∈ sampleRounds, ¬ RestartsIn env) → ∀ answer ∈ answers, AnswersFirst answer) :=
  requests_answered rfl (by simp [sampleRounds, sampleEnv, CodesFit])

end OpenQti.At
