import OpenQti.Sms.Queue

/-!
# What the queue functions do

One lemma per function that says everything a call does to the runtime. The invariant
proofs use these and never unfold the functions. For `handle_message_state` and the two
host requests the result is given as a record; for `process_message_queue` the result is
one of three, `process_message_queue_cases`: nothing, a step of the first entry that is in
one of the states 0 to 4, or a wipe of the queue.
-/

namespace OpenQti.Sms

open Bytes Qmi SmsRuntime

variable {env : Env} {s next : SmsRuntime} {i : Nat}

/-! ## One message -/

/-- Everything `announce` does. -/
theorem announce_eq (env : Env) (i : Nat) (s : SmsRuntime) :
    announce env i s =
      { s with
        currTransactionId := 0
        currentMessageId := (s.msg i).messageId
        msg := Function.update s.msg i
          { s.msg i with state := 1, timestamp := env.clock s.clockReads }
        clockReads := s.clockReads + 1
        wire := (.eventReport i, env.write s.wire.length) :: s.wire } := by
  simp [announce, generateMessageNotification, SmsRuntime.write, stamp, modifyMsg, tick,
    SmsRuntime.now, writeResult]

/-- The entry a message is built from: a raw message is padded first. -/
def sentContents (m : Message) : Message := if m.isRaw then padRaw m else m

/-- Only the length is padded. -/
theorem sent_contents_eq (m : Message) : sentContents m = { m with len := (sentContents m).len } := by
  unfold sentContents padRaw
  split_ifs <;> rfl

/-- The padding does not look at the timestamp. -/
theorem sent_contents_timestamp (m : Message) (timestamp : Int) :
    sentContents { m with timestamp := timestamp } =
      { sentContents m with timestamp := timestamp } := by
  unfold sentContents padRaw
  split_ifs <;> rfl

/-- Nor does it look at the state. -/
theorem sent_contents_state (m : Message) (state : Nat) :
    sentContents { m with state := state } = { sentContents m with state := state } := by
  unfold sentContents padRaw
  split_ifs <;> rfl

/-- Before the message is sent, its entry is padded if it is raw. -/
theorem before_send_eq (i : Nat) (s : SmsRuntime) :
    beforeSend i s = { s with msg := Function.update s.msg i (sentContents (s.msg i)) } := by
  unfold beforeSend sentContents
  by_cases hraw : (s.msg i).isRaw
  · simp only [hraw, if_true, modifyMsg]
  · simp only [hraw, if_false, Function.update_eq_self, Bool.false_eq_true]

/-- Everything `sendContents` does. -/
theorem send_contents_eq (env : Env) (i : Nat) (s : SmsRuntime) :
    sendContents env i s =
      { s with
        msg := Function.update s.msg i
          { sentContents (s.msg i) with
            state := if env.write s.wire.length > 0 then 3 else (s.msg i).state
            timestamp := env.clock s.clockReads }
        clockReads := s.clockReads + 1
        wire := (.readMessage s.currTransactionId i (sentContents (s.msg i)),
          env.write s.wire.length) :: s.wire } := by
  have hstate : (sentContents (s.msg i)).state = (s.msg i).state := by rw [sent_contents_eq]
  unfold sendContents
  rw [before_send_eq]
  by_cases hsent : env.write s.wire.length > 0 <;>
    simp [messagePacket, SmsRuntime.write, stamp, modifyMsg, tick, SmsRuntime.now, writeResult,
      hsent, hstate]

/-- Everything `acknowledgeDeletion` does. -/
theorem acknowledge_deletion_eq (env : Env) (i : Nat) (s : SmsRuntime) :
    acknowledgeDeletion env i s =
      { s with
        currentMessageId := (s.currentMessageId + 1) % 2 ^ 32
        msg := Function.update s.msg i
          { s.msg i with
            state := 9, pkt := fun _ => 0, len := 0, timestamp := env.clock s.clockReads }
        clockReads := s.clockReads + 1
        wire := (if (s.msg i).len > 0 then .delete s.currTransactionId 0x01 0x32
          else .delete s.currTransactionId 0x00 0x00, env.write s.wire.length) :: s.wire } := by
  by_cases hlen : (s.msg i).len > 0 <;>
    simp [acknowledgeDeletion, processMessageDeletion, SmsRuntime.write, stamp, modifyMsg, tick,
      SmsRuntime.now, writeResult, nextMessageId, hlen]

/-- `handle_message_state` does one of the three things, or nothing. -/
theorem handle_message_state_cases (env : Env) (i : Nat) (s : SmsRuntime) :
    (i < queueSize ∧ (s.msg i).state = 0 ∧ handleMessageState env i s = announce env i s) ∨
    (i < queueSize ∧ (s.msg i).state = 2 ∧ handleMessageState env i s = sendContents env i s) ∨
    (i < queueSize ∧ (s.msg i).state = 4 ∧
      handleMessageState env i s = acknowledgeDeletion env i s) ∨
    handleMessageState env i s = s := by
  unfold handleMessageState
  split_ifs with hlarge
  · exact .inr (.inr (.inr rfl))
  · have hlt : i < queueSize := by omega
    split
    · exact .inl ⟨hlt, by assumption, rfl⟩
    · exact .inr (.inl ⟨hlt, by assumption, rfl⟩)
    · exact .inr (.inr (.inl ⟨hlt, by assumption, rfl⟩))
    · exact .inr (.inr (.inr rfl))

/-! ## Packets of the host -/

/-- Everything a request for the contents of message `i` does, in the array. -/
theorem read_requested_eq (hlt : i < queueSize) :
    readRequested env i s = .ok
      { s with
        currentMessageId := i
        msg := Function.update s.msg i
          { sentContents { s.msg i with state := 2 } with
            state := if env.write s.wire.length > 0 then 3 else 2
            timestamp := env.clock (s.clockReads + 1) }
        clockReads := s.clockReads + 2
        wire := (.readMessage s.currTransactionId i (sentContents { s.msg i with state := 2 }),
          env.write s.wire.length) :: s.wire } := by
  have hsmall : ¬ i ≥ queueSize := by omega
  simp [readRequested, index_of_lt hlt, handleMessageState, hsmall, modifyMsg, send_contents_eq,
    stamp, tick, SmsRuntime.now, bind, Except.bind]

/-- A request for a message outside the array does not get past the first access. -/
theorem read_requested_fault (h : queueSize ≤ i) :
    readRequested env i s = .error (.index i) := by
  simp only [readRequested, index_of_ge h, bind, Except.bind]

theorem read_requested_ok (h : readRequested env i s = .ok next) : i < queueSize := by
  by_contra hlarge
  rw [read_requested_fault (by omega)] at h
  cases h

theorem delete_target_le (s : SmsRuntime) : deleteTarget s ≤ s.currentMessageId := by
  unfold deleteTarget
  split_ifs <;> omega

/-- The id after that of an entry does not wrap. -/
theorem succ_mod_of_lt (hlt : i < queueSize) : (i + 1) % 2 ^ 32 = i + 1 := by
  have hsize : queueSize = 256 := rfl
  omega

/-- Everything a deletion request does: the target is wiped, the id after it becomes the current
one, and the entry of that id gets a new timestamp. -/
theorem delete_requested_eq (hcurrent : s.currentMessageId < queueSize)
    (htarget : deleteTarget s + 1 < queueSize) :
    deleteRequested env s = .ok
      { s with
        currentMessageId := deleteTarget s + 1
        msg := Function.update
          (Function.update s.msg (deleteTarget s)
            { s.msg (deleteTarget s) with
              state := 9, pkt := fun _ => 0, len := 0, timestamp := env.clock s.clockReads })
          (deleteTarget s + 1)
          { s.msg (deleteTarget s + 1) with timestamp := env.clock (s.clockReads + 1) }
        clockReads := s.clockReads + 2
        wire := (if (s.msg (deleteTarget s)).len > 0 then .delete s.currTransactionId 0x01 0x32
          else .delete s.currTransactionId 0x00 0x00, env.write s.wire.length) :: s.wire } := by
  have hlt : deleteTarget s < queueSize := by omega
  have hsmall : ¬ deleteTarget s ≥ queueSize := by omega
  have hnext := succ_mod_of_lt hlt
  have hindex : index (deleteTarget s + 1 : Nat) = .ok (deleteTarget s + 1) := index_of_lt htarget
  simp only [deleteRequested, index_of_lt hcurrent, index_of_lt hlt, handleMessageState, hsmall,
    modifyMsg, acknowledge_deletion_eq, stamp, tick, SmsRuntime.now, bind, Except.bind,
    Function.update_self, hnext, hindex, if_false, Function.update_idem,
    Function.update_of_ne (Nat.succ_ne_self (deleteTarget s))]

/-- A deletion request while the current message id is outside the array does not get past the
first access. -/
theorem delete_requested_fault (h : queueSize ≤ s.currentMessageId) :
    deleteRequested env s = .error (.index s.currentMessageId) := by
  simp only [deleteRequested, index_of_ge h, bind, Except.bind]

/-- A deletion request for the last entry of the array faults in its last access. -/
theorem delete_requested_last (hcurrent : s.currentMessageId < queueSize)
    (htarget : queueSize ≤ deleteTarget s + 1) :
    deleteRequested env s = .error (.index (deleteTarget s + 1 : Nat)) := by
  have hlt : deleteTarget s < queueSize := (delete_target_le s).trans_lt hcurrent
  have hsmall : ¬ deleteTarget s ≥ queueSize := by omega
  have hnext := succ_mod_of_lt hlt
  have hindex := index_of_ge htarget
  simp only [deleteRequested, index_of_lt hcurrent, index_of_lt hlt, handleMessageState, hsmall,
    modifyMsg, acknowledge_deletion_eq, bind, Except.bind, Function.update_self, hnext, hindex,
    if_false]

/-- A deletion request that does not fault found its three indices in the array. -/
theorem delete_requested_ok (h : deleteRequested env s = .ok next) :
    s.currentMessageId < queueSize ∧ deleteTarget s + 1 < queueSize := by
  have hcurrent : s.currentMessageId < queueSize := by
    by_contra hlarge
    rw [delete_requested_fault (by omega)] at h
    cases h
  refine ⟨hcurrent, ?_⟩
  by_contra hlarge
  rw [delete_requested_last hcurrent (by omega)] at h
  cases h

/-- A packet of the host is a request for a message, a deletion request, or of no consequence but
for the transaction id that is remembered. -/
theorem notify_wms_event_cases {bytes : Bytes} {len : Nat}
    (h : notifyWmsEvent env bytes len s = .ok next) :
    next = { s with currTransactionId := qmiTransactionId bytes } ∨
    (0 ≤ s.queuePos ∧ qmiMsgid bytes = wmsReadMessage ∧ ∃ offset,
      getTlvOffsetById bytes len 0x01 = some offset ∧ 0 < offset ∧
      readRequested env (storageMessageId bytes offset)
        { s with currTransactionId := qmiTransactionId bytes } = .ok next) ∨
    (0 ≤ s.queuePos ∧ qmiMsgid bytes = wmsDelete ∧
      deleteRequested env { s with currTransactionId := qmiTransactionId bytes } = .ok next) := by
  unfold notifyWmsEvent at h
  by_cases hempty : s.queuePos < 0
  · rw [if_pos hempty] at h
    exact .inl (Except.ok.inj h).symm
  rw [if_neg hempty] at h
  have hpos : 0 ≤ s.queuePos := not_lt.1 hempty
  by_cases hread : qmiMsgid bytes = wmsReadMessage
  · rw [if_pos hread] at h
    cases hoffset : getTlvOffsetById bytes len 0x01 with
    | none =>
        rw [hoffset] at h
        cases h
    | some offset =>
        rw [hoffset] at h
        by_cases hfound : offset > 0
        · exact .inr (.inl ⟨hpos, hread, offset, rfl, hfound, by simpa only [if_pos hfound] using h⟩)
        · simp only [if_neg hfound] at h
          exact .inl (Except.ok.inj h).symm
  rw [if_neg hread] at h
  by_cases hdelete : qmiMsgid bytes = wmsDelete
  · rw [if_pos hdelete] at h
    exact .inr (.inr ⟨hpos, hdelete, h⟩)
  · rw [if_neg hdelete] at h
    exact .inl (Except.ok.inj h).symm

/-! ## Adding messages -/

/-- The text of an entry that has just been filled. -/
theorem holds_copy_text (text : List UInt8) (pkt : Bytes) : Holds (copyText text pkt) 0 text := by
  intro k hk
  simp [copyText, hk]

/-- Adding a message either leaves the runtime alone, because the queue is full or the message
empty, or fills the next entry. -/
theorem add_to_queue_cases {message : List UInt8} {fill : Message → Message}
    (h : addToQueue message fill s = .ok next) :
    (next = s ∧ (s.queuePos > 254 ∨ message = [])) ∨
    (∃ i : Nat, s.queuePos + 1 = i ∧ i < queueSize ∧ message ≠ [] ∧
      message.length ≤ maxMessageSize ∧
      next =
        { s with
          notifPending := true
          source := .msgInternal
          queuePos := i
          msg := Function.update s.msg i
            (fill { s.msg i with pkt := copyText message (s.msg i).pkt, messageId := i }) }) := by
  unfold addToQueue at h
  by_cases hfull : s.queuePos > (queueSize : Int) - 2
  · rw [if_pos hfull] at h
    exact .inl ⟨(Except.ok.inj h).symm, .inl (by simpa [queueSize] using hfull)⟩
  rw [if_neg hfull] at h
  by_cases hlength : message.length > 0
  · rw [if_pos hlength] at h
    cases hindex : index (s.queuePos + 1) with
    | error fault =>
        simp only [hindex] at h
        cases h
    | ok i =>
        simp only [hindex] at h
        obtain ⟨hpos, hlt⟩ := index_eq_ok.1 hindex
        split_ifs at h with hlong
        refine .inr ⟨i, hpos, hlt, List.length_pos_iff.1 hlength, by omega, ?_⟩
        rw [← Except.ok.inj h, ← hpos]
        rfl
  · rw [if_neg hlength] at h
    exact .inl ⟨(Except.ok.inj h).symm, .inr (by simpa using hlength)⟩

/-! ## The worker -/

/-- `u` is `s` with new timestamps in some of the entries whose timestamp was in the future. -/
structure Refreshed (curTime : Int) (s u : SmsRuntime) : Prop where
  rest : u = { s with msg := u.msg, clockReads := u.clockReads }
  entry : ∀ i, u.msg i = { s.msg i with timestamp := (u.msg i).timestamp }
  past : ∀ i, (s.msg i).timestamp ≤ curTime → (u.msg i).timestamp = (s.msg i).timestamp
  reads : s.clockReads ≤ u.clockReads

theorem Refreshed.refl (curTime : Int) (s : SmsRuntime) : Refreshed curTime s s where
  rest := rfl
  entry _ := rfl
  past _ _ := rfl
  reads := le_rfl

theorem Refreshed.trans {curTime : Int} {s t u : SmsRuntime} (hst : Refreshed curTime s t)
    (htu : Refreshed curTime t u) : Refreshed curTime s u where
  rest := by rw [htu.rest, hst.rest]
  entry i := by rw [htu.entry i, hst.entry i]
  past i hpast := by
    have ht := hst.past i hpast
    rw [htu.past i (ht ▸ hpast), ht]
  reads := hst.reads.trans htu.reads

theorem Refreshed.stamp {curTime : Int} (hfuture : curTime < (s.msg i).timestamp) :
    Refreshed curTime s (s.stamp env i) where
  rest := rfl
  entry j := by
    by_cases hj : j = i
    · subst hj
      simp [SmsRuntime.stamp, modifyMsg, tick]
    · simp [SmsRuntime.stamp, modifyMsg, tick, hj]
  past j hpast := by
    have hj : j ≠ i := by
      rintro rfl
      omega
    simp [SmsRuntime.stamp, modifyMsg, tick, hj]
  reads := Nat.le_succ _

theorem Refreshed.state {curTime : Int} {u : SmsRuntime} (h : Refreshed curTime s u) (i : Nat) :
    (u.msg i).state = (s.msg i).state := by
  rw [h.entry i]

theorem Refreshed.queue_pos {curTime : Int} {u : SmsRuntime} (h : Refreshed curTime s u) :
    u.queuePos = s.queuePos := by
  rw [h.rest]

/-- The entry the loop looks at, once its timestamp is refreshed. -/
def refresh (env : Env) (curTime : Int) (i : Nat) (s : SmsRuntime) : SmsRuntime :=
  if curTime - (s.msg i).timestamp < 0 then s.stamp env i else s

theorem refreshed_refresh (env : Env) (curTime : Int) (i : Nat) (s : SmsRuntime) :
    Refreshed curTime s (refresh env curTime i s) := by
  unfold refresh
  split_ifs with hfuture
  · exact .stamp (by omega)
  · exact .refl curTime s

theorem refresh_other {curTime : Int} {j : Nat} (hj : j ≠ i) :
    (refresh env curTime i s).msg j = s.msg j := by
  unfold refresh
  split_ifs
  · simp [SmsRuntime.stamp, modifyMsg, tick, hj]
  · rfl

/-- One round of the loop of `process_message_queue`. -/
theorem queue_loop_succ {curTime : Int} {remaining position : Nat} (hlt : position < queueSize) :
    queueLoop env curTime (remaining + 1) position s =
      if (s.msg position).state ≤ 4 then
        .ok (serve env (curTime - (s.msg position).timestamp) position
          (refresh env curTime position s))
      else queueLoop env curTime remaining (position + 1) (refresh env curTime position s) := by
  have hstate := (refreshed_refresh env curTime position s).state position
  simp only [queueLoop, index_of_lt hlt, bind, Except.bind]
  show (if ((refresh env curTime position s).msg position).state ≤ 4 then _ else _) = _
  rw [hstate]
  rfl

/-- The loop finds the first entry that is not done, or wipes the queue. -/
theorem queue_loop_cases {curTime : Int} {remaining position : Nat}
    (hsize : position + remaining ≤ queueSize)
    (h : queueLoop env curTime remaining position s = .ok next) :
    (∃ i u, position ≤ i ∧ i < position + remaining ∧
      (∀ j, position ≤ j → j < i → 4 < (s.msg j).state) ∧ (s.msg i).state ≤ 4 ∧
      Refreshed curTime s u ∧ next = serve env (curTime - (s.msg i).timestamp) i u) ∨
    (∃ u, (∀ j, position ≤ j → j < position + remaining → 4 < (s.msg j).state) ∧
      Refreshed curTime s u ∧ wipeQueue u = .ok next) := by
  -- The loop may refresh the entry it passes, so the runtime is generalised as well.
  induction remaining generalizing position s with
  | zero => exact .inr ⟨s, fun j hj hlt => by omega, .refl curTime s, h⟩
  | succ remaining ih =>
      rw [queue_loop_succ (by omega)] at h
      have hrefreshed := refreshed_refresh env curTime position s
      split_ifs at h with hstate
      · exact .inl ⟨position, _, le_rfl, by omega, fun j hj hlt => by omega, hstate, hrefreshed,
          (Except.ok.inj h).symm⟩
      · have hfirst : ∀ j, position ≤ j → j < position + 1 → 4 < (s.msg j).state := by
          intro j hj hlt
          obtain rfl : j = position := by omega
          omega
        obtain ⟨i, u, hi, hlt, hdone, hserved, hu, hnext⟩ | ⟨u, hdone, hu, hwipe⟩ :=
          ih (by omega) h
        · -- the entry that is served comes after the one refreshed in this round
          have hentry : (refresh env curTime position s).msg i = s.msg i :=
            refresh_other (by omega)
          rw [hentry] at hserved hnext
          refine .inl ⟨i, u, by omega, by omega, fun j hj hji => ?_, hserved,
            hrefreshed.trans hu, hnext⟩
          by_cases hnow : j < position + 1
          · exact hfirst j hj hnow
          · rw [← hrefreshed.state j]
            exact hdone j (by omega) hji
        · refine .inr ⟨u, fun j hj hji => ?_, hrefreshed.trans hu, hwipe⟩
          by_cases hnow : j < position + 1
          · exact hfirst j hj hnow
          · rw [← hrefreshed.state j]
            exact hdone j (by omega) (by omega)

/-- Inside the array the loop does not fault. -/
theorem queue_loop_ok (env : Env) (curTime : Int) {remaining position : Nat}
    (hsize : position + remaining ≤ queueSize) (hpos : s.queuePos < queueSize) :
    ∃ next, queueLoop env curTime remaining position s = .ok next := by
  induction remaining generalizing position s with
  | zero => exact ⟨_, by rw [queueLoop, wipeQueue, if_pos hpos]⟩
  | succ remaining ih =>
      rw [queue_loop_succ (by omega)]
      split_ifs
      · exact ⟨_, rfl⟩
      · have hrefreshed := refreshed_refresh env curTime position s
        exact ih (by omega) (by rwa [hrefreshed.queue_pos])

/-- The states of a message that the worker handles. -/
theorem serve_cases (env : Env) (elapsed : Int) (hstate : (s.msg i).state ≤ 4) :
    ((s.msg i).state = 0 ∧ serve env elapsed i s =
      handleMessageState env (s.msg i).messageId
        { s with currentMessageId := (s.msg i).messageId }) ∨
    (((s.msg i).state = 2 ∨ (s.msg i).state = 4) ∧
      serve env elapsed i s = handleMessageState env s.currentMessageId s) ∨
    (((s.msg i).state = 1 ∨ (s.msg i).state = 3) ∧
      serve env elapsed i s = awaitHost elapsed i s) := by
  have hcode : (s.msg i).state = 0 ∨ (s.msg i).state = 1 ∨ (s.msg i).state = 2 ∨
      (s.msg i).state = 3 ∨ (s.msg i).state = 4 := by
    omega
  obtain hcode | hcode | hcode | hcode | hcode := hcode <;> simp [serve, hcode]

/-- A message that waits for the host is tried again, given up, or left waiting. -/
theorem await_host_cases (elapsed : Int) (i : Nat) (s : SmsRuntime) :
    (elapsed > fiveSeconds ∧ (s.msg i).retries < 3 ∧ awaitHost elapsed i s =
      s.modifyMsg i fun m => { m with retries := m.retries + 1, state := m.state - 1 }) ∨
    (elapsed > fiveSeconds ∧ 3 ≤ (s.msg i).retries ∧ awaitHost elapsed i s =
      (s.modifyMsg i fun m =>
        { m with pkt := fun _ => 0, state := 9, retries := 0, len := 0 }).nextMessageId) ∨
    (elapsed ≤ fiveSeconds ∧ awaitHost elapsed i s = s) := by
  unfold awaitHost
  split_ifs with hretry hgiveUp
  · exact .inl ⟨hretry.1, hretry.2, rfl⟩
  · exact .inr (.inl ⟨hgiveUp.1, hgiveUp.2, rfl⟩)
  · exact .inr (.inr ⟨by omega, rfl⟩)

/-- A call of `process_message_queue` does nothing, serves the first entry that is not done, or,
if all are done, wipes the queue. -/
theorem process_message_queue_cases (hsize : s.queuePos < queueSize)
    (h : processMessageQueue env s = .ok next) :
    ((s.lockQueue = true ∨ s.queuePos < 0) ∧ next = s.tick) ∨
    (s.lockQueue = false ∧ ∃ (i : Nat) (u : SmsRuntime), (i : Int) ≤ s.queuePos ∧
      (∀ j < i, 4 < (s.msg j).state) ∧
      (s.msg i).state ≤ 4 ∧ Refreshed (s.now env) s.tick u ∧
      next = serve env (s.now env - (s.msg i).timestamp) i u) ∨
    (s.lockQueue = false ∧ 0 ≤ s.queuePos ∧
      ∃ u, (∀ j : Nat, (j : Int) ≤ s.queuePos → 4 < (s.msg j).state) ∧
        Refreshed (s.now env) s.tick u ∧ wipeQueue u = .ok next) := by
  unfold processMessageQueue at h
  by_cases hlock : s.lockQueue = true
  · exact .inl ⟨.inl hlock, by simpa [tick, hlock] using h.symm⟩
  by_cases hempty : s.queuePos < 0
  · exact .inl ⟨.inr hempty, by simpa [tick, hlock, hempty] using h.symm⟩
  have hloop : queueLoop env (s.now env) (s.queuePos + 1).toNat 0 s.tick = .ok next := by
    simpa [tick, hlock, hempty] using h
  have hunlocked : s.lockQueue = false := by simpa using hlock
  obtain ⟨i, u, -, hlt, hdone, hserved, hu, hnext⟩ | ⟨u, hdone, hu, hwipe⟩ :=
    queue_loop_cases (by omega) hloop
  · exact .inr (.inl ⟨hunlocked, i, u, by omega, fun j hj => hdone j (by omega) hj, hserved, hu,
      hnext⟩)
  · exact .inr (.inr ⟨hunlocked, by omega, u, fun j hj => hdone j (by omega) (by omega), hu,
      hwipe⟩)

/-- With the queue position in the array, `process_message_queue` does not fault. -/
theorem process_message_queue_ok (env : Env) (hsize : s.queuePos < queueSize) :
    ∃ next, processMessageQueue env s = .ok next := by
  unfold processMessageQueue
  simp only
  split_ifs with hlock hempty
  · exact ⟨_, rfl⟩
  · exact ⟨_, rfl⟩
  · simp only [tick] at hempty
    exact queue_loop_ok env _ (by simp only [tick]; omega) hsize

/-- What `wipe_queue` leaves. -/
theorem wipe_queue_eq (h : wipeQueue s = .ok next) :
    next =
      { s with
        msg := fun i =>
          if (i : Int) ≤ s.queuePos then { s.msg i with state := 0, retries := 0 } else s.msg i
        notifPending := false
        source := .msgNone
        queuePos := -1
        currentMessageId := 0 } := by
  unfold wipeQueue at h
  split_ifs at h
  exact (Except.ok.inj h).symm

end OpenQti.Sms
