import OpenQti.Lib.Run
import OpenQti.Sms.Effects

/-!
# Runs of the SMS queue

The queue as a machine: `Op` are the calls that the rest of the daemon makes, in any order,
and `step` is what a call does. `Effect` lists everything a step can do to the queue, one
rule per outcome, and `step_effect` says that the list is complete in every well-formed
state. The safety proofs go by cases on it. `WellFormed` holds in every state that is
reached, whatever the host sends.
-/

namespace OpenQti.Sms

open Bytes Qmi SmsRuntime

/-- The calls that work on the queue. -/
inductive Op where
  | addSms (message : List UInt8)
  | addRawSms (message : List UInt8) (tpDcs : UInt8) (isCb : Bool)
  | processMessageQueue
  | notifyWmsEvent (bytes : Bytes) (len : Nat)
  | setQueueLock (lock : Bool)

/-- What a call does. -/
def step (env : Env) (s : SmsRuntime) : Op → Except Fault SmsRuntime
  | .addSms message => addSmsToQueue message s
  | .addRawSms message tpDcs isCb => addRawSmsToQueue message tpDcs isCb s
  | .processMessageQueue => processMessageQueue env s
  | .notifyWmsEvent bytes len => notifyWmsEvent env bytes len s
  | .setQueueLock lock => .ok { s with lockQueue := lock }

/-- The text a call adds, and how it fills the other fields of the entry. -/
def Op.adds : Op → Option (List UInt8 × (Message → Message))
  | .addSms message => some (message, textFields)
  | .addRawSms message tpDcs isCb => some (message, rawFields message tpDcs isCb)
  | _ => none

theorem step_adds {env : Env} {s : SmsRuntime} {op : Op} {message : List UInt8}
    {fields : Message → Message} (hop : op.adds = some (message, fields)) :
    step env s op = addToQueue message fields s := by
  cases op with
  | addSms text =>
      cases hop
      rfl
  | addRawSms text tpDcs isCb =>
      cases hop
      rfl
  | processMessageQueue => cases hop
  | notifyWmsEvent bytes len => cases hop
  | setQueueLock lock => cases hop

/-- The message id of a request for the contents of a message. -/
def readId (bytes : Bytes) (len : Nat) : Option Nat :=
  if qmiMsgid bytes = wmsReadMessage then
    match getTlvOffsetById bytes len 0x01 with
    | some offset => if 0 < offset then some (storageMessageId bytes offset) else none
    | none => none
  else none

/-- The message id of a deletion request: the index TLV `0x10`, as in `struct
sms_delete_request`. -/
def deleteId (bytes : Bytes) (len : Nat) : Option Nat :=
  if qmiMsgid bytes = wmsDelete then
    match getTlvOffsetById bytes len 0x10 with
    | some offset => if 0 < offset ∧ offset < len then some (le32 bytes (offset + 3)) else none
    | none => none
  else none

/-- The message id a host request names. -/
def requestedId (bytes : Bytes) (len : Nat) : Option Nat :=
  if qmiMsgid bytes = wmsReadMessage then readId bytes len else deleteId bytes len

/-- The message of this id is in the queue. -/
def Queued (s : SmsRuntime) (id : Nat) : Prop := (id : Int) ≤ s.queuePos

instance (s : SmsRuntime) (id : Nat) : Decidable (Queued s id) :=
  inferInstanceAs (Decidable ((id : Int) ≤ s.queuePos))

/-- A host request, while messages are queued, names one of them. -/
def NamesQueued (s : SmsRuntime) : Op → Prop
  | .notifyWmsEvent bytes len =>
      0 ≤ s.queuePos → ∀ id, requestedId bytes len = some id → Queued s id
  | _ => True

/-- A packet with the id of a request for contents is such a request. -/
theorem requested_id_of_read_id {bytes : Bytes} {len id : Nat} (h : readId bytes len = some id) :
    requestedId bytes len = some id := by
  have hread : qmiMsgid bytes = wmsReadMessage := by
    by_contra hother
    rw [readId, if_neg hother] at h
    cases h
  rwa [requestedId, if_pos hread]

/-! ## What a step can do -/

/-- The same entry, but for the time of its last action. -/
def SameEntry (m m' : Message) : Prop := m' = { m with timestamp := m'.timestamp }

/-- The step changes nothing the queue depends on: the entries keep all but their timestamps. -/
structure Idle (s next : SmsRuntime) : Prop where
  queuePos : next.queuePos = s.queuePos
  notifPending : next.notifPending = s.notifPending
  source : next.source = s.source
  entry : ∀ j, SameEntry (s.msg j) (next.msg j)
  wire : next.wire = s.wire

/-- The step rewrites entry `i` with `f`, and writes `packets` to the host. -/
structure Rewrites (s next : SmsRuntime) (i : Nat) (f : Message → Message)
    (packets : List (HostPacket × Int)) : Prop where
  queuePos : next.queuePos = s.queuePos
  notifPending : next.notifPending = s.notifPending
  source : next.source = s.source
  entry : SameEntry (f (s.msg i)) (next.msg i)
  others : ∀ j, j ≠ i → SameEntry (s.msg j) (next.msg j)
  wire : next.wire = packets ++ s.wire

/-- An entry whose contents have been written to the host with this result. -/
def contentsSent (result : Int) (m : Message) : Message :=
  { sentContents m with state := if result > 0 then 3 else 2 }

/-- An entry that is done: the text is wiped. -/
def wipedEntry (m : Message) : Message := { m with state := 9, pkt := fun _ => 0, len := 0 }

/-- Everything a step can do. -/
inductive Effect (env : Env) (s : SmsRuntime) (op : Op) (next : SmsRuntime) : Prop where
  | idle : Idle s next → Effect env s op next
  | accepted (message : List UInt8) (fields : Message → Message) (i : Nat) :
      op.adds = some (message, fields) → s.queuePos + 1 = i → i < queueSize →
      message ≠ [] → message.length ≤ maxMessageSize →
      next =
        { s with
          notifPending := true
          source := .msgInternal
          queuePos := i
          msg := Function.update s.msg i
            (fields { s.msg i with pkt := copyText message (s.msg i).pkt, messageId := i }) } →
      Effect env s op next
  | announced (i : Nat) (result : Int) :
      op = .processMessageQueue → (s.msg i).state = 0 →
      ((i : Int) ≤ s.queuePos ∨ ∃ k : Nat, (k : Int) ≤ s.queuePos ∧ (s.msg k).state = 2 ∧
        (∀ j < k, (s.msg j).state = 9) ∧ i = s.currentMessageId ∧ i < queueSize) →
      Rewrites s next i (fun m => { m with state := 1 }) [(.eventReport i, result)] →
      Effect env s op next
  | resent (i tid : Nat) (contents : Message) (result : Int) :
      op = .processMessageQueue → (s.msg i).state = 2 → contents.pkt = (s.msg i).pkt →
      Rewrites s next i (contentsSent result) [(.readMessage tid i contents, result)] →
      Effect env s op next
  | retried (i : Nat) :
      op = .processMessageQueue → (i : Int) ≤ s.queuePos →
      (s.msg i).state = 1 ∨ (s.msg i).state = 3 → (s.msg i).retries < 3 →
      Rewrites s next i (fun m => { m with retries := m.retries + 1, state := m.state - 1 }) [] →
      Effect env s op next
  | gaveUp (i : Nat) :
      op = .processMessageQueue → (i : Int) ≤ s.queuePos →
      (s.msg i).state = 1 ∨ (s.msg i).state = 3 →
      3 ≤ (s.msg i).retries → s.now env - (s.msg i).timestamp > fiveSeconds →
      Rewrites s next i (fun m => { wipedEntry m with retries := 0 }) [] →
      Effect env s op next
  | wiped :
      op = .processMessageQueue → 0 ≤ s.queuePos →
      (∀ j : Nat, (j : Int) ≤ s.queuePos → (s.msg j).state = 9) →
      next.queuePos = -1 → next.notifPending = false → next.source = .msgNone →
      (∀ j : Nat, (j : Int) ≤ s.queuePos →
        SameEntry { s.msg j with state := 0, retries := 0 } (next.msg j)) →
      (∀ j : Nat, s.queuePos < j → SameEntry (s.msg j) (next.msg j)) →
      next.wire = s.wire →
      Effect env s op next
  | read (bytes : Bytes) (len i tid : Nat) (contents : Message) (result : Int) :
      op = .notifyWmsEvent bytes len → 0 ≤ s.queuePos → readId bytes len = some i →
      i < queueSize → contents.pkt = (s.msg i).pkt →
      Rewrites s next i (contentsSent result) [(.readMessage tid i contents, result)] →
      Effect env s op next
  | deleted (bytes : Bytes) (len : Nat) (packet : HostPacket) (result : Int) :
      op = .notifyWmsEvent bytes len → 0 ≤ s.queuePos → qmiMsgid bytes = wmsDelete →
      s.currentMessageId < queueSize → deleteTarget s + 1 < queueSize →
      Rewrites s next (deleteTarget s) wipedEntry [(packet, result)] →
      Effect env s op next

variable {env : Env} {s u next : SmsRuntime} {op : Op} {i : Nat} {f : Message → Message}
  {packets : List (HostPacket × Int)}

theorem SameEntry.refl (m : Message) : SameEntry m m := rfl

theorem SameEntry.state {m m' : Message} (h : SameEntry m m') : m'.state = m.state := by
  rw [h]

theorem Refreshed.idle (h : Refreshed (s.now env) s.tick u) : Idle s u where
  queuePos := by rw [h.rest]; rfl
  notifPending := by rw [h.rest]; rfl
  source := by rw [h.rest]; rfl
  entry := h.entry
  wire := by rw [h.rest]; rfl

/-- The ids of the dialogue stay while the time stamps are refreshed. -/
theorem Refreshed.ids (h : Refreshed (s.now env) s.tick u) :
    u.currentMessageId = s.currentMessageId ∧ u.currTransactionId = s.currTransactionId := by
  rw [h.rest]
  exact ⟨rfl, rfl⟩

/-- A single update after an idle step. -/
theorem Idle.rewrites (hidle : Idle s u) {m : Message} (hpos : next.queuePos = u.queuePos)
    (hpending : next.notifPending = u.notifPending) (hsource : next.source = u.source)
    (hmsg : next.msg = Function.update u.msg i m) (hentry : SameEntry (f (s.msg i)) m)
    (hwire : next.wire = packets ++ u.wire) : Rewrites s next i f packets where
  queuePos := hpos.trans hidle.queuePos
  notifPending := hpending.trans hidle.notifPending
  source := hsource.trans hidle.source
  entry := by rwa [hmsg, Function.update_self]
  others j hj := by
    rw [hmsg, Function.update_of_ne hj]
    exact hidle.entry j
  wire := by rw [hwire, hidle.wire]

/-! ## Well-formed states -/

/-- What holds of the queue in every state: its position is in the array, the entries up to it
carry their own index, and every entry is in one of the states in which the functions leave it. -/
structure WellFormed (s : SmsRuntime) : Prop where
  lower : -1 ≤ s.queuePos
  upper : s.queuePos < queueSize
  messageId : ∀ i : Nat, (i : Int) ≤ s.queuePos → (s.msg i).messageId = i
  state : ∀ i, (s.msg i).state ≤ 3 ∨ (s.msg i).state = 9

theorem well_formed_start : WellFormed start where
  lower := by decide
  upper := by decide
  messageId i hi := by
    have hstart : start.queuePos = -1 := rfl
    omega
  state i := .inl (Nat.zero_le _)

/-! ## The list is complete -/

theorem same_entry_sent {m m' : Message} (h : SameEntry m m') (result timestamp : Int) :
    SameEntry (contentsSent result m)
      { sentContents m' with state := if result > 0 then 3 else 2, timestamp := timestamp } := by
  have hsent : sentContents m' = { sentContents m with timestamp := m'.timestamp } := by
    rw [← sent_contents_timestamp]
    exact congrArg sentContents h
  rw [hsent]
  rfl

/-- The worker's dispatch on the current message, when the first entry that is not done is
`first`. -/
theorem dispatch_effect (hu : Refreshed (s.now env) s.tick u) {first : Nat}
    (hfirst : (first : Int) ≤ s.queuePos) (hstate : (s.msg first).state = 2)
    (hdone : ∀ j < first, (s.msg j).state = 9) (hwell : WellFormed s) :
    Effect env s .processMessageQueue (handleMessageState env u.currentMessageId u) := by
  have hcurrent := hu.ids.1
  obtain ⟨hlt, hnew, heq⟩ | ⟨hlt, hpending, heq⟩ | ⟨hlt, hdelete, heq⟩ | heq :=
    handle_message_state_cases env u.currentMessageId u
  · rw [heq, announce_eq]
    rw [hu.state] at hnew
    refine .announced _ (env.write u.wire.length) rfl hnew
      (.inr ⟨first, hfirst, hstate, hdone, hcurrent, hlt⟩)
      (hu.idle.rewrites rfl rfl rfl rfl ?_ rfl)
    rw [SameEntry, hu.entry]
    rfl
  · rw [heq, send_contents_eq]
    refine .resent _ u.currTransactionId _ (env.write u.wire.length) rfl (hu.state _ ▸ hpending) ?_
      (hu.idle.rewrites rfl rfl rfl rfl ?_ rfl)
    · rw [sent_contents_eq, hu.entry]
      rfl
    · rw [hpending]
      exact same_entry_sent (hu.entry _) _ _
  · have hsettled := hwell.state u.currentMessageId
    rw [hu.state] at hdelete
    change (s.msg u.currentMessageId).state = 4 at hdelete
    omega
  · rw [heq]
    exact .idle hu.idle

/-- A message in state 0 is announced. -/
theorem serve_new (hu : Refreshed (s.now env) s.tick u) (hwell : WellFormed s)
    (hi : (i : Int) ≤ s.queuePos) (hnew : (s.msg i).state = 0) (elapsed : Int) :
    serve env elapsed i u = announce env i { u with currentMessageId := i } := by
  have hid : (u.msg i).messageId = i := by
    rw [hu.entry]
    exact hwell.messageId i hi
  have hsmall : ¬ i ≥ queueSize := by
    have := hwell.upper
    omega
  have hstate : (u.msg i).state = 0 := (hu.state i).trans hnew
  simp only [serve, hstate, hid, handleMessageState, if_neg hsmall]

/-- The worker on a message in state 0. -/
theorem notification_effect (hu : Refreshed (s.now env) s.tick u) (hi : (i : Int) ≤ s.queuePos)
    (hnew : (s.msg i).state = 0) :
    Effect env s .processMessageQueue (announce env i { u with currentMessageId := i }) := by
  rw [announce_eq]
  refine .announced i _ rfl hnew (.inl hi) (hu.idle.rewrites rfl rfl rfl rfl ?_ rfl)
  rw [SameEntry, hu.entry]
  rfl

/-- The worker on a message that waits for the host. -/
theorem await_effect (hu : Refreshed (s.now env) s.tick u) (hi : (i : Int) ≤ s.queuePos)
    (hwaits : (s.msg i).state = 1 ∨ (s.msg i).state = 3) :
    Effect env s .processMessageQueue (awaitHost (s.now env - (s.msg i).timestamp) i u) := by
  have hretries : (u.msg i).retries = (s.msg i).retries := by
    rw [hu.entry]
    rfl
  obtain ⟨-, hfew, heq⟩ | ⟨helapsed, hmany, heq⟩ | ⟨-, heq⟩ :=
    await_host_cases (s.now env - (s.msg i).timestamp) i u
  · rw [heq]
    refine .retried i rfl hi hwaits (hretries ▸ hfew) (hu.idle.rewrites rfl rfl rfl rfl ?_ rfl)
    rw [SameEntry, hu.entry]
    rfl
  · rw [heq]
    refine .gaveUp i rfl hi hwaits (hretries ▸ hmany) helapsed
      (hu.idle.rewrites rfl rfl rfl rfl ?_ rfl)
    rw [SameEntry, hu.entry]
    rfl
  · rw [heq]
    exact .idle hu.idle

theorem process_effect (hwell : WellFormed s) (h : processMessageQueue env s = .ok next) :
    Effect env s .processMessageQueue next := by
  have hdone : ∀ j, 4 < (s.msg j).state → (s.msg j).state = 9 := by
    intro j hj
    have := hwell.state j
    omega
  obtain ⟨-, rfl⟩ | ⟨-, i, u, hi, hbefore, hserved, hu, rfl⟩ | ⟨-, hpos, u, hall, hu, hwipe⟩ :=
    process_message_queue_cases hwell.upper h
  · exact .idle ⟨rfl, rfl, rfl, fun _ => rfl, rfl⟩
  · have hstate := hu.state i
    change _ = (s.msg i).state at hstate
    obtain ⟨hnew, heq⟩ | ⟨hpending, heq⟩ | ⟨hwaits, heq⟩ :=
      serve_cases env (s.now env - (s.msg i).timestamp) (hstate ▸ hserved)
    · have hnew' : (s.msg i).state = 0 := hstate ▸ hnew
      rw [serve_new hu hwell hi hnew']
      exact notification_effect hu hi hnew'
    · rw [heq]
      have htwo : (s.msg i).state = 2 := by
        have := hwell.state i
        omega
      exact dispatch_effect hu hi htwo (fun j hj => hdone j (hbefore j hj)) hwell
    · rw [heq]
      exact await_effect hu hi (hstate ▸ hwaits)
  · have hidle := hu.idle
    rw [wipe_queue_eq hwipe]
    refine .wiped rfl hpos (fun j hj => hdone j (hall j hj)) rfl rfl rfl (fun j hj => ?_)
      (fun j hj => ?_) hidle.wire
    · rw [SameEntry, hidle.queuePos]
      simp only [hj, if_true]
      rw [hidle.entry j]
    · rw [SameEntry, hidle.queuePos]
      simp only [not_le.2 hj, if_false]
      exact hidle.entry j

/-- A deletion request wipes its target, and restamps the entry after it. -/
theorem delete_rewrites (h : deleteRequested env s = .ok next) :
    ∃ packet, Rewrites s next (deleteTarget s) wipedEntry
      [(packet, env.write s.wire.length)] := by
  obtain ⟨hcurrent, htarget⟩ := delete_requested_ok h
  rw [delete_requested_eq hcurrent htarget] at h
  rw [← Except.ok.inj h]
  refine ⟨_, rfl, rfl, rfl, ?_, fun j hj => ?_, rfl⟩
  · simp [SameEntry, wipedEntry]
  · by_cases hnext : j = deleteTarget s + 1
    · subst hnext
      simp [SameEntry]
    · simp [SameEntry, hj, hnext]

theorem notify_effect {bytes : Bytes} {len : Nat} (h : notifyWmsEvent env bytes len s = .ok next) :
    Effect env s (.notifyWmsEvent bytes len) next := by
  have hidle : Idle s { s with currTransactionId := qmiTransactionId bytes } :=
    ⟨rfl, rfl, rfl, fun _ => rfl, rfl⟩
  obtain rfl | ⟨hpos, hread, offset, hoffset, hfound, heq⟩ | ⟨hpos, hdelete, heq⟩ :=
    notify_wms_event_cases h
  · exact .idle hidle
  · have hlt := read_requested_ok heq
    have hid : readId bytes len = some (storageMessageId bytes offset) := by
      simp only [readId, hread, hoffset, if_true, if_pos hfound]
    rw [read_requested_eq hlt] at heq
    rw [← Except.ok.inj heq]
    refine .read bytes len _ _ _ (env.write s.wire.length) rfl hpos hid hlt ?_
      (hidle.rewrites rfl rfl rfl rfl ?_ rfl)
    · rw [sent_contents_eq]
    · rw [sent_contents_state]
      exact same_entry_sent (.refl _) _ _
  · obtain ⟨hcurrent, htarget⟩ := delete_requested_ok heq
    obtain ⟨packet, hrewrites⟩ := delete_rewrites heq
    exact .deleted bytes len packet _ rfl hpos hdelete hcurrent htarget
      ⟨hrewrites.queuePos, hrewrites.notifPending, hrewrites.source, hrewrites.entry,
        hrewrites.others, hrewrites.wire⟩

theorem add_effect {message : List UInt8} {fields : Message → Message}
    (hop : op.adds = some (message, fields)) (h : addToQueue message fields s = .ok next) :
    Effect env s op next := by
  obtain ⟨rfl, -⟩ | ⟨i, hpos, hlt, hmessage, hlength, hnext⟩ := add_to_queue_cases h
  · exact .idle ⟨rfl, rfl, rfl, fun _ => rfl, rfl⟩
  · exact .accepted message fields i hop hpos hlt hmessage hlength hnext

/-- In a well-formed state a step does one of the things on the list. -/
theorem step_effect (hwell : WellFormed s) (h : step env s op = .ok next) :
    Effect env s op next := by
  cases op with
  | addSms message => exact add_effect rfl h
  | addRawSms message tpDcs isCb => exact add_effect rfl h
  | processMessageQueue => exact process_effect hwell h
  | notifyWmsEvent bytes len => exact notify_effect h
  | setQueueLock lock =>
      rw [← Except.ok.inj h]
      exact .idle ⟨rfl, rfl, rfl, fun _ => rfl, rfl⟩

/-! ## Every reached state is well formed -/

theorem WellFormed.idle (hwell : WellFormed s) (h : Idle s next) : WellFormed next where
  lower := h.queuePos ▸ hwell.lower
  upper := h.queuePos ▸ hwell.upper
  messageId j hj := by
    rw [h.entry j]
    exact hwell.messageId j (h.queuePos ▸ hj)
  state j := by
    rw [(h.entry j).state]
    exact hwell.state j

theorem WellFormed.rewrites (hwell : WellFormed s) (h : Rewrites s next i f packets)
    (hid : (f (s.msg i)).messageId = (s.msg i).messageId)
    (hstate : (f (s.msg i)).state ≤ 3 ∨ (f (s.msg i)).state = 9) : WellFormed next where
  lower := h.queuePos ▸ hwell.lower
  upper := h.queuePos ▸ hwell.upper
  messageId j hj := by
    have hbefore := hwell.messageId j (h.queuePos ▸ hj)
    by_cases hji : j = i
    · subst hji
      rw [h.entry]
      exact hid.trans hbefore
    · rw [h.others j hji]
      exact hbefore
  state j := by
    by_cases hji : j = i
    · subst hji
      rwa [h.entry.state]
    · rw [(h.others j hji).state]
      exact hwell.state j

theorem sent_contents_message_id (m : Message) : (sentContents m).messageId = m.messageId := by
  rw [sent_contents_eq]

theorem contents_sent_state (result : Int) (m : Message) :
    (contentsSent result m).state = 2 ∨ (contentsSent result m).state = 3 := by
  unfold contentsSent
  split_ifs <;> simp

/-- Adding a message sets neither the state nor the retries of the entry it fills. -/
theorem adds_fields {message : List UInt8} {fields : Message → Message}
    (hop : op.adds = some (message, fields)) (m : Message) :
    (fields m).pkt = m.pkt ∧ (fields m).messageId = m.messageId ∧ (fields m).state = m.state ∧
      (fields m).retries = m.retries := by
  cases op with
  | addSms text =>
      cases hop
      exact ⟨rfl, rfl, rfl, rfl⟩
  | addRawSms text tpDcs isCb =>
      cases hop
      exact ⟨rfl, rfl, rfl, rfl⟩
  | processMessageQueue => cases hop
  | notifyWmsEvent bytes len => cases hop
  | setQueueLock lock => cases hop

theorem WellFormed.step (hwell : WellFormed s) (h : step env s op = .ok next) :
    WellFormed next := by
  cases step_effect hwell h with
  | idle hidle => exact hwell.idle hidle
  | accepted message fields i hop hpos hlt hmessage hlength hnext =>
      have hfields := adds_fields hop
      subst hnext
      refine ⟨by simp, by simpa using hlt, fun j hj => ?_, fun j => ?_⟩
      · by_cases hji : j = i
        · subst hji
          simp [hfields]
        · simp only [Function.update_of_ne hji]
          exact hwell.messageId j (by simp only at hj; omega)
      · by_cases hji : j = i
        · subst hji
          simpa [hfields] using hwell.state j
        · simpa only [Function.update_of_ne hji] using hwell.state j
  | announced i result _ _ _ hrewrites => exact hwell.rewrites hrewrites rfl (.inl (by simp))
  | resent i tid contents result _ _ _ hrewrites =>
      refine hwell.rewrites hrewrites (sent_contents_message_id _) ?_
      have := contents_sent_state result (s.msg i)
      omega
  | retried i _ _ hwaits _ hrewrites =>
      refine hwell.rewrites hrewrites rfl (.inl ?_)
      simp only
      omega
  | gaveUp i _ _ _ _ _ hrewrites => exact hwell.rewrites hrewrites rfl (.inr rfl)
  | wiped _ _ _ hpos _ _ hqueued hfree _ =>
      refine ⟨by omega, by rw [hpos]; decide, fun j hj => by omega, fun j => ?_⟩
      by_cases hj : (j : Int) ≤ s.queuePos
      · rw [(hqueued j hj).state]
        exact .inl (Nat.zero_le _)
      · rw [(hfree j (by omega)).state]
        exact hwell.state j
  | read bytes len i tid contents result _ _ _ _ _ hrewrites =>
      refine hwell.rewrites hrewrites (sent_contents_message_id _) ?_
      have := contents_sent_state result (s.msg i)
      omega
  | deleted bytes len packet result _ _ _ _ _ hrewrites =>
      exact hwell.rewrites hrewrites rfl (.inr rfl)

/-- Whatever the calls, the daemon only reaches well-formed states. -/
theorem well_formed_run {allowed : SmsRuntime → Op → Prop} {ops : List Op}
    (h : Machine.Run (step env) allowed start ops s) : WellFormed s :=
  h.invariant WellFormed well_formed_start fun _ _ _ hwell _ hstep => hwell.step hstep

/-! ## Sample packets and outcomes -/

/-- The four bytes of a `uint32_t` in a packet. -/
def bytes32 (n : Nat) : List UInt8 :=
  [n.toUInt8, (n / 2 ^ 8).toUInt8, (n / 2 ^ 16).toUInt8, (n / 2 ^ 24).toUInt8]

/-- A WMS request of the host: QMUX and QMI headers, and the TLVs. -/
def hostRequest (msgid : UInt8) (tlvs : List UInt8) : Bytes :=
  ofList ([0x01, 12 + tlvs.length.toUInt8, 0x00, 0x00, 0x05, 0x01, 0x00, 0x07, 0x00, msgid, 0x00,
    tlvs.length.toUInt8, 0x00] ++ tlvs)

/-- A `WMS_READ_MESSAGE` request, of 21 bytes. -/
def readPacket (id : Nat) : Bytes := hostRequest 0x22 ([0x01, 0x05, 0x00, 0x01] ++ bytes32 id)

/-- A `WMS_DELETE` request, of 24 bytes. -/
def deletePacket (id : Nat) : Bytes :=
  hostRequest 0x24 ([0x10, 0x04, 0x00] ++ bytes32 id ++ [0x01, 0x01, 0x00, 0x01])

/-- A clock that ticks once a second, and writes that succeed. -/
def steadyEnv : Env where
  clock n := n * 1000000000
  write _ := 1

/-- A clock on which every two readings are ten seconds apart. -/
def slowEnv : Env where
  clock n := n * 10000000000
  write _ := 1

end OpenQti.Sms
