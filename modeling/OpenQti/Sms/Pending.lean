import OpenQti.Sms.Steps

/-!
# The pending notification

The flag `notif_pending` and the byte `source` decide whether the proxy serves the queue:
`process_simulated_packet` calls the worker, and `process_wms_packet` hands the packets of
the host to `notify_wms_event`, only while an internal notification is pending. The same two
fields record notifications from outside, which `check_wms_indication_message` and
`at_send_cmti_urc` note without a look at the queue. `pending_while_queued` is about the
runs in which they come while no message waits.
-/

namespace OpenQti.Sms

open Bytes Qmi SmsRuntime Machine

/-! ## The proxy -/

/-- `is_message_pending() && get_notification_source() == source`. -/
def pendingFrom (source : Source) (s : SmsRuntime) : Bool := s.notifPending && s.source == source

/-- `do_inject_notification(fd)`. -/
def doInjectNotification (env : Env) (s : SmsRuntime) : SmsRuntime :=
  generateMessageNotification env 0 { s with notifPending := false, source := .msgNone }

/-- `process_simulated_packet(source, adspfd, usbfd)`. The branches after the first two work on
stuck messages and calls; of the queue they use the two functions that add messages. -/
def processSimulatedPacket (env : Env) (s : SmsRuntime) : Except Fault SmsRuntime :=
  if pendingFrom .msgInternal s then processMessageQueue env s
  else if pendingFrom .msgExternal s then
    .ok { doInjectNotification env s with source := .msgNone, notifPending := false }
  else .ok s

/-- `process_wms_packet(bytes, len, adspfd, usbfd)`, with the value it returns. -/
def processWmsPacket (env : Env) (bytes : Bytes) (len : Nat) (s : SmsRuntime) :
    Except Fault (SmsRuntime × Nat) :=
  if pendingFrom .msgInternal s then (notifyWmsEvent env bytes len s).map (·, 1) else .ok (s, 0)

/-- `sizeof(struct wms_message_indication_packet)`. -/
def wmsMessageIndicationPacketSize : Nat := 29

/-- `check_wms_indication_message(bytes, len, adspfd, usbfd)`, given the suspend state of the USB
transceiver. -/
def checkWmsIndicationMessage (bytes : Bytes) (len : Nat) (suspended : Bool) (s : SmsRuntime) :
    SmsRuntime :=
  if len ≥ wmsMessageIndicationPacketSize ∧ qmiMsgid bytes = wmsEventReport ∧ suspended then
    { s with source := .msgExternal, notifPending := true }
  else s

/-- `at_send_cmti_urc(qmidev)`. -/
def atSendCmtiUrc (s : SmsRuntime) : SmsRuntime :=
  { s with source := .msgExternal, notifPending := true }

/-- The calls that work on the queue or on the pending notification. -/
inductive Event where
  | queue (op : Op)
  | processSimulatedPacket
  | wipeQueue
  | checkWmsIndicationMessage (bytes : Bytes) (len : Nat) (suspended : Bool)
  | atSendCmtiUrc

/-- What a call does. -/
def handle (env : Env) (s : SmsRuntime) : Event → Except Fault SmsRuntime
  | .queue op => step env s op
  | .processSimulatedPacket => processSimulatedPacket env s
  | .wipeQueue => wipeQueue s
  | .checkWmsIndicationMessage bytes len suspended =>
      .ok (checkWmsIndicationMessage bytes len suspended s)
  | .atSendCmtiUrc => .ok (atSendCmtiUrc s)

/-! ## The property -/

/-- The queue holds a message that is not done. -/
def HoldsMessage (s : SmsRuntime) : Prop := ∃ i, Queued s i ∧ (s.msg i).state ≠ 9

/-- The proxy serves the queue and answers the host's requests for it. -/
def ServesQueue (env : Env) (s : SmsRuntime) : Prop :=
  s.notifPending = true ∧ s.source = .msgInternal ∧
    processSimulatedPacket env s = processMessageQueue env s ∧
    ∀ bytes len, processWmsPacket env bytes len s = (notifyWmsEvent env bytes len s).map (·, 1)

/-- A notification from outside comes only while no message waits; and the host reads a message
that is done only while an internal notification is pending, as `process_wms_packet` checks. -/
def NotificationInTurn (s : SmsRuntime) : Event → Prop
  | .checkWmsIndicationMessage bytes len suspended =>
      len ≥ wmsMessageIndicationPacketSize ∧ qmiMsgid bytes = wmsEventReport ∧ suspended →
        ¬ HoldsMessage s
  | .atSendCmtiUrc => ¬ HoldsMessage s
  | .queue (.notifyWmsEvent bytes len) =>
      0 ≤ s.queuePos → ∀ id, readId bytes len = some id → Queued s id → (s.msg id).state = 9 →
        pendingFrom .msgInternal s
  | _ => True

/-! ## The invariant -/

/-- An internal notification is pending while the queue holds a message that is not done. -/
def PendingWhileHeld (s : SmsRuntime) : Prop := HoldsMessage s → pendingFrom .msgInternal s

variable {env : Env} {s next : SmsRuntime} {op : Op} {event : Event} {i : Nat}
  {f : Message → Message} {packets : List (HostPacket × Int)}

theorem pending_from_iff {source : Source} :
    pendingFrom source s ↔ s.notifPending = true ∧ s.source = source := by
  simp [pendingFrom]

/-- A step that rewrites an entry keeps the invariant unless it revives a message that is done. -/
theorem Rewrites.pending (h : Rewrites s next i f packets) (hpending : PendingWhileHeld s)
    (hrevived : Queued s i → (f (s.msg i)).state ≠ 9 → (s.msg i).state = 9 →
      pendingFrom .msgInternal s) : PendingWhileHeld next := by
  rintro ⟨j, hj, hlive⟩
  rw [Queued, h.queuePos] at hj
  have hbefore : pendingFrom .msgInternal s := by
    by_cases hji : j = i
    · subst hji
      rw [h.entry.state] at hlive
      by_cases hdone : (s.msg j).state = 9
      · exact hrevived hj hlive hdone
      · exact hpending ⟨j, hj, hdone⟩
    · rw [(h.others j hji).state] at hlive
      exact hpending ⟨j, hj, hlive⟩
  rw [pendingFrom, h.notifPending, h.source]
  exact hbefore

theorem PendingWhileHeld.idle (hpending : PendingWhileHeld s) (h : Idle s next) :
    PendingWhileHeld next := by
  rintro ⟨j, hj, hlive⟩
  rw [Queued, h.queuePos] at hj
  rw [(h.entry j).state] at hlive
  rw [pendingFrom, h.notifPending, h.source]
  exact hpending ⟨j, hj, hlive⟩

theorem pending_step (hwell : WellFormed s) (hpending : PendingWhileHeld s)
    (hallowed : NotificationInTurn s (.queue op)) (h : step env s op = .ok next) :
    PendingWhileHeld next := by
  cases step_effect hwell h with
  | idle hidle => exact hpending.idle hidle
  | accepted message fields i hop hpos hlt hmessage hlength hnext =>
      intro _
      rw [hnext]
      rfl
  | announced i result _ hnew _ hrewrites =>
      exact hrewrites.pending hpending fun _ _ hdone => by omega
  | resent i tid contents result _ hstate _ hrewrites =>
      exact hrewrites.pending hpending fun _ _ hdone => by omega
  | retried i _ _ hwaits _ hrewrites =>
      exact hrewrites.pending hpending fun _ _ hdone => by omega
  | gaveUp i _ _ _ _ _ hrewrites =>
      exact hrewrites.pending hpending fun _ hlive => absurd rfl hlive
  | wiped _ _ _ hpos _ _ _ _ _ =>
      rintro ⟨j, hj, -⟩
      unfold Queued at hj
      omega
  | read bytes len i tid contents result hop hpos hid _ _ hrewrites =>
      subst hop
      exact hrewrites.pending hpending fun hi _ hdone => hallowed hpos i hid hi hdone
  | deleted bytes len packet result _ _ _ _ _ hrewrites =>
      exact hrewrites.pending hpending fun _ hlive => absurd rfl hlive

theorem wipe_queue_pos (h : wipeQueue s = .ok next) : next.queuePos = -1 := by
  rw [wipe_queue_eq h]

theorem WellFormed.wipe (hwell : WellFormed s) (h : wipeQueue s = .ok next) : WellFormed next := by
  have hpos := wipe_queue_pos h
  refine ⟨by omega, by rw [hpos]; decide, fun j hj => by omega, fun j => ?_⟩
  rw [wipe_queue_eq h]
  by_cases hj : (j : Int) ≤ s.queuePos
  · simp [hj]
  · simpa [hj] using hwell.state j

/-- The queue itself does not depend on the notification. -/
theorem WellFormed.notification (hwell : WellFormed s) (hpos : next.queuePos = s.queuePos)
    (hmsg : next.msg = s.msg) : WellFormed next where
  lower := hpos ▸ hwell.lower
  upper := hpos ▸ hwell.upper
  messageId j hj := hmsg ▸ hwell.messageId j (hpos ▸ hj)
  state j := hmsg ▸ hwell.state j

theorem not_holds_message_of_same (hnone : ¬ HoldsMessage s) (hpos : next.queuePos = s.queuePos)
    (hmsg : next.msg = s.msg) : PendingWhileHeld next := by
  rintro ⟨j, hj, hlive⟩
  rw [Queued, hpos] at hj
  rw [hmsg] at hlive
  exact absurd ⟨j, hj, hlive⟩ hnone

theorem handle_well_formed (hwell : WellFormed s) (h : handle env s event = .ok next) :
    WellFormed next := by
  cases event with
  | queue op => exact hwell.step h
  | processSimulatedPacket =>
      simp only [handle, processSimulatedPacket] at h
      split_ifs at h
      · have hstep : step env s .processMessageQueue = .ok next := h
        exact hwell.step hstep
      · cases h
        exact hwell.notification rfl rfl
      · cases h
        exact hwell
  | wipeQueue => exact hwell.wipe h
  | checkWmsIndicationMessage bytes len suspended =>
      rw [← Except.ok.inj h, checkWmsIndicationMessage]
      split_ifs
      · exact hwell.notification rfl rfl
      · exact hwell
  | atSendCmtiUrc =>
      rw [← Except.ok.inj h]
      exact hwell.notification rfl rfl

theorem handle_pending (hwell : WellFormed s) (hpending : PendingWhileHeld s)
    (hallowed : NotificationInTurn s event) (h : handle env s event = .ok next) :
    PendingWhileHeld next := by
  cases event with
  | queue op => exact pending_step hwell hpending hallowed h
  | processSimulatedPacket =>
      simp only [handle, processSimulatedPacket] at h
      split_ifs at h with hinternal hexternal
      · have hstep : step env s .processMessageQueue = .ok next := h
        have hturn : NotificationInTurn s (.queue .processMessageQueue) := trivial
        exact pending_step hwell hpending hturn hstep
      · cases h
        exact not_holds_message_of_same (fun hholds => hinternal (hpending hholds)) rfl rfl
      · cases h
        exact hpending
  | wipeQueue =>
      rintro ⟨j, hj, -⟩
      have := wipe_queue_pos h
      unfold Queued at hj
      omega
  | checkWmsIndicationMessage bytes len suspended =>
      rw [← Except.ok.inj h, checkWmsIndicationMessage]
      split_ifs with hreport
      · exact not_holds_message_of_same (hallowed hreport) rfl rfl
      · exact hpending
  | atSendCmtiUrc =>
      rw [← Except.ok.inj h]
      exact not_holds_message_of_same hallowed rfl rfl

/-- In every run in which the notifications from outside come in turn, a queue that holds a message
is served. -/
theorem pending_while_queued (env : Env) (events : List Event) (s : SmsRuntime)
    (hrun : Run (handle env) NotificationInTurn start events s) (hholds : HoldsMessage s) :
    ServesQueue env s := by
  have hinvariant : WellFormed s ∧ PendingWhileHeld s := by
    refine hrun.invariant (fun u => WellFormed u ∧ PendingWhileHeld u) ⟨well_formed_start, ?_⟩ ?_
    · rintro ⟨j, hj, -⟩
      have : (j : Int) ≤ -1 := hj
      omega
    · intro u event next hu hallowed hnext
      exact ⟨handle_well_formed hu.1 hnext, handle_pending hu.1 hu.2 hallowed hnext⟩
  have hpending := hinvariant.2 hholds
  obtain ⟨hflag, hsource⟩ := pending_from_iff.1 hpending
  refine ⟨hflag, hsource, ?_, fun bytes len => ?_⟩
  · rw [processSimulatedPacket, if_pos hpending]
  · rw [processWmsPacket, if_pos hpending]

/-- A notification from outside on an empty queue, and a message after it. -/
theorem pending_after_notification :
    ∃ s, Run (handle steadyEnv) NotificationInTurn start
        [.atSendCmtiUrc, .processSimulatedPacket, .queue (.addSms [0x41])] s ∧
      HoldsMessage s ∧ ServesQueue steadyEnv s := by
  have hrun : ∃ s, Run (handle steadyEnv) NotificationInTurn start
      [.atSendCmtiUrc, .processSimulatedPacket, .queue (.addSms [0x41])] s ∧ HoldsMessage s := by
    refine ⟨_, .snoc (.snoc (.snoc (.nil start) ?_ rfl) trivial rfl) trivial rfl, 0, by decide,
      by decide⟩
    rintro ⟨j, hj, -⟩
    have : (j : Int) ≤ -1 := hj
    omega
  obtain ⟨s, hs, hholds⟩ := hrun
  exact ⟨s, hs, hholds, pending_while_queued steadyEnv _ s hs hholds⟩

/-- The baseband reports an event of its own, while the host is suspended and a message waits: the
next round of the proxy clears the notification, and the queue is no longer served. -/
theorem notification_strands_queue :
    ¬ ∀ env events s, Run (handle env) Anything start events s → HoldsMessage s →
      ServesQueue env s := by
  intro h
  obtain ⟨hflag, -⟩ := h steadyEnv
    [.queue (.addSms [0x41]), .checkWmsIndicationMessage (hostRequest 0x01 []) 29 true,
      .processSimulatedPacket] _
    (.snoc (.snoc (.snoc (.nil start) trivial rfl) trivial rfl) trivial rfl)
    ⟨0, by decide, by decide⟩
  exact absurd hflag (by decide)

end OpenQti.Sms
