import OpenQti.Sms.Steps

/-!
# Index safety

Which host requests keep the accesses to `queue.msg` inside the array, and leave the queue
alone when they name a message that is not in it. `notify_wms_event` uses the id of a
`WMS_READ_MESSAGE` request as an index before any check, and answers a `WMS_DELETE` request
by a message of its own choice, whatever id the request names; `queue_index_safe` is about
the runs in which the ids are those of queued messages and the choice stays inside the
array.
-/

namespace OpenQti.Sms

open Bytes Qmi SmsRuntime Machine

/-- A host request, while messages are queued, names one of them; and a deletion request finds the
current message id inside the array, and not at its last entry with that message sent. -/
def RequestInQueue (s : SmsRuntime) : Op → Prop
  | .notifyWmsEvent bytes len =>
      0 ≤ s.queuePos → (∀ id, requestedId bytes len = some id → Queued s id) ∧
        (qmiMsgid bytes = wmsDelete → s.currentMessageId < queueSize ∧
          (s.currentMessageId + 1 = queueSize → (s.msg s.currentMessageId).state ≠ 3))
  | _ => True

/-- The step accesses `queue.msg` inside the array only. -/
def IndexSafe (env : Env) (s : SmsRuntime) (op : Op) : Prop :=
  ∀ position, step env s op ≠ .error (.index position)

/-- If the step is a host request that names a message outside the queue, it changes no entry. -/
def OutsideUntouched (env : Env) (s : SmsRuntime) (op : Op) : Prop :=
  ∀ bytes len id next, op = .notifyWmsEvent bytes len → requestedId bytes len = some id →
    ¬ Queued s id → step env s op = .ok next → next.msg = s.msg

variable {env : Env} {s : SmsRuntime} {op : Op}

theorem add_to_queue_index {message : List UInt8} {fields : Message → Message}
    (hlower : -1 ≤ s.queuePos) (position : Int) :
    addToQueue message fields s ≠ .error (.index position) := by
  unfold addToQueue
  by_cases hfull : s.queuePos > (queueSize : Int) - 2
  · simp [hfull]
  · have hindex : index (s.queuePos + 1) = .ok (s.queuePos + 1).toNat :=
      index_eq_ok.2 ⟨by omega, by omega⟩
    simp only [hfull, if_false, hindex]
    split_ifs <;> simp

/-- The message after the target of a deletion request is in the array. -/
theorem delete_target_in_array (hcurrent : s.currentMessageId < queueSize)
    (hlast : s.currentMessageId + 1 = queueSize → (s.msg s.currentMessageId).state ≠ 3) :
    deleteTarget s + 1 < queueSize := by
  have hsize : queueSize = 256 := rfl
  unfold deleteTarget
  split_ifs with hprevious
  · omega
  · have : s.currentMessageId + 1 ≠ queueSize := fun h => hprevious ⟨hlast h, by omega⟩
    omega

theorem notify_wms_event_index {bytes : Bytes} {len : Nat} (hwell : WellFormed s)
    (hrequest : RequestInQueue s (.notifyWmsEvent bytes len)) (position : Int) :
    notifyWmsEvent env bytes len s ≠ .error (.index position) := by
  unfold notifyWmsEvent
  by_cases hempty : s.queuePos < 0
  · rw [if_pos hempty]
    simp
  obtain ⟨hqueued, hdeletion⟩ := hrequest (by omega)
  rw [if_neg hempty]
  by_cases hread : qmiMsgid bytes = wmsReadMessage
  · rw [if_pos hread]
    cases hoffset : getTlvOffsetById bytes len 0x01 with
    | none => simp
    | some offset =>
        by_cases hfound : offset > 0
        · have hid : (storageMessageId bytes offset : Int) ≤ s.queuePos := by
            refine hqueued _ ?_
            simp only [requestedId, readId, hread, hoffset, if_true, if_pos hfound]
          have hlt : storageMessageId bytes offset < queueSize := by
            have := hwell.upper
            omega
          simp only [if_pos hfound, read_requested_eq hlt]
          simp
        · simp [hfound]
  rw [if_neg hread]
  by_cases hdelete : qmiMsgid bytes = wmsDelete
  · obtain ⟨hcurrent, hlast⟩ := hdeletion hdelete
    have htarget := delete_target_in_array hcurrent hlast
    let t : SmsRuntime := { s with currTransactionId := qmiTransactionId bytes }
    have hcurrent' : t.currentMessageId < queueSize := hcurrent
    have htarget' : deleteTarget t + 1 < queueSize := htarget
    rw [if_pos hdelete, delete_requested_eq hcurrent' htarget']
    simp
  · rw [if_neg hdelete]
    simp

theorem index_safe (hwell : WellFormed s) (hrequest : RequestInQueue s op) :
    IndexSafe env s op := by
  intro position
  cases op with
  | addSms message => exact add_to_queue_index hwell.lower position
  | addRawSms message tpDcs isCb => exact add_to_queue_index hwell.lower position
  | processMessageQueue =>
      obtain ⟨next, hnext⟩ := process_message_queue_ok env hwell.upper
      simp [step, hnext]
  | notifyWmsEvent bytes len => exact notify_wms_event_index hwell hrequest position
  | setQueueLock lock => simp [step]

theorem outside_untouched (hrequest : RequestInQueue s op) : OutsideUntouched env s op := by
  rintro bytes len id next rfl hid houtside hstep
  have hempty : s.queuePos < 0 := by
    by_contra hpos
    exact houtside ((hrequest (by omega)).1 id hid)
  obtain rfl | ⟨hpos, -⟩ | ⟨hpos, -⟩ := notify_wms_event_cases hstep
  · rfl
  · omega
  · omega

/-- In every run whose host requests meet the condition, the queue position stays in the array, the
next call accesses the array inside its bounds, and a request for a message outside the queue
changes no entry. -/
theorem queue_index_safe (env : Env) (ops : List Op) (s : SmsRuntime)
    (hrun : Run (step env) RequestInQueue start ops s) :
    -1 ≤ s.queuePos ∧ s.queuePos ≤ 255 ∧
      ∀ op, RequestInQueue s op → IndexSafe env s op ∧ OutsideUntouched env s op := by
  have hwell := well_formed_run hrun
  have hupper : s.queuePos < 256 := hwell.upper
  exact ⟨hwell.lower, by omega, fun op hop => ⟨index_safe hwell hop, outside_untouched hop⟩⟩

set_option maxRecDepth 4000 in
/-- With one message in the queue, the request for message 256 accesses `queue.msg[256]`. -/
theorem read_outside_faults :
    ¬ ∀ env ops s op, Run (step env) Anything start ops s → IndexSafe env s op := by
  intro h
  exact h steadyEnv [.addSms [0x41]] _ (.notifyWmsEvent (readPacket 256) 21)
    (.snoc (.nil start) trivial rfl) 256 rfl

/-- A message is added, announced, read and deleted. -/
def readAndDelete : List Op :=
  [.addSms [0x41], .processMessageQueue, .notifyWmsEvent (readPacket 0) 21,
    .notifyWmsEvent (deletePacket 0) 24]

set_option maxRecDepth 4000 in
/-- The condition holds along the ordinary exchange with the host. -/
theorem queue_index_safe_read_delete :
    ∃ s, Run (step steadyEnv) RequestInQueue start readAndDelete s ∧
      -1 ≤ s.queuePos ∧ s.queuePos ≤ 255 ∧
      ∀ op, RequestInQueue s op → IndexSafe steadyEnv s op ∧ OutsideUntouched steadyEnv s op := by
  have hread : requestedId (readPacket 0) 21 = some 0 := rfl
  have hdelete : requestedId (deletePacket 0) 24 = some 0 := rfl
  have hrun : ∃ s, Run (step steadyEnv) RequestInQueue start readAndDelete s := by
    refine ⟨_, .snoc (.snoc (.snoc (.snoc (.nil start) trivial rfl) trivial rfl) ?_ rfl) ?_ rfl⟩
    · intro _
      refine ⟨fun id hid => ?_, fun h => absurd h (by decide)⟩
      cases hread.symm.trans hid
      decide
    · intro _
      refine ⟨fun id hid => ?_, fun h => ⟨by decide, by decide⟩⟩
      cases hdelete.symm.trans hid
      decide
  obtain ⟨s, hs⟩ := hrun
  exact ⟨s, hs, queue_index_safe steadyEnv readAndDelete s hs⟩

end OpenQti.Sms
