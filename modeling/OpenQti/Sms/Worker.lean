import OpenQti.Sms.Steps

/-!
# The worker and the message it selects

`process_message_queue` selects the first message that is not done. A message in state 0 it
makes the current one before it hands it to `handle_message_state`; for the states 2 and 4 it
hands over the current message as it stands, which need not be the selected one.
`works_on_selected_iff` says that this is the only way in which the call leaves the selected
message for another.
-/

namespace OpenQti.Sms

open SmsRuntime Machine

/-- The call performs a step of message `i`, of the kind its state asks for, and of no other. -/
def WorksOn (s next : SmsRuntime) (i : Nat) : Prop :=
  next.queuePos = s.queuePos ∧ (∀ j, j ≠ i → SameEntry (s.msg j) (next.msg j)) ∧
    match (s.msg i).state with
    | 0 => ∃ result, next.wire = (.eventReport i, result) :: s.wire ∧ (next.msg i).state = 1
    | 2 => ∃ tid contents result, next.wire = (.readMessage tid i contents, result) :: s.wire ∧
        contents.pkt = (s.msg i).pkt ∧ (next.msg i).state = if result > 0 then 3 else 2
    | 4 => ∃ tid code response result,
        next.wire = (.delete tid code response, result) :: s.wire ∧ (next.msg i).state = 9
    | _ => next.wire = s.wire

variable {env : Env} {s u next : SmsRuntime} {i : Nat}

/-- Unlocked, and with `i` the first message that is not done, the call serves `i`. -/
theorem process_serves (hwell : WellFormed s) (hunlocked : s.lockQueue = false)
    (hqueued : Queued s i) (hbefore : ∀ j < i, (s.msg j).state = 9) (hlive : (s.msg i).state ≠ 9) :
    ∃ u, Refreshed (s.now env) s.tick u ∧
      processMessageQueue env s = .ok (serve env (s.now env - (s.msg i).timestamp) i u) := by
  obtain ⟨next, hnext⟩ := process_message_queue_ok env hwell.upper
  have hstate : (s.msg i).state ≤ 4 := by
    have := hwell.state i
    omega
  have hpos : 0 ≤ s.queuePos := by
    unfold Queued at hqueued
    omega
  obtain ⟨hidle, -⟩ | ⟨-, k, u, hk, hdone, hserved, hu, hserve⟩ | ⟨-, -, u, hall, -⟩ :=
    process_message_queue_cases hwell.upper hnext
  · rw [hunlocked] at hidle
    simp only [Bool.false_eq_true, false_or] at hidle
    omega
  · obtain rfl : k = i := by
      by_contra hki
      by_cases hlt : k < i
      · have := hbefore k hlt
        omega
      · have := hdone i (by omega)
        omega
    exact ⟨u, hu, by rw [hnext, hserve]⟩
  · have := hall i hqueued
    omega

/-- The notification of the selected message. -/
theorem works_on_new (hu : Refreshed (s.now env) s.tick u) (hwell : WellFormed s)
    (hqueued : Queued s i) (hnew : (s.msg i).state = 0) (elapsed : Int) :
    WorksOn s (serve env elapsed i u) i := by
  have hidle := hu.idle
  rw [serve_new hu hwell hqueued hnew, announce_eq]
  refine ⟨hidle.queuePos, fun j hj => ?_, ?_⟩
  · simp only [Function.update_of_ne hj]
    exact hidle.entry j
  · simp [hnew, hidle.wire]

/-- A selected message that waits for the host is the only one that is changed. -/
theorem works_on_waiting (hu : Refreshed (s.now env) s.tick u)
    (hwaits : (s.msg i).state = 1 ∨ (s.msg i).state = 3) (elapsed : Int) :
    WorksOn s (serve env elapsed i u) i := by
  have hstate : (u.msg i).state = 1 ∨ (u.msg i).state = 3 := by
    rw [hu.state]
    exact hwaits
  have heq : serve env elapsed i u = awaitHost elapsed i u := by
    obtain hstate | hstate := hstate <;> simp only [serve, hstate]
  have hidle := hu.idle
  have hquiet : ∀ next : SmsRuntime, next.queuePos = u.queuePos → next.wire = u.wire →
      (∀ j, j ≠ i → next.msg j = u.msg j) → WorksOn s next i := by
    intro next hpos hwire hothers
    refine ⟨hpos.trans hidle.queuePos, fun j hj => ?_, ?_⟩
    · rw [hothers j hj]
      exact hidle.entry j
    · obtain hwaits | hwaits := hwaits <;> simp [hwaits, hwire, hidle.wire]
  rw [heq]
  obtain ⟨-, -, heq⟩ | ⟨-, -, heq⟩ | ⟨-, heq⟩ := await_host_cases elapsed i u
  · exact hquiet _ (by rw [heq]; rfl) (by rw [heq]; rfl) fun j hj => by
      rw [heq]
      exact Function.update_of_ne hj ..
  · exact hquiet _ (by rw [heq]; rfl) (by rw [heq]; rfl) fun j hj => by
      rw [heq]
      exact Function.update_of_ne hj ..
  · exact hquiet _ (by rw [heq]) (by rw [heq]) fun j hj => by rw [heq]

/-- A message whose contents are still to be sent is worked on exactly if it is the current one. -/
theorem works_on_pending_iff (hu : Refreshed (s.now env) s.tick u) (hwell : WellFormed s)
    (hqueued : Queued s i) (hpending : (s.msg i).state = 2) (elapsed : Int) :
    WorksOn s (serve env elapsed i u) i ↔ s.currentMessageId = i := by
  have hstate : (u.msg i).state = 2 := (hu.state i).trans hpending
  have hcurrent := hu.ids.1
  have heq : serve env elapsed i u = handleMessageState env s.currentMessageId u := by
    simp only [serve, hstate, hcurrent]
  have hidle := hu.idle
  rw [heq]
  constructor
  · rintro ⟨-, -, hstep⟩
    simp only [hpending] at hstep
    obtain ⟨tid, contents, result, hwire, -⟩ := hstep
    obtain ⟨-, -, heq⟩ | ⟨-, -, heq⟩ | ⟨-, -, heq⟩ | heq :=
      handle_message_state_cases env s.currentMessageId u
    · rw [heq, announce_eq] at hwire
      simp at hwire
    · rw [heq, send_contents_eq] at hwire
      simp only [List.cons.injEq, Prod.mk.injEq, HostPacket.readMessage.injEq] at hwire
      exact hwire.1.1.2.1
    · rw [heq, acknowledge_deletion_eq] at hwire
      simp only [List.cons.injEq, Prod.mk.injEq] at hwire
      split_ifs at hwire <;> simp at hwire
    · rw [heq, hidle.wire] at hwire
      simp at hwire
  · rintro rfl
    have hsmall : ¬ s.currentMessageId ≥ queueSize := by
      have := hwell.upper
      unfold Queued at hqueued
      omega
    simp only [handleMessageState, if_neg hsmall, hstate, send_contents_eq]
    refine ⟨hidle.queuePos, fun j hj => ?_, ?_⟩
    · simp only [Function.update_of_ne hj]
      exact hidle.entry j
    · simp only [hpending, hidle.wire, Function.update_self]
      refine ⟨_, _, _, rfl, ?_, rfl⟩
      rw [sent_contents_eq, hu.entry]
      rfl

/-- In every reached state, a call of `process_message_queue` on an unlocked queue, with `i` the
first message that is not done, returns; and it performs a step of `i` and of no other message
exactly if `i` is the current message, or its state is not one of those for which the call goes by
the current message. -/
theorem works_on_selected_iff (env : Env) (ops : List Op) (s : SmsRuntime) (i : Nat)
    (hrun : Run (step env) Anything start ops s) (hunlocked : s.lockQueue = false)
    (hqueued : Queued s i) (hbefore : ∀ j < i, (s.msg j).state = 9)
    (hlive : (s.msg i).state ≠ 9) :
    ∃ next, processMessageQueue env s = .ok next ∧
      (WorksOn s next i ↔
        ((s.msg i).state = 2 ∨ (s.msg i).state = 4 → s.currentMessageId = i)) := by
  have hwell := well_formed_run hrun
  obtain ⟨u, hu, hserve⟩ := process_serves hwell hunlocked hqueued hbefore hlive
  refine ⟨_, hserve, ?_⟩
  have hcode : (s.msg i).state = 0 ∨ ((s.msg i).state = 1 ∨ (s.msg i).state = 3) ∨
      (s.msg i).state = 2 := by
    have := hwell.state i
    omega
  obtain hnew | hwaits | hpending := hcode
  · exact iff_of_true (works_on_new hu hwell hqueued hnew _) fun h => by omega
  · exact iff_of_true (works_on_waiting hu hwaits _) fun h => by omega
  · rw [works_on_pending_iff hu hwell hqueued hpending]
    exact ⟨fun h _ => h, fun h => h (.inl hpending)⟩

set_option maxRecDepth 4000 in
/-- A message that has been sent and is due for a retry is sent again, as it is still the current
one. -/
theorem works_on_selected_retry :
    ∃ s, Run (step slowEnv) Anything start
        [.addSms [0x41], .notifyWmsEvent (readPacket 0) 21, .processMessageQueue] s ∧
      (s.msg 0).state = 2 ∧ ∃ next, processMessageQueue slowEnv s = .ok next ∧
        (WorksOn s next 0 ↔
          ((s.msg 0).state = 2 ∨ (s.msg 0).state = 4 → s.currentMessageId = 0)) := by
  have hrun : ∃ s, Run (step slowEnv) Anything start
      [.addSms [0x41], .notifyWmsEvent (readPacket 0) 21, .processMessageQueue] s ∧
      s.lockQueue = false ∧ Queued s 0 ∧ (s.msg 0).state = 2 :=
    ⟨_, .snoc (.snoc (.snoc (.nil start) trivial rfl) trivial rfl) trivial rfl, rfl, by decide,
      by decide⟩
  obtain ⟨s, hs, hunlocked, hqueued, hstate⟩ := hrun
  exact ⟨s, hs, hstate, works_on_selected_iff slowEnv _ s 0 hs hunlocked hqueued (by simp)
    (by simp [hstate])⟩

theorem WorksOn.wire_length (h : WorksOn s next i) (hpending : (s.msg i).state = 2) :
    next.wire.length = s.wire.length + 1 := by
  obtain ⟨-, -, hstep⟩ := h
  simp only [hpending] at hstep
  obtain ⟨tid, contents, result, hwire, -⟩ := hstep
  rw [hwire, List.length_cons]

/-- The number of packets written by an execution. -/
def packetsWritten : Except Fault SmsRuntime → Nat
  | .ok s => s.wire.length
  | .error _ => 0

/-- Two messages are added and read, in this order, and the first of them is due for a retry. -/
def readBoth : List Op :=
  [.addSms [0x41], .addSms [0x42], .notifyWmsEvent (readPacket 0) 21,
    .notifyWmsEvent (readPacket 1) 21, .processMessageQueue]

set_option maxRecDepth 4000 in
theorem run_read_both :
    ∃ s, Run (step slowEnv) NamesQueued start readBoth s ∧ s.lockQueue = false ∧ Queued s 0 ∧
      (s.msg 0).state = 2 ∧ packetsWritten (processMessageQueue slowEnv s) = s.wire.length := by
  have hfirst : requestedId (readPacket 0) 21 = some 0 := rfl
  have hsecond : requestedId (readPacket 1) 21 = some 1 := rfl
  refine ⟨_, .snoc (.snoc (.snoc (.snoc (.snoc (.nil start) trivial rfl) trivial rfl) ?_ rfl) ?_ rfl)
    trivial rfl, rfl, by decide, by decide, by decide +kernel⟩
  · intro _ id hid
    cases hfirst.symm.trans hid
    decide
  · intro _ id hid
    cases hsecond.symm.trans hid
    decide

/-- Messages 0 and 1 have been read, in this order, when message 0 is due for a retry: the worker
selects message 0 and does nothing, as message 1 is the current one. -/
theorem retry_of_first_is_stuck :
    ¬ ∀ env ops s i, Run (step env) NamesQueued start ops s → s.lockQueue = false → Queued s i →
      (∀ j < i, (s.msg j).state = 9) → (s.msg i).state ≠ 9 →
      ∃ next, processMessageQueue env s = .ok next ∧ WorksOn s next i := by
  intro h
  obtain ⟨s, hrun, hunlocked, hqueued, hstate, hwritten⟩ := run_read_both
  obtain ⟨next, hnext, hworks⟩ :=
    h slowEnv readBoth s 0 hrun hunlocked hqueued (by simp) (by simp [hstate])
  have hlength := hworks.wire_length hstate
  rw [hnext] at hwritten
  change next.wire.length = s.wire.length at hwritten
  omega

end OpenQti.Sms
