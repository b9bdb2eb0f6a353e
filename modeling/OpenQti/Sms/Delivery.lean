import Mathlib.Tactic.IntervalCases
import OpenQti.Sms.Steps

/-!
# No queued message is lost

The text of a queued message is wiped when the message moves to state 9. The worker does so
to a message that has been announced four times, or sent, without an answer. The other place
is the answer to a `WMS_DELETE` request, which goes to the current message if that one has
been sent, and else to the message before it, whatever id the request names.
`no_message_lost` is about the runs in which this is a message that has been sent, or is
done already; in them a message is wiped only once the host has been given its contents or
the retries have been used up.
-/

namespace OpenQti.Sms

open Bytes Qmi SmsRuntime Machine

/-! ## The property -/

/-- Between two states of the wire the contents of message `i`, with this text, have been written
to the host. -/
def Delivered (before after : List (HostPacket × Int)) (i : Nat) (text : List UInt8) : Prop :=
  ∃ packets tid contents result, after = packets ++ before ∧
    (.readMessage tid i contents, result) ∈ packets ∧ Holds contents.pkt 0 text ∧ 0 < result

/-- After some of the calls message `i` had been retried three times and waited for more than five
seconds. -/
def TimedOut (env : Env) (added : SmsRuntime) (ops : List Op) (i : Nat) : Prop :=
  ∃ earlier t, earlier <+: ops ∧ Run (step env) Anything added earlier t ∧
    3 ≤ (t.msg i).retries ∧ t.now env - (t.msg i).timestamp > fiveSeconds

/-- In the runs whose calls are allowed, a message that is accepted and still queued moves to state
9 only after its contents have been written, or it has timed out. -/
def NoMessageLost (env : Env) (allowed : SmsRuntime → Op → Prop) : Prop :=
  ∀ (before after : List Op) (s added t next : SmsRuntime) (add op : Op) (text : List UInt8)
    (fields : Message → Message) (i : Nat),
    Run (step env) allowed start before s →
    add.adds = some (text, fields) → step env s add = .ok added →
    s.queuePos + 1 = i → added.queuePos = i →
    Run (step env) (fun u op => allowed u op ∧ Queued u i) added after t → Queued t i →
    allowed t op → step env t op = .ok next →
    (t.msg i).state ≠ 9 → (next.msg i).state = 9 →
    Delivered added.wire next.wire i text ∨ TimedOut env added after i

/-- The host names queued messages, and the message that a deletion request is answered by has been
sent or is done. -/
def DeletesSent (s : SmsRuntime) (op : Op) : Prop :=
  NamesQueued s op ∧ ∀ bytes len, op = .notifyWmsEvent bytes len → 0 ≤ s.queuePos →
    qmiMsgid bytes = wmsDelete →
    (s.msg (deleteTarget s)).state = 3 ∨ (s.msg (deleteTarget s)).state = 9

variable {env : Env} {s next : SmsRuntime} {op : Op} {i : Nat} {text : List UInt8}

/-! ## Free entries -/

/-- The entries after the last queued one are new or, after a notification that went to the wrong
id, announced. -/
def FreeUnsent (s : SmsRuntime) : Prop := ∀ j : Nat, ¬ Queued s j → (s.msg j).state ≤ 1

theorem Rewrites.free_unsent {f : Message → Message} {packets : List (HostPacket × Int)}
    (h : Rewrites s next i f packets) (hfree : FreeUnsent s)
    (hentry : Queued s i ∨ (f (s.msg i)).state ≤ 1) : FreeUnsent next := by
  intro j hj
  rw [Queued, h.queuePos] at hj
  by_cases hji : j = i
  · subst hji
    rw [h.entry.state]
    exact hentry.resolve_left hj
  · rw [(h.others j hji).state]
    exact hfree j hj

theorem FreeUnsent.step (hwell : WellFormed s) (hfree : FreeUnsent s) (hallowed : DeletesSent s op)
    (h : step env s op = .ok next) : FreeUnsent next := by
  cases step_effect hwell h with
  | idle hidle =>
      intro j hj
      rw [(hidle.entry j).state]
      exact hfree j (by rwa [Queued, ← hidle.queuePos])
  | accepted message fields i hop hpos hlt hmessage hlength hnext =>
      intro j hj
      subst hnext
      have hji : j ≠ i := by
        rintro rfl
        exact hj le_rfl
      simp only [Function.update_of_ne hji]
      refine hfree j fun hqueued => hj ?_
      simp only [Queued] at *
      omega
  | announced i result _ _ _ hrewrites => exact hrewrites.free_unsent hfree (.inr le_rfl)
  | resent i tid contents result _ hstate _ hrewrites =>
      refine hrewrites.free_unsent hfree (.inl ?_)
      by_contra hi
      have := hfree i hi
      omega
  | retried i _ hi _ _ hrewrites => exact hrewrites.free_unsent hfree (.inl hi)
  | gaveUp i _ hi _ _ _ hrewrites => exact hrewrites.free_unsent hfree (.inl hi)
  | wiped _ _ _ _ _ _ hqueued hlater _ =>
      intro j _
      by_cases hj : (j : Int) ≤ s.queuePos
      · rw [(hqueued j hj).state]
        exact Nat.zero_le _
      · rw [(hlater j (by omega)).state]
        exact hfree j hj
  | read bytes len i tid contents result hop hpos hid _ _ hrewrites =>
      subst hop
      refine hrewrites.free_unsent hfree (.inl (hallowed.1 hpos i ?_))
      exact requested_id_of_read_id hid
  | deleted bytes len packet result hop hpos hdelete _ _ hrewrites =>
      refine hrewrites.free_unsent hfree (.inl ?_)
      by_contra hi
      have := hfree _ hi
      have := hallowed.2 bytes len hop hpos hdelete
      omega

/-! ## One step -/

/-- The message is in the queue with its text, and not yet sent. -/
def Waiting (s : SmsRuntime) (i : Nat) (text : List UInt8) : Prop :=
  Holds (s.msg i).pkt 0 text ∧ (s.msg i).state ≤ 2

theorem SameEntry.waiting {m m' : Message} (h : SameEntry m m') (hpkt : Holds m.pkt 0 text)
    (hstate : m.state ≤ 2) : Holds m'.pkt 0 text ∧ m'.state ≤ 2 := by
  rw [h]
  exact ⟨hpkt, hstate⟩

/-- The step rewrites another entry, or keeps this one waiting. -/
theorem Rewrites.waiting {f : Message → Message} {packets : List (HostPacket × Int)} {k : Nat}
    (h : Rewrites s next k f packets) (hwaiting : Waiting s i text)
    (hentry : k = i → (f (s.msg i)).pkt = (s.msg i).pkt ∧ (f (s.msg i)).state ≤ 2) :
    Waiting next i text := by
  by_cases hik : i = k
  · subst hik
    obtain ⟨hpkt, hstate⟩ := hentry rfl
    exact h.entry.waiting (hpkt ▸ hwaiting.1) hstate
  · exact (h.others i hik).waiting hwaiting.1 hwaiting.2

/-- When the contents of a waiting message are written, it is delivered or waits on. -/
theorem Rewrites.sent {k tid : Nat} {contents : Message} {result : Int}
    (h : Rewrites s next k (contentsSent result) [(.readMessage tid k contents, result)])
    (hcontents : contents.pkt = (s.msg k).pkt) (hwaiting : Waiting s i text) :
    Delivered s.wire next.wire i text ∨ Waiting next i text := by
  by_cases hsent : k = i ∧ 0 < result
  · obtain ⟨rfl, hresult⟩ := hsent
    exact .inl ⟨_, tid, contents, result, h.wire, List.mem_singleton_self _,
      hcontents ▸ hwaiting.1, hresult⟩
  · refine .inr (h.waiting hwaiting ?_)
    rintro rfl
    have hresult : ¬ result > 0 := fun hpos => hsent ⟨rfl, hpos⟩
    refine ⟨?_, by simp [contentsSent, hresult]⟩
    rw [contentsSent, sent_contents_eq]

/-- A waiting message is delivered, times out, or waits on. -/
theorem waiting_step (hwell : WellFormed s) (hqueued : Queued s i) (hwaiting : Waiting s i text)
    (hallowed : DeletesSent s op) (h : step env s op = .ok next) :
    Delivered s.wire next.wire i text ∨
      (3 ≤ (s.msg i).retries ∧ s.now env - (s.msg i).timestamp > fiveSeconds) ∨
      Waiting next i text := by
  have hstate := hwaiting.2
  cases step_effect hwell h with
  | idle hidle => exact .inr (.inr ((hidle.entry i).waiting hwaiting.1 hstate))
  | accepted message fields k hop hpos hlt hmessage hlength hnext =>
      subst hnext
      have hik : i ≠ k := by
        unfold Queued at hqueued
        omega
      refine .inr (.inr ?_)
      rw [Waiting]
      simp only [Function.update_of_ne hik]
      exact hwaiting
  | announced k result _ _ _ hrewrites =>
      exact .inr (.inr (hrewrites.waiting hwaiting fun _ => ⟨rfl, by simp⟩))
  | resent k tid contents result _ _ hcontents hrewrites =>
      exact (hrewrites.sent hcontents hwaiting).imp_right .inr
  | retried k _ _ _ _ hrewrites =>
      refine .inr (.inr (hrewrites.waiting hwaiting fun _ => ⟨rfl, ?_⟩))
      simp only
      omega
  | gaveUp k _ _ _ hretries helapsed hrewrites =>
      by_cases hik : k = i
      · subst hik
        exact .inr (.inl ⟨hretries, helapsed⟩)
      · exact .inr (.inr (hrewrites.waiting hwaiting fun hki => absurd hki hik))
  | wiped _ _ hdone _ _ _ _ _ _ =>
      have := hdone i hqueued
      omega
  | read bytes len k tid contents result _ _ _ _ hcontents hrewrites =>
      exact (hrewrites.sent hcontents hwaiting).imp_right .inr
  | deleted bytes len packet result hop hpos hdelete _ _ hrewrites =>
      refine .inr (.inr (hrewrites.waiting hwaiting ?_))
      rintro rfl
      have := hallowed.2 bytes len hop hpos hdelete
      omega

/-! ## Whole runs -/

theorem step_wire (hwell : WellFormed s) (h : step env s op = .ok next) :
    ∃ packets, next.wire = packets ++ s.wire := by
  cases step_effect hwell h with
  | idle hidle => exact ⟨[], hidle.wire⟩
  | accepted _ _ _ _ _ _ _ _ hnext => exact ⟨[], by rw [hnext]; rfl⟩
  | announced _ _ _ _ _ hrewrites => exact ⟨_, hrewrites.wire⟩
  | resent _ _ _ _ _ _ _ hrewrites => exact ⟨_, hrewrites.wire⟩
  | retried _ _ _ _ _ hrewrites => exact ⟨_, hrewrites.wire⟩
  | gaveUp _ _ _ _ _ _ hrewrites => exact ⟨_, hrewrites.wire⟩
  | wiped _ _ _ _ _ _ _ _ hwire => exact ⟨[], hwire⟩
  | read _ _ _ _ _ _ _ _ _ _ _ hrewrites => exact ⟨_, hrewrites.wire⟩
  | deleted _ _ _ _ _ _ _ _ _ hrewrites => exact ⟨_, hrewrites.wire⟩

theorem Delivered.later {before after : List (HostPacket × Int)}
    (h : Delivered before after i text) (packets : List (HostPacket × Int)) :
    Delivered before (packets ++ after) i text := by
  obtain ⟨earlier, tid, contents, result, rfl, hmem, hrest⟩ := h
  exact ⟨packets ++ earlier, tid, contents, result, by simp,
    List.mem_append_right packets hmem, hrest⟩

theorem Delivered.since {before middle after : List (HostPacket × Int)}
    (h : Delivered middle after i text) (hmore : ∃ packets, middle = packets ++ before) :
    Delivered before after i text := by
  obtain ⟨later, tid, contents, result, rfl, hmem, hrest⟩ := h
  obtain ⟨packets, rfl⟩ := hmore
  exact ⟨later ++ packets, tid, contents, result, by simp, List.mem_append_left packets hmem,
    hrest⟩

theorem TimedOut.later {added : SmsRuntime} {ops : List Op} (h : TimedOut env added ops i)
    (op : Op) : TimedOut env added (ops ++ [op]) i := by
  obtain ⟨earlier, t, hprefix, hrest⟩ := h
  exact ⟨earlier, t, hprefix.trans (List.prefix_append ops [op]), hrest⟩

/-- What is known of message `i` after a run since it was added. -/
structure Tracked (env : Env) (added : SmsRuntime) (ops : List Op) (i : Nat) (text : List UInt8)
    (t : SmsRuntime) : Prop where
  well : WellFormed t
  wire : ∃ packets, t.wire = packets ++ added.wire
  run : Run (step env) Anything added ops t
  fate : Delivered added.wire t.wire i text ∨ TimedOut env added ops i ∨ Waiting t i text

/-- A step from a tracked state; the message times out, if it does, before the step. -/
theorem Tracked.fate_step {added : SmsRuntime} {ops : List Op}
    (h : Tracked env added ops i text s) (hqueued : Queued s i) (hallowed : DeletesSent s op)
    (hstep : step env s op = .ok next) :
    Delivered added.wire next.wire i text ∨ TimedOut env added ops i ∨ Waiting next i text := by
  obtain ⟨packets, hpackets⟩ := step_wire h.well hstep
  obtain hdelivered | htimedOut | hwaiting := h.fate
  · exact .inl (hpackets ▸ hdelivered.later packets)
  · exact .inr (.inl htimedOut)
  · obtain hdelivered | hgaveUp | hwaits := waiting_step h.well hqueued hwaiting hallowed hstep
    · exact .inl (hdelivered.since h.wire)
    · exact .inr (.inl ⟨ops, s, List.prefix_rfl, h.run, hgaveUp⟩)
    · exact .inr (.inr hwaits)

theorem Tracked.step {added : SmsRuntime} {ops : List Op} (h : Tracked env added ops i text s)
    (hqueued : Queued s i) (hallowed : DeletesSent s op) (hstep : step env s op = .ok next) :
    Tracked env added (ops ++ [op]) i text next where
  well := h.well.step hstep
  wire := by
    obtain ⟨packets, hpackets⟩ := h.wire
    obtain ⟨more, hmore⟩ := step_wire h.well hstep
    exact ⟨more ++ packets, by rw [hmore, hpackets, List.append_assoc]⟩
  run := .snoc h.run trivial hstep
  fate := (h.fate_step hqueued hallowed hstep).imp_right fun hlater =>
    hlater.imp_left fun htimedOut => htimedOut.later op

theorem tracked_run {added t : SmsRuntime} {ops : List Op}
    (h : Run (step env) (fun u op => DeletesSent u op ∧ Queued u i) added ops t)
    (hadded : Tracked env added [] i text added) : Tracked env added ops i text t := by
  induction h with
  | nil => exact hadded
  | snoc _ hallowed hstep ih => exact ih.step hallowed.2 hallowed.1 hstep

/-- A message that has just been accepted waits. -/
theorem waiting_added {added : SmsRuntime} {fields : Message → Message} (hfree : FreeUnsent s)
    (hadds : op.adds = some (text, fields)) (hadd : step env s op = .ok added)
    (hpos : s.queuePos + 1 = i) (hadded : added.queuePos = i) : Waiting added i text := by
  rw [step_adds hadds] at hadd
  obtain ⟨rfl, -⟩ | ⟨k, hk, -, -, -, rfl⟩ := add_to_queue_cases hadd
  · omega
  · obtain rfl : k = i := by omega
    obtain ⟨hpkt, -, hstate, -⟩ := adds_fields hadds
      { s.msg k with pkt := copyText text (s.msg k).pkt, messageId := k }
    rw [Waiting]
    simp only [Function.update_self, hpkt, hstate]
    have hunsent := hfree k (by unfold Queued; omega)
    exact ⟨holds_copy_text text _, by omega⟩

/-- In every run whose deletion requests are answered by a message that has been sent, no message
is lost. -/
theorem no_message_lost (env : Env) : NoMessageLost env DeletesSent := by
  intro before after s added t next add op text fields i hbefore hadds hadd hpos hadded hafter
    hqueued hallowed hstep hlive hdone
  have hwell := well_formed_run hbefore
  have hfree : FreeUnsent s := by
    refine (hbefore.invariant (fun u => WellFormed u ∧ FreeUnsent u)
      ⟨well_formed_start, fun _ _ => Nat.zero_le _⟩ ?_).2
    intro u op' next' hu hop hnext
    exact ⟨hu.1.step hnext, hu.2.step hu.1 hop hnext⟩
  have hwaiting := waiting_added hfree hadds hadd hpos hadded
  have htracked := tracked_run hafter
    ⟨hwell.step hadd, ⟨[], rfl⟩, .nil added, .inr (.inr hwaiting)⟩
  obtain hdelivered | htimedOut | hwaits := htracked.fate_step hqueued hallowed hstep
  · exact .inl hdelivered
  · exact .inr htimedOut
  · have := hwaits.2
    omega

set_option maxRecDepth 4000 in
/-- The ordinary exchange: message 0 is announced, read and deleted. -/
theorem no_message_lost_read_delete :
    ∃ added next : SmsRuntime,
      step steadyEnv start (.addSms [0x41]) = .ok added ∧ (next.msg 0).state = 9 ∧
      (Delivered added.wire next.wire 0 [0x41] ∨
        TimedOut steadyEnv added
          [.processMessageQueue, .notifyWmsEvent (readPacket 0) 21] 0) := by
  have hread : requestedId (readPacket 0) 21 = some 0 := rfl
  have hdelete : requestedId (deletePacket 0) 24 = some 0 := rfl
  refine ⟨_, _, rfl, ?_, no_message_lost steadyEnv [] _ start _ _ _ (.addSms [0x41])
    (.notifyWmsEvent (deletePacket 0) 24) [0x41] textFields 0 (.nil start) rfl rfl rfl rfl
    (.snoc (.snoc (.nil _) ⟨⟨trivial, nofun⟩, by decide⟩ rfl) ⟨⟨?_, ?_⟩, by decide⟩ rfl)
    (by decide) ⟨?_, ?_⟩ rfl (by decide) (by decide)⟩
  · decide
  · intro _ id hid
    cases hread.symm.trans hid
    decide
  · rintro bytes len hop _ hmsgid
    cases hop
    exact absurd hmsgid (by decide)
  · intro _ id hid
    cases hdelete.symm.trans hid
    decide
  · intro _ _ _ _ _
    exact .inl (by decide)

/-- Message 1 is added and read before message 0 is announced. -/
def readSecond : List Op :=
  [.addSms [0x42], .notifyWmsEvent (readPacket 1) 21, .processMessageQueue]

/-- The packet carries the contents of message 0. -/
def carriesFirst : HostPacket × Int → Bool
  | (.readMessage _ id _, _) => id == 0
  | _ => false

theorem not_delivered_first {before after : List (HostPacket × Int)}
    (h : after.any carriesFirst = false) : ¬ Delivered before after 0 text := by
  rintro ⟨packets, tid, contents, result, rfl, hmem, -⟩
  rw [List.any_append, List.any_eq_true.2 ⟨_, hmem, rfl⟩] at h
  cases h

/-- The retries of message 0 after an execution. -/
def firstRetries : Except Fault SmsRuntime → Nat
  | .ok s => (s.msg 0).retries
  | .error _ => 0

theorem not_timed_out_first {added : SmsRuntime} {ops : List Op}
    (h : ∀ k ≤ ops.length, firstRetries (exec (step env) added (ops.take k)) = 0) :
    ¬ TimedOut env added ops 0 := by
  rintro ⟨earlier, t, hprefix, hrun, hretries, -⟩
  have hnone := h earlier.length hprefix.length_le
  rw [← List.prefix_iff_eq_take.1 hprefix, hrun.exec] at hnone
  change (t.msg 0).retries = 0 at hnone
  omega

set_option maxRecDepth 4000 in
/-- Message 1 has been read when message 0 is announced; the host then deletes message 1, and message
0 is wiped. -/
theorem delete_second_loses_first : ¬ ∀ env, NoMessageLost env NamesQueued := by
  intro h
  have hread : requestedId (readPacket 1) 21 = some 1 := rfl
  have hdelete : requestedId (deletePacket 1) 24 = some 1 := rfl
  have hlost := h steadyEnv [] readSecond start _ _ _ (.addSms [0x41])
    (.notifyWmsEvent (deletePacket 1) 24) [0x41] textFields 0 (.nil start) rfl rfl rfl rfl
    (.snoc (.snoc (.snoc (.nil _) ⟨trivial, by decide⟩ rfl)
      ⟨fun _ id hid => by cases hread.symm.trans hid; decide, by decide⟩ rfl)
      ⟨trivial, by decide⟩ rfl)
    (by decide) (fun _ id hid => by cases hdelete.symm.trans hid; decide) rfl (by decide)
    (by decide)
  refine hlost.elim (not_delivered_first (by decide)) (not_timed_out_first fun k hk => ?_)
  change k ≤ 3 at hk
  interval_cases k <;> rfl

end OpenQti.Sms
