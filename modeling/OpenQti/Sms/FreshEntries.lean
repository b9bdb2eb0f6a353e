import OpenQti.Sms.Steps

/-!
# Fresh entries

`add_sms_to_queue` and `add_raw_sms_to_queue` set neither the state nor the retries of the
entry they fill, nor the text after the new one; so an added message starts afresh only if
the other functions have left the free entries clean. They do unless the host asks for a
message that is not queued, a deletion request or the worker goes to a free entry, or a
message that is no cell broadcast takes the entry of one that was.
-/

namespace OpenQti.Sms

open Bytes Qmi SmsRuntime Machine

/-! ## The property -/

/-- The text of an entry: its bytes up to the first NUL. -/
def textOf (pkt : Bytes) : List UInt8 := ((List.range maxMessageSize).map pkt).takeWhile (· != 0)

/-- The fields `is_raw`, `tp_dcs` and `is_cb` that a call asks for. -/
def Op.requested : Op → Bool × UInt8 × Bool
  | .addRawSms _ tpDcs isCb => (true, tpDcs, isCb)
  | _ => (false, 0, false)

/-- An entry in which nothing but this message is left. -/
structure Fresh (m : Message) (text : List UInt8) (requested : Bool × UInt8 × Bool) : Prop where
  state : m.state = 0
  retries : m.retries = 0
  holds : Holds m.pkt 0 text
  text : 0 ∉ text → textOf m.pkt = text
  fields : (m.isRaw, m.tpDcs, m.isCb) = requested

/-- In the runs whose calls are allowed, every message that is accepted gets a fresh entry. -/
def AddsFresh (env : Env) (allowed : SmsRuntime → Op → Prop) : Prop :=
  ∀ (ops : List Op) (s added : SmsRuntime) (op : Op) (text : List UInt8)
    (fields : Message → Message) (i : Nat),
    Run (step env) allowed start ops s → op.adds = some (text, fields) → allowed s op →
    step env s op = .ok added → s.queuePos + 1 = i → added.queuePos = i →
    Fresh (added.msg i) text op.requested

/-- A host request names a message id of the array. -/
def NamesInArray (_ : SmsRuntime) : Op → Prop
  | .notifyWmsEvent bytes len => ∀ id, requestedId bytes len = some id → id < queueSize
  | _ => True

/-- The call does not reach a free entry: a request of the host is for a queued message or is
answered by one; the worker, when the message it selects has contents still to be sent, finds a
current message that is queued, or outside the array; and a raw message that is no cell broadcast
is not added to an entry marked as one. -/
def LeavesFreeEntries (s : SmsRuntime) : Op → Prop
  | .notifyWmsEvent bytes len =>
      0 ≤ s.queuePos → (∀ id, readId bytes len = some id → Queued s id) ∧
        (qmiMsgid bytes = wmsDelete → Queued s (deleteTarget s))
  | .processMessageQueue =>
      ∀ i, Queued s i → (∀ j < i, (s.msg j).state = 9) → (s.msg i).state = 2 →
        Queued s s.currentMessageId ∨ queueSize ≤ s.currentMessageId
  | .addRawSms _ _ isCb => isCb = false → (s.msg (s.queuePos + 1).toNat).isCb = false
  | _ => True

/-! ## Clean entries -/

/-- The free entries are as they were at the start, and no text is left in those that are done. -/
structure Clean (s : SmsRuntime) : Prop where
  free : ∀ j : Nat, ¬ Queued s j →
    (s.msg j).state = 0 ∧ (s.msg j).retries = 0 ∧ (s.msg j).pkt = fun _ => 0
  done : ∀ j : Nat, (s.msg j).state = 9 → (s.msg j).pkt = fun _ => 0

variable {env : Env} {s next : SmsRuntime} {op : Op} {i : Nat} {f : Message → Message}
  {packets : List (HostPacket × Int)}

theorem clean_start : Clean start := ⟨fun _ _ => ⟨rfl, rfl, rfl⟩, fun _ _ => rfl⟩

theorem Clean.rewrites (hclean : Clean s) (h : Rewrites s next i f packets) (hi : Queued s i)
    (hdone : (f (s.msg i)).state = 9 → (f (s.msg i)).pkt = fun _ => 0) : Clean next where
  free j hj := by
    rw [Queued, h.queuePos] at hj
    have hji : j ≠ i := by
      rintro rfl
      exact hj hi
    rw [h.others j hji]
    exact hclean.free j hj
  done j := by
    by_cases hji : j = i
    · subst hji
      rw [h.entry]
      exact hdone
    · rw [h.others j hji]
      exact hclean.done j

theorem contents_sent_unfinished (result : Int) (m : Message) :
    (contentsSent result m).state ≠ 9 := by
  have := contents_sent_state result m
  omega

theorem Clean.step (hwell : WellFormed s) (hclean : Clean s) (hallowed : LeavesFreeEntries s op)
    (h : step env s op = .ok next) : Clean next := by
  cases step_effect hwell h with
  | idle hidle =>
      refine ⟨fun j hj => ?_, fun j => ?_⟩
      · rw [Queued, hidle.queuePos] at hj
        rw [hidle.entry j]
        exact hclean.free j hj
      · rw [hidle.entry j]
        exact hclean.done j
  | accepted message fields i hop hpos hlt hmessage hlength hnext =>
      subst hnext
      have hfields := adds_fields hop
      refine ⟨fun j hj => ?_, fun j => ?_⟩
      · have hji : j ≠ i := by
          rintro rfl
          exact hj le_rfl
        simp only [Function.update_of_ne hji]
        refine hclean.free j fun hqueued => hj ?_
        simp only [Queued] at *
        omega
      · by_cases hji : j = i
        · subst hji
          have hnew := (hclean.free j (by unfold Queued; omega)).1
          simp [hfields, hnew]
        · simp only [Function.update_of_ne hji]
          exact hclean.done j
  | announced i result hop hnew hwhich hrewrites =>
      subst hop
      have hqueued : Queued s i := by
        obtain hi | ⟨k, hk, hpending, hbefore, rfl, hlt⟩ := hwhich
        · exact hi
        · exact (hallowed k hk hbefore hpending).resolve_right (by omega)
      exact hclean.rewrites hrewrites hqueued (by simp)
  | resent i tid contents result _ hstate _ hrewrites =>
      refine hclean.rewrites hrewrites ?_ fun h => absurd h (contents_sent_unfinished _ _)
      by_contra hi
      have := (hclean.free i hi).1
      omega
  | retried i _ hi hwaits _ hrewrites =>
      refine hclean.rewrites hrewrites hi fun h => ?_
      simp only at h
      omega
  | gaveUp i _ hi _ _ _ hrewrites => exact hclean.rewrites hrewrites hi fun _ => rfl
  | wiped _ _ hdone hpos _ _ hqueued hlater _ =>
      refine ⟨fun j _ => ?_, fun j => ?_⟩
      · by_cases hj : (j : Int) ≤ s.queuePos
        · rw [hqueued j hj]
          exact ⟨rfl, rfl, hclean.done j (hdone j hj)⟩
        · rw [hlater j (by omega)]
          exact hclean.free j hj
      · by_cases hj : (j : Int) ≤ s.queuePos
        · rw [hqueued j hj]
          simp
        · rw [hlater j (by omega)]
          exact hclean.done j
  | read bytes len i tid contents result hop hpos hid _ _ hrewrites =>
      subst hop
      exact hclean.rewrites hrewrites ((hallowed hpos).1 i hid) fun h =>
        absurd h (contents_sent_unfinished _ _)
  | deleted bytes len packet result hop hpos hdelete _ _ hrewrites =>
      subst hop
      exact hclean.rewrites hrewrites ((hallowed hpos).2 hdelete) fun _ => rfl

theorem clean_run {ops : List Op} (h : Run (step env) LeavesFreeEntries start ops s) :
    WellFormed s ∧ Clean s :=
  h.invariant (fun u => WellFormed u ∧ Clean u) ⟨well_formed_start, clean_start⟩
    fun _ _ _ hu hallowed hstep => ⟨hu.1.step hstep, hu.2.step hu.1 hallowed hstep⟩

/-! ## The added entry -/

/-- A text copied into an empty entry, followed by zeros. -/
theorem map_copy_text (text : List UInt8) (hlength : text.length ≤ maxMessageSize) :
    (List.range maxMessageSize).map (copyText text fun _ => 0) =
      text ++ List.replicate (maxMessageSize - text.length) 0 := by
  refine List.ext_getElem (by simp; omega) fun k hk _ => ?_
  by_cases hin : k < text.length
  · simp [copyText, hin, List.getElem_append_left hin]
  · simp [copyText, hin, List.getElem_append_right (not_lt.1 hin)]

theorem text_of_copy_text (text : List UInt8) (hlength : text.length ≤ maxMessageSize)
    (hnul : 0 ∉ text) : textOf (copyText text fun _ => 0) = text := by
  have hall : ∀ byte ∈ text, (byte != 0) = true := by
    intro byte hbyte
    simp only [bne_iff_ne, ne_eq]
    rintro rfl
    exact hnul hbyte
  rw [textOf, map_copy_text text hlength, List.takeWhile_append_of_pos hall]
  simp

/-- The fields besides the text are the requested ones, unless a cell broadcast mark is left. -/
theorem adds_requested {text : List UInt8} {fields : Message → Message}
    (hop : op.adds = some (text, fields)) (hpos : s.queuePos + 1 = i)
    (hallowed : LeavesFreeEntries s op) (m : Message) (hmark : m.isCb = (s.msg i).isCb) :
    ((fields m).isRaw, (fields m).tpDcs, (fields m).isCb) = op.requested := by
  cases op with
  | addSms message =>
      cases hop
      rfl
  | addRawSms message tpDcs isCb =>
      cases hop
      cases isCb with
      | true => rfl
      | false =>
          have hunmarked := hallowed rfl
          rw [hpos, Int.toNat_natCast, ← hmark] at hunmarked
          simp [rawFields, Op.requested, hunmarked]
  | processMessageQueue => cases hop
  | notifyWmsEvent bytes len => cases hop
  | setQueueLock lock => cases hop

/-- In every run whose calls leave the free entries alone, an accepted message gets a fresh entry. -/
theorem adds_fresh (env : Env) : AddsFresh env LeavesFreeEntries := by
  intro ops s added op text fields i hrun hadds hallowed hstep hpos hadded
  obtain ⟨hwell, hclean⟩ := clean_run hrun
  obtain ⟨hstate, hretries, hpkt⟩ := hclean.free i (by unfold Queued; omega)
  rw [step_adds hadds] at hstep
  obtain ⟨rfl, -⟩ | ⟨k, hk, -, -, hlength, rfl⟩ := add_to_queue_cases hstep
  · omega
  · obtain rfl : k = i := by omega
    let filled : Message := { s.msg k with pkt := copyText text (s.msg k).pkt, messageId := k }
    obtain ⟨hsamePkt, -, hsameState, hsameRetries⟩ := adds_fields hadds filled
    have hentry : (fields filled).pkt = copyText text fun _ => 0 := by
      rw [hsamePkt, ← hpkt]
    simp only [Function.update_self]
    exact ⟨hsameState.trans hstate, hsameRetries.trans hretries,
      hentry ▸ holds_copy_text text _, fun hnul => hentry ▸ text_of_copy_text text hlength hnul,
      adds_requested hadds hpos hallowed filled rfl⟩

/-- A message is announced, read and deleted. -/
def servedOnce : List Op :=
  [.addSms [0x41], .processMessageQueue, .notifyWmsEvent (readPacket 0) 21,
    .notifyWmsEvent (deletePacket 0) 24]

set_option maxRecDepth 4000 in
theorem run_served_once :
    ∃ s added : SmsRuntime, Run (step steadyEnv) LeavesFreeEntries start servedOnce s ∧
      step steadyEnv s (.addRawSms [0x42] 0x08 false) = .ok added ∧
      s.queuePos + 1 = (1 : Nat) ∧ added.queuePos = (1 : Nat) ∧ (s.msg 1).isCb = false := by
  have hread : readId (readPacket 0) 21 = some 0 := rfl
  have hdelete : readId (deletePacket 0) 24 = none := rfl
  refine ⟨_, _, .snoc (.snoc (.snoc (.snoc (.nil start) trivial rfl) ?_ rfl) ?_ rfl) ?_ rfl, rfl,
    by decide, by decide, by decide⟩
  · intro i hi _ hpending
    have hpos : (i : Int) ≤ 0 := hi
    obtain rfl : i = 0 := by omega
    exact absurd hpending (by decide)
  · intro _
    refine ⟨fun id hid => ?_, fun h => absurd h (by decide)⟩
    cases hread.symm.trans hid
    decide
  · intro _
    refine ⟨fun id hid => ?_, fun _ => by decide⟩
    cases hdelete.symm.trans hid

/-- The message that is added next finds its entry fresh. -/
theorem adds_fresh_served_once :
    ∃ s added : SmsRuntime, Run (step steadyEnv) LeavesFreeEntries start servedOnce s ∧
      step steadyEnv s (.addRawSms [0x42] 0x08 false) = .ok added ∧
      Fresh (added.msg 1) [0x42] (true, 0x08, false) := by
  obtain ⟨s, added, hs, hadd, hpos, hadded, hmark⟩ := run_served_once
  refine ⟨s, added, hs, hadd,
    adds_fresh steadyEnv servedOnce s added _ [0x42] _ 1 hs rfl ?_ hadd hpos hadded⟩
  intro _
  rw [hpos]
  exact hmark

set_option maxRecDepth 4000 in
/-- The host asks for message 1 before there is one: the entry is left in state 3, and the message
that is added to it is never announced. -/
theorem read_before_add_is_not_fresh : ¬ ∀ env, AddsFresh env NamesInArray := by
  intro h
  have hread : requestedId (readPacket 1) 21 = some 1 := rfl
  have hfresh := h steadyEnv [.addSms [0x41], .notifyWmsEvent (readPacket 1) 21] _ _
    (.addSms [0x42]) [0x42] textFields 1
    (.snoc (.snoc (.nil start) trivial rfl) (fun id hid => by cases hread.symm.trans hid; decide) rfl)
    rfl trivial rfl (by decide) (by decide)
  exact absurd hfresh.state (by decide)

end OpenQti.Sms
