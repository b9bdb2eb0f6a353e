import Mathlib.Data.List.Induction
import OpenQti.Sms.Retries

/-!
# Replies answer requests

An observer of the host's port sees the requests of the host and the responses that are written
successfully, each with its message id and its transaction id. `Matched` says that every
response has the ids of a request that has not been answered before. A response to a request is
written with the ids of that request, when it arrives; the worker, when it sends the contents of
a message again, uses the transaction id of the last packet of the host, or `0` after a
notification. `replies_answer_requests` is about the runs in which this is the id of a request
that is still open.
-/

namespace OpenQti.Sms

open Bytes Qmi SmsRuntime Machine

/-! ## The dialogue -/

/-- A request of the host or a response to it, with its message id and its transaction id. -/
inductive DialogueEvent where
  | request (msgid transactionId : Nat)
  | response (msgid transactionId : Nat)
  deriving DecidableEq, Repr

/-- The request that a call brings. -/
def requestOf : Op → List DialogueEvent
  | .notifyWmsEvent bytes _ => [.request (qmiMsgid bytes) (qmiTransactionId bytes)]
  | _ => []

/-- The response that a packet is, if it has been written. -/
def responseOf : HostPacket × Int → Option DialogueEvent
  | (.eventReport _, _) => none
  | (.readMessage transactionId _ _, result) =>
      if result > 0 then some (.response wmsReadMessage transactionId) else none
  | (.delete transactionId _ _, result) =>
      if result > 0 then some (.response wmsDelete transactionId) else none

/-- What an observer has seen after a call. -/
def eventsAfter (s : SmsRuntime) (op : Op) (next : SmsRuntime) (events : List DialogueEvent) :
    List DialogueEvent :=
  events ++ requestOf op ++ (newPackets s next).reverse.filterMap responseOf

/-- A call together with its observer. -/
def dialogueStep (env : Env) (state : SmsRuntime × List DialogueEvent) (op : Op) :
    Except Fault (SmsRuntime × List DialogueEvent) :=
  match step env state.1 op with
  | .ok next => .ok (next, eventsAfter state.1 op next state.2)
  | .error fault => .error fault

/-! ## The property -/

/-- There are more requests with these ids than responses. -/
def Open (events : List DialogueEvent) (msgid transactionId : Nat) : Prop :=
  events.count (.response msgid transactionId) < events.count (.request msgid transactionId)

/-- Every response has the ids of a request that had not been answered. -/
def Matched (events : List DialogueEvent) : Prop :=
  ∀ before msgid transactionId after,
    events = before ++ .response msgid transactionId :: after → Open before msgid transactionId

/-- In every run the responses answer requests. -/
def RepliesAnswerRequests (env : Env) : Prop :=
  ∀ (ops : List Op) (s : SmsRuntime) (events : List DialogueEvent),
    Run (dialogueStep env) Anything (start, []) ops (s, events) → Matched events

/-- A call of the worker sends contents again: the first message that is not done is to be sent, and
so is the current message. -/
def Resends (s : SmsRuntime) : Prop :=
  s.lockQueue = false ∧ s.currentMessageId < queueSize ∧ (s.msg s.currentMessageId).state = 2 ∧
    ∃ i : Nat, Queued s i ∧ (s.msg i).state = 2 ∧ ∀ j < i, (s.msg j).state = 9

/-- When the worker sends contents again, and they are written, a request for contents with the
remembered transaction id is open. -/
def ResendsOpen (env : Env) (state : SmsRuntime × List DialogueEvent) (op : Op) : Prop :=
  op = .processMessageQueue → Resends state.1 → 0 < env.write state.1.wire.length →
    Open state.2 wmsReadMessage state.1.currTransactionId

variable {env : Env} {s u next : SmsRuntime} {op : Op} {events : List DialogueEvent}
  {msgid transactionId : Nat}

theorem matched_nil : Matched [] := by
  intro before msgid transactionId after h
  simp at h

theorem matched_concat {event : DialogueEvent} :
    Matched (events ++ [event]) ↔ Matched events ∧
      ∀ msgid transactionId, event = .response msgid transactionId →
        Open events msgid transactionId := by
  constructor
  · intro h
    refine ⟨fun before msgid transactionId after hevents => ?_, fun msgid transactionId hevent => ?_⟩
    · exact h before msgid transactionId (after ++ [event]) (by simp [hevents])
    · exact h events msgid transactionId [] (by rw [hevent])
  · rintro ⟨hmatched, hlast⟩ before msgid transactionId after hevents
    rcases List.eq_nil_or_concat after with hafter | ⟨middle, last, hafter⟩
    · rw [hafter] at hevents
      obtain ⟨hsame, hevent⟩ := List.append_inj' hevents rfl
      exact hsame ▸ hlast msgid transactionId (by simpa using hevent)
    · rw [hafter, List.concat_eq_append, ← List.cons_append, ← List.append_assoc] at hevents
      exact hmatched before msgid transactionId middle (List.append_inj' hevents rfl).1

/-- There are never more responses than requests. -/
theorem Matched.count_le (h : Matched events) :
    events.count (.response msgid transactionId) ≤ events.count (.request msgid transactionId) := by
  induction events using List.reverseRecOn with
  | nil => exact Nat.zero_le _
  | append_singleton events event ih =>
      obtain ⟨hmatched, hlast⟩ := matched_concat.1 h
      have hle := ih hmatched
      rw [List.count_append, List.count_append]
      by_cases hevent : event = .response msgid transactionId
      · have hopen : _ < _ := hlast msgid transactionId hevent
        subst hevent
        simp only [List.count_singleton_self]
        omega
      · have hnone : List.count (.response msgid transactionId) [event] = 0 :=
          List.count_eq_zero.2 (by simpa using Ne.symm hevent)
        omega

/-- A request is open once it has been made. -/
theorem Matched.request (h : Matched events) (msgid transactionId : Nat) :
    Matched (events ++ [.request msgid transactionId]) ∧
      Open (events ++ [.request msgid transactionId]) msgid transactionId := by
  refine ⟨matched_concat.2 ⟨h, nofun⟩, ?_⟩
  have hle : events.count (.response msgid transactionId) ≤ _ := h.count_le
  rw [Open, List.count_append, List.count_append, List.count_singleton_self]
  have hnone : List.count (DialogueEvent.response msgid transactionId)
      [.request msgid transactionId] = 0 := by
    simp
  omega

/-! ## What the worker writes -/

/-- The worker sends contents again only if the first message that is not done is to be sent. -/
theorem Resends.first {i : Nat} (h : Resends s) (hbefore : ∀ j < i, 4 < (s.msg j).state)
    (hserved : (s.msg i).state ≤ 4) : (s.msg i).state = 2 := by
  obtain ⟨_, _, _, k, _, hstate, hdone⟩ := h
  rcases Nat.lt_trichotomy k i with hlt | heq | hgt
  · have := hbefore k hlt
    omega
  · rw [← heq, hstate]
  · have := hdone i hgt
    omega

/-- What `handle_message_state` writes for a message that is not to be deleted. -/
theorem handle_message_state_writes (env : Env) {k : Nat} (hstate : (s.msg k).state ≠ 4) :
    (k < queueSize ∧ (s.msg k).state = 2 ∧ ∃ contents, (handleMessageState env k s).wire =
        (.readMessage s.currTransactionId k contents, env.write s.wire.length) :: s.wire) ∨
      (¬ (k < queueSize ∧ (s.msg k).state = 2) ∧ ((handleMessageState env k s).wire = s.wire ∨
        ∃ i, (handleMessageState env k s).wire =
          (.eventReport i, env.write s.wire.length) :: s.wire)) := by
  unfold handleMessageState
  by_cases hlarge : k ≥ queueSize
  · rw [if_pos hlarge]
    exact .inr ⟨fun hsmall => by omega, .inl rfl⟩
  rw [if_neg hlarge]
  have hlt : k < queueSize := by omega
  split
  case h_1 hnew =>
    rw [announce_eq]
    exact .inr ⟨fun hsend => by omega, .inr ⟨k, rfl⟩⟩
  case h_2 hsend =>
    rw [send_contents_eq]
    exact .inl ⟨hlt, hsend, _, rfl⟩
  case h_3 hdelete => exact absurd hdelete hstate
  case h_4 hsend _ => exact .inr ⟨fun hboth => hsend hboth.2, .inl rfl⟩

/-- What the worker writes for the current message, while the first message that is not done is to be
sent. -/
theorem pending_writes {i : Nat} (hwell : WellFormed s) (hunlocked : s.lockQueue = false)
    (hi : Queued s i) (hbefore : ∀ j < i, 4 < (s.msg j).state) (hpending : (s.msg i).state = 2)
    (hu : Refreshed (s.now env) s.tick u) :
    (Resends s ∧ ∃ contents, (handleMessageState env u.currentMessageId u).wire =
        (.readMessage s.currTransactionId s.currentMessageId contents, env.write s.wire.length) ::
          s.wire) ∨
      (¬ Resends s ∧ ((handleMessageState env u.currentMessageId u).wire = s.wire ∨
        ∃ i, (handleMessageState env u.currentMessageId u).wire =
          (.eventReport i, env.write s.wire.length) :: s.wire)) := by
  have hdone : ∀ j < i, (s.msg j).state = 9 := by
    intro j hj
    have hlarge := hbefore j hj
    have := hwell.state j
    omega
  have hentry : ∀ j, (u.msg j).state = (s.msg j).state := hu.state
  have hkept : (u.msg s.currentMessageId).state ≠ 4 := by
    have := hwell.state s.currentMessageId
    rw [hentry]
    omega
  rw [hu.ids.1]
  have hwrites := handle_message_state_writes env hkept
  rw [hentry, hu.idle.wire, hu.ids.2] at hwrites
  rcases hwrites with ⟨hlt, hsend, hcontents⟩ | ⟨hother, hpacket⟩
  · exact .inl ⟨⟨hunlocked, hlt, hsend, i, hi, hpending, hdone⟩, hcontents⟩
  · exact .inr ⟨fun hresends => hother ⟨hresends.2.1, hresends.2.2.1⟩, hpacket⟩

/-- The packet that a call of the worker writes: the contents again, or else at most a
notification. -/
theorem process_writes (hwell : WellFormed s) (h : processMessageQueue env s = .ok next) :
    (Resends s ∧ ∃ contents, next.wire =
        (.readMessage s.currTransactionId s.currentMessageId contents, env.write s.wire.length) ::
          s.wire) ∨
      (¬ Resends s ∧ (next.wire = s.wire ∨
        ∃ i, next.wire = (.eventReport i, env.write s.wire.length) :: s.wire)) := by
  obtain ⟨hnone, rfl⟩ | ⟨hunlocked, i, u, hi, hbefore, hserved, hu, rfl⟩ |
    ⟨-, -, u, hall, hu, hwipe⟩ := process_message_queue_cases hwell.upper h
  · refine .inr ⟨?_, .inl rfl⟩
    rintro ⟨hunlocked, _, _, i, hi, _⟩
    rcases hnone with hlocked | hempty
    · rw [hunlocked] at hlocked
      cases hlocked
    · simp only [Queued] at hi
      omega
  · have hstate : (u.msg i).state = (s.msg i).state := hu.state i
    have hwire : u.wire = s.wire := hu.idle.wire
    obtain ⟨hnew, _⟩ | ⟨hpending, heq⟩ | ⟨hwaits, heq⟩ :=
      serve_cases env (s.now env - (s.msg i).timestamp) (hstate ▸ hserved)
    · have hnew' : (s.msg i).state = 0 := hstate ▸ hnew
      refine .inr ⟨fun hresends => ?_, .inr ⟨i, ?_⟩⟩
      · have := hresends.first hbefore hserved
        omega
      · rw [serve_new hu hwell hi hnew', announce_eq]
        simp only [hwire]
    · have htwo : (s.msg i).state = 2 := by
        have := hwell.state i
        omega
      rw [heq]
      exact pending_writes hwell hunlocked hi hbefore htwo hu
    · refine .inr ⟨fun hresends => ?_, .inl ?_⟩
      · have := hresends.first hbefore hserved
        omega
      · rw [heq]
        obtain ⟨-, -, hawait⟩ | ⟨-, -, hawait⟩ | ⟨-, hawait⟩ :=
          await_host_cases (s.now env - (s.msg i).timestamp) i u
        all_goals
          rw [hawait]
          exact hwire
  · refine .inr ⟨?_, .inl ?_⟩
    · rintro ⟨_, _, _, i, hi, hstate, _⟩
      have := hall i hi
      omega
    · rw [wipe_queue_eq hwipe]
      exact hu.idle.wire

/-! ## What the other calls write -/

/-- The packet that answers a request has its ids. -/
theorem notify_writes {bytes : Bytes} {len : Nat} (h : notifyWmsEvent env bytes len s = .ok next) :
    next.wire = s.wire ∨ ∃ packet result, next.wire = (packet, result) :: s.wire ∧
      (0 < result → responseOf (packet, result) =
        some (.response (qmiMsgid bytes) (qmiTransactionId bytes))) := by
  obtain rfl | ⟨-, hread, offset, -, -, heq⟩ | ⟨-, hdelete, heq⟩ := notify_wms_event_cases h
  · exact .inl rfl
  · rw [read_requested_eq (read_requested_ok heq)] at heq
    rw [← Except.ok.inj heq]
    refine .inr ⟨_, _, rfl, fun hresult => ?_⟩
    rw [responseOf, if_pos hresult, hread]
  · obtain ⟨hcurrent, htarget⟩ := delete_requested_ok heq
    rw [delete_requested_eq hcurrent htarget] at heq
    rw [← Except.ok.inj heq]
    refine .inr ⟨_, _, rfl, fun hresult => ?_⟩
    split_ifs
    · rw [responseOf, if_pos hresult, hdelete]
    · rw [responseOf, if_pos hresult, hdelete]

/-- A packet that has not been written is no response. -/
theorem response_of_failed {packet : HostPacket} {result : Int} (h : ¬ 0 < result) :
    responseOf (packet, result) = none := by
  cases packet with
  | eventReport id => rfl
  | readMessage transactionId id contents => exact if_neg h
  | delete transactionId code response => exact if_neg h

theorem responses_of_same (hwire : next.wire = s.wire) :
    (newPackets s next).reverse.filterMap responseOf = [] := by
  simp [newPackets, hwire]

theorem responses_of_packet {packet : HostPacket × Int} (hwire : next.wire = packet :: s.wire) :
    (newPackets s next).reverse.filterMap responseOf = (responseOf packet).toList := by
  simp only [newPackets, hwire, List.length_cons, Nat.add_sub_cancel_left, List.take_succ_cons,
    List.take_zero, List.reverse_singleton]
  cases hresponse : responseOf packet <;> simp [hresponse]

/-! ## One call -/

/-- A request of the host and its answer. -/
theorem Matched.notify {bytes : Bytes} {len : Nat} (h : Matched events)
    (hstep : notifyWmsEvent env bytes len s = .ok next) :
    Matched (eventsAfter s (.notifyWmsEvent bytes len) next events) := by
  obtain ⟨hmatched, hopen⟩ := h.request (qmiMsgid bytes) (qmiTransactionId bytes)
  rw [eventsAfter, requestOf]
  rcases notify_writes hstep with hwire | ⟨packet, result, hwire, hresponse⟩
  · rwa [responses_of_same hwire, List.append_nil]
  · rw [responses_of_packet hwire]
    by_cases hresult : 0 < result
    · rw [hresponse hresult, Option.toList_some, matched_concat]
      refine ⟨hmatched, fun msgid transactionId hevent => ?_⟩
      cases hevent
      exact hopen
    · rwa [response_of_failed hresult, Option.toList_none, List.append_nil]

/-- A call of the worker keeps the responses matched exactly if what it sends again answers an open
request. -/
theorem Matched.process (h : Matched events) (hwell : WellFormed s)
    (hstep : processMessageQueue env s = .ok next) :
    Matched (eventsAfter s .processMessageQueue next events) ↔
      ResendsOpen env (s, events) .processMessageQueue := by
  have hrequest : requestOf .processMessageQueue = [] := rfl
  rw [eventsAfter, hrequest, List.append_nil]
  rcases process_writes hwell hstep with ⟨hresends, contents, hwire⟩ | ⟨hquiet, hpacket⟩
  · rw [responses_of_packet hwire]
    by_cases hresult : 0 < env.write s.wire.length
    · rw [responseOf, if_pos hresult, Option.toList_some, matched_concat]
      constructor
      · exact fun hboth _ _ _ => hboth.2 _ _ rfl
      · intro hopen
        refine ⟨h, fun msgid transactionId hevent => ?_⟩
        cases hevent
        exact hopen rfl hresends hresult
    · rw [response_of_failed hresult, Option.toList_none, List.append_nil]
      exact ⟨fun _ _ _ hwritten => absurd hwritten hresult, fun _ => h⟩
  · have hnone : (newPackets s next).reverse.filterMap responseOf = [] := by
      rcases hpacket with hwire | ⟨i, hwire⟩
      · exact responses_of_same hwire
      · rw [responses_of_packet hwire]
        rfl
    rw [hnone, List.append_nil]
    exact ⟨fun _ _ hresends => absurd hresends hquiet, fun _ => h⟩

/-- A call keeps the responses matched exactly if it sends contents again only to answer an open
request. -/
theorem Matched.step (h : Matched events) (hwell : WellFormed s)
    (hstep : step env s op = .ok next) :
    Matched (eventsAfter s op next events) ↔ ResendsOpen env (s, events) op := by
  have hquiet : op ≠ .processMessageQueue → requestOf op = [] → next.wire = s.wire →
      (Matched (eventsAfter s op next events) ↔ ResendsOpen env (s, events) op) := by
    intro hop hrequest hwire
    rw [eventsAfter, hrequest, responses_of_same hwire, List.append_nil, List.append_nil]
    exact ⟨fun _ hprocess => absurd hprocess hop, fun _ => h⟩
  have hadd : ∀ message fill, addToQueue message fill s = .ok next → next.wire = s.wire := by
    intro message fill hadded
    obtain ⟨rfl, -⟩ | ⟨i, -, -, -, -, rfl⟩ := add_to_queue_cases hadded
    · rfl
    · rfl
  cases op with
  | addSms message => exact hquiet nofun rfl (hadd _ _ hstep)
  | addRawSms message tpDcs isCb => exact hquiet nofun rfl (hadd _ _ hstep)
  | processMessageQueue => exact h.process hwell hstep
  | notifyWmsEvent bytes len => exact ⟨fun _ => nofun, fun _ => h.notify hstep⟩
  | setQueueLock lock =>
      refine hquiet nofun rfl ?_
      rw [← Except.ok.inj hstep]

/-! ## Runs -/

theorem dialogue_step_ok {state after : SmsRuntime × List DialogueEvent}
    (h : dialogueStep env state op = .ok after) :
    step env state.1 op = .ok after.1 ∧ after.2 = eventsAfter state.1 op after.1 state.2 := by
  unfold dialogueStep at h
  cases hnext : step env state.1 op with
  | error fault =>
      rw [hnext] at h
      cases h
  | ok next =>
      rw [hnext] at h
      cases h
      exact ⟨rfl, rfl⟩

theorem matched_run {ops : List Op} {state : SmsRuntime × List DialogueEvent}
    (h : Run (dialogueStep env) (ResendsOpen env) (start, []) ops state) :
    WellFormed state.1 ∧ Matched state.2 := by
  refine Run.invariant (fun state => WellFormed state.1 ∧ Matched state.2)
    ⟨well_formed_start, matched_nil⟩ ?_ h
  rintro state op after ⟨hwell, hmatched⟩ hopen hstep
  obtain ⟨hnext, hevents⟩ := dialogue_step_ok hstep
  rw [hevents]
  exact ⟨hwell.step hnext, (hmatched.step hwell hnext).2 hopen⟩

/-- In every run in which the worker sends contents again only to answer an open request, every
response answers a request that has not been answered; and a call that does otherwise breaks
this. -/
theorem replies_answer_requests (env : Env) {ops : List Op}
    (h : Run (dialogueStep env) (ResendsOpen env) (start, []) ops (s, events)) :
    Matched events ∧ ∀ op next after, dialogueStep env (s, events) op = .ok (next, after) →
      (Matched after ↔ ResendsOpen env (s, events) op) := by
  obtain ⟨hwell, hmatched⟩ := matched_run h
  refine ⟨hmatched, fun op next after hstep => ?_⟩
  obtain ⟨hnext, hafter⟩ := dialogue_step_ok hstep
  rw [show after = eventsAfter s op next events from hafter]
  exact hmatched.step hwell hnext

/-- A message is sent at the host's request, and again when the host does not delete it in time. -/
theorem contents_sent_twice : ¬ ∀ env, RepliesAnswerRequests env := by
  intro hall
  have hrun : ∃ s, Run (dialogueStep slowEnv) Anything (start, [])
      [.addSms [0x41], .notifyWmsEvent (readPacket 0) 21, .processMessageQueue, .processMessageQueue]
      (s, [.request 0x22 7, .response 0x22 7, .response 0x22 7]) :=
    ⟨_, .snoc (.snoc (.snoc (.snoc (.nil _) trivial rfl) trivial rfl) trivial rfl) trivial rfl⟩
  obtain ⟨s, hrun⟩ := hrun
  have hopen := hall slowEnv _ _ _ hrun [.request 0x22 7, .response 0x22 7] 0x22 7 [] rfl
  exact absurd hopen (by unfold Open; decide)

/-- A message is sent at the host's request and deleted. -/
theorem dialogue_matched :
    ∃ s, Run (dialogueStep steadyEnv) (ResendsOpen steadyEnv) (start, [])
      [.addSms [0x41], .notifyWmsEvent (readPacket 0) 21, .notifyWmsEvent (deletePacket 0) 24]
      (s, [.request 0x22 7, .response 0x22 7, .request 0x24 7, .response 0x24 7]) ∧
      Matched [.request 0x22 7, .response 0x22 7, .request 0x24 7, .response 0x24 7] := by
  have hrun : ∃ s, Run (dialogueStep steadyEnv) (ResendsOpen steadyEnv) (start, [])
      [.addSms [0x41], .notifyWmsEvent (readPacket 0) 21, .notifyWmsEvent (deletePacket 0) 24]
      (s, [.request 0x22 7, .response 0x22 7, .request 0x24 7, .response 0x24 7]) :=
    ⟨_, .snoc (.snoc (.snoc (.nil _) nofun rfl) nofun rfl) nofun rfl⟩
  obtain ⟨s, hrun⟩ := hrun
  exact ⟨s, hrun, (replies_answer_requests steadyEnv hrun).1⟩

end OpenQti.Sms
