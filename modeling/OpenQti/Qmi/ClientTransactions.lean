import OpenQti.Qmi.ClientDelivery

/-!
# Transaction ids in flight

The transaction id that is stored for a service is the one of the next request. It is changed by
the packets of the service that are read from the port, responses and indications alike, and not
by a request that is sent. `OpenRequest` is what an observer of one service knows of a request
that has not been answered: its id, and the id that the last packet since then has left.
`Spaced` says when the next request can be sent so that its id is not that of an open one, and
`transaction_ids_distinct` that this is exactly what it takes.
-/

namespace OpenQti.Qmi

open Bytes InternalQmiClient Machine

/-! ## Open requests -/

/-- A request that has not been answered. -/
structure OpenRequest where
  transactionId : UInt16
  /-- The id that the last packet since the request was written has left. -/
  left : Option UInt16
  deriving DecidableEq, Repr

/-- The transaction id in a message. -/
def messageId (bytes : List UInt8) : UInt16 := (le16 (Bytes.ofList bytes) 7).toUInt16

/-- The control field of a response. -/
def qmiResponse : UInt8 := 0x02

/-- A packet has been read that leaves this id. -/
def OpenRequest.hear (id : UInt16) (request : OpenRequest) : OpenRequest :=
  { request with left := some id }

/-- A response closes the request that has its id. -/
def answer (bytes : Bytes) (requests : List OpenRequest) : List OpenRequest :=
  if bytes 6 = qmiResponse then
    requests.eraseP fun request => request.transactionId = (le16 bytes 7).toUInt16
  else requests

/-- Observe an operation from `s` to `next`, for service `i`. -/
def observeIds (i : Nat) (s : InternalQmiClient) (op : ClientOp) (next : InternalQmiClient)
    (requests : List OpenRequest) : List OpenRequest :=
  match op with
  | .addPendingMessage _ _ => requests
  | .sendPendingInternalQmiMessages =>
      requests ++ ((newWrites s next).filterMap (messageTo i)).map fun bytes =>
        ⟨messageId bytes, none⟩
  | .handleIncomingQmiControlMessage bytes len =>
      if Allocates bytes len ∧ (bytes 22).toNat = i then
        requests.map (.hear (bytes 7).toUInt16)
      else requests
  | .dispatchIncomingQmiMessage bytes =>
      if (bytes 4).toNat = i then (answer bytes requests).map (.hear (nextTransactionId bytes))
      else requests

/-- An operation together with the observer of service `i`. -/
def idStep (i : Nat) (state : InternalQmiClient × List OpenRequest) (op : ClientOp) :
    Except ClientFault (InternalQmiClient × List OpenRequest) :=
  match clientStep state.1 op with
  | .ok next => .ok (next, observeIds i state.1 op next state.2)
  | .error fault => .error fault

/-! ## The property -/

/-- No two open requests have the same id. -/
def Distinct (requests : List OpenRequest) : Prop := (requests.map OpenRequest.transactionId).Nodup

/-- In every run of fewer than 65536 operations the requests in flight have different ids. -/
def DistinctInFlight (i : Nat) : Prop :=
  ∀ (ops : List ClientOp) (s : InternalQmiClient) (requests : List OpenRequest),
    ops.length < 65536 → Run (idStep i) (fun _ op => Proper op) (initialClient, []) ops (s, requests) →
    Distinct requests

/-- When a request is sent, a packet has been read since each open request was written, and the
last one has left another id than the request has. -/
def Spaced (i : Nat) (state : InternalQmiClient × List OpenRequest) (op : ClientOp) : Prop :=
  op = .sendPendingInternalQmiMessages → Sends state.1 i →
    ∀ request ∈ state.2, ∃ id, request.left = some id ∧ id ≠ request.transactionId

variable {s next : InternalQmiClient} {requests : List OpenRequest} {op : ClientOp} {i : Nat}

/-! ## The stored id -/

/-- The stored id is the one that the last packet has left, or else that of the last request. -/
def Follows (i : Nat) (s : InternalQmiClient) (requests : List OpenRequest) : Prop :=
  ∀ request ∈ requests,
    (s.services i).transactionId = request.left.getD request.transactionId

/-- With the stored id, the condition on the packets is that the id is not in use. -/
theorem Follows.spaced_iff (h : Follows i s requests) :
    (∀ request ∈ requests, ∃ id, request.left = some id ∧ id ≠ request.transactionId) ↔
      ∀ request ∈ requests, request.transactionId ≠ (s.services i).transactionId := by
  refine forall₂_congr fun request hrequest => ?_
  rw [h request hrequest]
  cases request.left with
  | none => simp
  | some id => simp [eq_comm]

theorem follows_hear (id : UInt16) (hid : (s.services i).transactionId = id) :
    Follows i s (requests.map (.hear id)) := by
  intro request hrequest
  obtain ⟨earlier, _, rfl⟩ := List.mem_map.1 hrequest
  exact hid

theorem Follows.kept (h : Follows i s requests)
    (hid : (next.services i).transactionId = (s.services i).transactionId) :
    Follows i next requests := by
  intro request hrequest
  rw [hid]
  exact h request hrequest

theorem distinct_hear (id : UInt16) : Distinct (requests.map (.hear id)) ↔ Distinct requests := by
  simp only [Distinct, List.map_map]
  rfl

theorem Distinct.answer (h : Distinct requests) (bytes : Bytes) : Distinct (answer bytes requests) := by
  unfold Qmi.answer
  split_ifs
  · exact h.sublist (List.eraseP_sublist.map _)
  · exact h

/-! ## One pass -/

theorem carries_message_id {message : List UInt8} {sent : Sent} (h : Carries message sent) :
    messageId sent.bytes = sent.binding.transactionId := by
  have hlow : Bytes.ofList sent.bytes 7 = (sent.binding.transactionId.toNat % 256).toUInt8 := by
    rw [Bytes.ofList, List.getD_eq_getElem?_getD, h.low]
    rfl
  have hhigh : Bytes.ofList sent.bytes 8 = (sent.binding.transactionId.toNat / 256).toUInt8 := by
    rw [Bytes.ofList, List.getD_eq_getElem?_getD, h.high]
    rfl
  have hlt := sent.binding.transactionId.toNat_lt
  rw [messageId, le16, hlow, hhigh]
  refine UInt16.toNat.inj ?_
  simp only [Nat.toUInt8_eq, UInt8.toNat_ofNat', Nat.toUInt16_eq, UInt16.toNat_ofNat']
  omega

/-- A pass opens a request with the stored id, if it sends a message of the service. -/
theorem observe_pass {l : Ledger} (h : Balanced s l) :
    observeIds i s .sendPendingInternalQmiMessages (afterPass s) requests = requests ++
      if (s.services i).isInitialized then
        (waiting (s.services i)).map fun _ => ⟨(s.services i).transactionId, none⟩
      else [] := by
  simp only [observeIds, h.pass_messages i]
  split_ifs with hready
  · rw [List.map_map]
    congr 1
    refine List.map_congr_left fun message hmessage => ?_
    have hcarries := carries_patch hready (h.waiting_length hmessage)
    simp only [Function.comp_apply, carries_message_id hcarries]
  · simp

/-- A pass that sends the message of the service opens a request with the stored id. -/
theorem observe_pass_of_sends {l : Ledger} (h : Balanced s l) (hsends : Sends s i) :
    observeIds i s .sendPendingInternalQmiMessages (afterPass s) requests =
      requests ++ [⟨(s.services i).transactionId, none⟩] := by
  obtain ⟨hpending, hready, _⟩ := hsends
  obtain ⟨_, message, hmessage, _⟩ := h.slot i hpending
  simp [observe_pass h, hready, waiting, hpending, hmessage]

theorem observe_pass_of_not_sends {l : Ledger} (h : Balanced s l) (hsends : ¬ Sends s i) :
    observeIds i s .sendPendingInternalQmiMessages (afterPass s) requests = requests := by
  rw [observe_pass h]
  split_ifs with hready
  · have hempty : (s.services i).hasPendingMessage = false := by
      rw [← Bool.not_eq_true]
      exact fun hpending => hsends ⟨hpending, hready, (h.slot i hpending).1⟩
    simp [waiting, hempty]
  · rw [List.append_nil]

theorem distinct_append_iff {id : UInt16} (h : Distinct requests) :
    Distinct (requests ++ [⟨id, none⟩]) ↔ ∀ request ∈ requests, request.transactionId ≠ id := by
  simp only [Distinct, List.map_append, List.map_cons, List.map_nil]
  rw [List.nodup_append]
  have hnodup : (requests.map OpenRequest.transactionId).Nodup := h
  simp [hnodup]

/-! ## One operation -/

/-- What is kept along a run. -/
structure Tracked (i : Nat) (s : InternalQmiClient) (requests : List OpenRequest) : Prop where
  balanced : ∃ l, Balanced s l
  follows : Follows i s requests
  distinct : Distinct requests

theorem id_step_ok {state after : InternalQmiClient × List OpenRequest}
    (h : idStep i state op = .ok after) :
    clientStep state.1 op = .ok after.1 ∧ after.2 = observeIds i state.1 op after.1 state.2 := by
  unfold idStep at h
  cases hnext : clientStep state.1 op with
  | error fault =>
      rw [hnext] at h
      cases h
  | ok next =>
      rw [hnext] at h
      cases h
      exact ⟨rfl, rfl⟩

/-- A pass keeps the ids. -/
theorem after_pass_transaction_id :
    ((afterPass s).services i).transactionId = (s.services i).transactionId := by
  by_cases hi : i < qmiServicesLast
  · rw [after_pass_services hi, pass_entry_transaction_id]
  · rw [after_pass_services_of_ge (by omega)]

/-- The pass keeps the ids in flight distinct exactly if it is spaced. -/
theorem Tracked.pass (h : Tracked i s requests) :
    (Distinct (observeIds i s .sendPendingInternalQmiMessages (afterPass s) requests) ↔
        Spaced i (s, requests) .sendPendingInternalQmiMessages) ∧
      Follows i (afterPass s)
        (observeIds i s .sendPendingInternalQmiMessages (afterPass s) requests) := by
  obtain ⟨l, hbalanced⟩ := h.balanced
  by_cases hsends : Sends s i
  · rw [observe_pass_of_sends hbalanced hsends, distinct_append_iff h.distinct,
      ← h.follows.spaced_iff]
    refine ⟨⟨fun hspaced _ _ => hspaced, fun hspaced => hspaced rfl hsends⟩, ?_⟩
    intro request hrequest
    rw [after_pass_transaction_id]
    rcases List.mem_append.1 hrequest with hearlier | hnew
    · exact h.follows request hearlier
    · rw [List.mem_singleton.1 hnew]
      rfl
  · rw [observe_pass_of_not_sends hbalanced hsends]
    refine ⟨⟨fun _ _ hsent => absurd hsent hsends, fun _ => h.distinct⟩, ?_⟩
    exact h.follows.kept after_pass_transaction_id

/-- The entry of one service is changed. -/
theorem set_transaction_id {k : Nat} {b : QmiServiceBindings} :
    ((s.set k b).services i).transactionId =
      if i = k then b.transactionId else (s.services i).transactionId := by
  by_cases hi : i = k
  · simp [InternalQmiClient.set, hi]
  · simp [InternalQmiClient.set, hi]

/-- The id stays if the changed entry has the id it had. -/
theorem set_same_transaction_id {k : Nat} {b : QmiServiceBindings}
    (h : b.transactionId = (s.services k).transactionId) :
    ((s.set k b).services i).transactionId = (s.services i).transactionId := by
  rw [set_transaction_id]
  split_ifs with hi
  · rw [h, hi]
  · rfl

/-- A pass that sends nothing keeps the ids. -/
theorem Tracked.idle_pass (h : Tracked i s requests) (hidle : s.hasPendingMessage = false) :
    (Distinct (observeIds i s .sendPendingInternalQmiMessages s requests) ↔
        Spaced i (s, requests) .sendPendingInternalQmiMessages) ∧
      Follows i s (observeIds i s .sendPendingInternalQmiMessages s requests) := by
  obtain ⟨l, hbalanced⟩ := h.balanced
  have hsends : ¬ Sends s i := by
    intro hsends
    have hpending := hbalanced.flag i hsends.1
    rw [hidle] at hpending
    cases hpending
  have hsame : observeIds i s .sendPendingInternalQmiMessages s requests = requests := by
    simp [observeIds, new_writes_of_port_eq]
  rw [hsame]
  exact ⟨⟨fun _ _ hsent => absurd hsent hsends, fun _ => h.distinct⟩, h.follows⟩

/-- An operation keeps the ids in flight distinct exactly if it is spaced. -/
theorem Tracked.step (h : Tracked i s requests) (hstep : clientStep s op = .ok next) :
    (Distinct (observeIds i s op next requests) ↔ Spaced i (s, requests) op) ∧
      Follows i next (observeIds i s op next requests) := by
  have hkept : op ≠ .sendPendingInternalQmiMessages → observeIds i s op next requests = requests →
      (next.services i).transactionId = (s.services i).transactionId →
      (Distinct (observeIds i s op next requests) ↔ Spaced i (s, requests) op) ∧
        Follows i next (observeIds i s op next requests) := by
    intro hop hsame hid
    rw [hsame]
    exact ⟨⟨fun _ hsend => absurd hsend hop, fun _ => h.distinct⟩, h.follows.kept hid⟩
  cases client_step_effect hstep with
  | idle _ hsend hcontrol hdispatch hnext =>
      subst hnext
      cases op with
      | addPendingMessage service buf => exact hkept nofun rfl rfl
      | sendPendingInternalQmiMessages => exact h.idle_pass (hsend rfl)
      | handleIncomingQmiControlMessage bytes len =>
          refine hkept nofun (if_neg ?_) rfl
          exact fun hreply => hcontrol bytes len rfl hreply.1
      | dispatchIncomingQmiMessage bytes => exact absurd rfl (hdispatch bytes)
  | accepted service buf hop _ _ _ hnext =>
      subst hop hnext
      refine hkept nofun rfl ?_
      show ((s.set _ _).services i).transactionId = _
      exact set_same_transaction_id rfl
  | passed hop _ _ hnext =>
      subst hop hnext
      exact h.pass
  | allocated bytes len hop hreply _ hnext =>
      subst hop hnext
      by_cases hi : (bytes 22).toNat = i
      · have hheard : ∀ next, observeIds i s (.handleIncomingQmiControlMessage bytes len) next
            requests = requests.map (.hear (bytes 7).toUInt16) := fun _ => if_pos ⟨hreply, hi⟩
        rw [hheard, distinct_hear]
        refine ⟨⟨fun _ => nofun, fun _ => h.distinct⟩, follows_hear _ ?_⟩
        rw [set_transaction_id, if_pos hi.symm]
        rfl
      · refine hkept nofun (if_neg fun hboth => hi hboth.2) ?_
        rw [set_transaction_id, if_neg (Ne.symm hi)]
  | ready bytes len hop hshort hnext =>
      subst hop hnext
      refine hkept nofun (if_neg ?_) ?_
      · rintro ⟨⟨_, hlength, _⟩, _⟩
        omega
      · exact set_same_transaction_id rfl
  | received bytes hop _ hnext =>
      subst hop hnext
      by_cases hi : (bytes 4).toNat = i
      · have hheard : ∀ next, observeIds i s (.dispatchIncomingQmiMessage bytes) next requests =
            (answer bytes requests).map (.hear (nextTransactionId bytes)) := fun _ => if_pos hi
        rw [hheard, distinct_hear]
        refine ⟨⟨fun _ => nofun, fun _ => h.distinct.answer bytes⟩, follows_hear _ ?_⟩
        rw [set_transaction_id, if_pos hi.symm]
      · refine hkept nofun (if_neg hi) ?_
        rw [set_transaction_id, if_neg (Ne.symm hi)]

/-! ## Runs -/

theorem Tracked.run {ops : List ClientOp} {state : InternalQmiClient × List OpenRequest}
    (h : Run (idStep i) (fun state op => Proper op ∧ Spaced i state op) (initialClient, []) ops
      state) : Tracked i state.1 state.2 := by
  refine Run.invariant (fun state => Tracked i state.1 state.2) ?_ ?_ h
  · exact ⟨⟨_, balanced_initial⟩, nofun, List.nodup_nil⟩
  · rintro state op after htracked ⟨hproper, hspaced⟩ hstep
    obtain ⟨hnext, hrequests⟩ := id_step_ok hstep
    obtain ⟨l, hbalanced⟩ := htracked.balanced
    obtain ⟨hdistinct, hfollows⟩ := htracked.step hnext
    rw [hrequests]
    exact ⟨⟨_, hbalanced.step hproper hnext⟩, hfollows, hdistinct.2 hspaced⟩

/-- A pass with a message for a service that is ready. -/
theorem Tracked.send_ok (h : Tracked i s requests) (hsends : Sends s i) :
    idStep i (s, requests) .sendPendingInternalQmiMessages =
      .ok (afterPass s, requests ++ [⟨(s.services i).transactionId, none⟩]) := by
  obtain ⟨l, hbalanced⟩ := h.balanced
  rw [idStep, hbalanced.send_ok, if_pos (hbalanced.flag i hsends.1)]
  simp only [observe_pass_of_sends hbalanced hsends]

/-- In every run in which each request of the service is spaced from the open ones, the requests
in flight have different ids; and an operation that is not spaced breaks this. -/
theorem transaction_ids_distinct {ops : List ClientOp}
    (h : Run (idStep i) (fun state op => Proper op ∧ Spaced i state op) (initialClient, []) ops
      (s, requests)) :
    Distinct requests ∧ ∀ op next after, idStep i (s, requests) op = .ok (next, after) →
      (Distinct after ↔ Spaced i (s, requests) op) := by
  have htracked : Tracked i s requests := Tracked.run h
  refine ⟨htracked.distinct, fun op next after hstep => ?_⟩
  obtain ⟨hnext, hafter⟩ := id_step_ok hstep
  rw [show after = observeIds i s op next requests from hafter]
  exact (htracked.step hnext).1

/-- The client of the DMS service has been allocated. -/
def readyClient : InternalQmiClient :=
  initialClient.set 2 (allocated (allocationReply 0x02) (initialClient.services 2))

/-- A request to the DMS service has been queued. -/
def queueSample (s : InternalQmiClient) : InternalQmiClient :=
  { s.set 2 { s.services 2 with message := some sampleRequest, hasPendingMessage := true } with
    hasPendingMessage := true }

theorem queue_sample_ok (h : (s.services 2).hasPendingMessage = false) :
    idStep 2 (s, requests) (.addPendingMessage 0x02 sampleRequest) =
      .ok (queueSample s, requests) := by
  have hget : s.get 2 = .ok (s.services 2) := rfl
  have hadd : clientStep s (.addPendingMessage 0x02 sampleRequest) = .ok (queueSample s) := by
    simp [clientStep, addPendingMessage, hget, modify_eq, h, bind, Except.bind, queueSample,
      qmiServicesLast]
  rw [idStep, hadd]
  rfl

/-- The client of the DMS service is allocated, and a request is sent. -/
theorem first_request_run :
    Run (idStep 2) (fun state op => Proper op ∧ Spaced 2 state op) (initialClient, [])
      [.handleIncomingQmiControlMessage (allocationReply 0x02) 24,
        .addPendingMessage 0x02 sampleRequest, .sendPendingInternalQmiMessages]
      (afterPass (queueSample readyClient), [⟨5, none⟩]) := by
  have hadd : Proper (.addPendingMessage 0x02 sampleRequest) := show _ ∧ _ ∧ _ by decide
  have hqueued : Run (idStep 2) (fun state op => Proper op ∧ Spaced 2 state op) (initialClient, [])
      [.handleIncomingQmiControlMessage (allocationReply 0x02) 24,
        .addPendingMessage 0x02 sampleRequest] (queueSample readyClient, []) :=
    .snoc (.snoc (.nil _) ⟨trivial, nofun⟩ rfl) ⟨hadd, nofun⟩ (queue_sample_ok rfl)
  have hsends : Sends (queueSample readyClient) 2 := ⟨rfl, rfl, by decide⟩
  exact .snoc hqueued ⟨trivial, fun _ _ => nofun⟩ ((Tracked.run hqueued).send_ok hsends)

/-- A second request is sent while the first one is open. -/
theorem same_id_in_flight : ¬ ∀ i, DistinctInFlight i := by
  intro hdistinct
  have hadd : Proper (.addPendingMessage 0x02 sampleRequest) := show _ ∧ _ ∧ _ by decide
  have hqueued := Run.snoc first_request_run ⟨hadd, nofun⟩ (queue_sample_ok rfl)
  have hsends : Sends (queueSample (afterPass (queueSample readyClient))) 2 :=
    ⟨rfl, rfl, by decide⟩
  have hsent := (Tracked.run hqueued).send_ok hsends
  have hrun := Run.snoc (hqueued.mono fun _ _ h => h.1)
    (show Proper .sendPendingInternalQmiMessages from trivial) hsent
  have hnodup : ([5, 5] : List UInt16).Nodup := hdistinct 2 _ _ _ (by decide) hrun
  exact absurd hnodup (by decide)

/-- An indication of the DMS service with transaction id 9. -/
def sampleIndication : Bytes :=
  Bytes.ofList [0x01, 0x0d, 0, 0x80, 0x02, 0x07, 0x04, 0x09, 0, 0x01, 0, 0x01, 0, 0]

/-- A second request is sent while the first one is open, after an indication. -/
theorem spaced_requests_distinct :
    ∃ s, Run (idStep 2) (fun state op => Proper op ∧ Spaced 2 state op) (initialClient, [])
      [.handleIncomingQmiControlMessage (allocationReply 0x02) 24,
        .addPendingMessage 0x02 sampleRequest, .sendPendingInternalQmiMessages,
        .dispatchIncomingQmiMessage sampleIndication, .addPendingMessage 0x02 sampleRequest,
        .sendPendingInternalQmiMessages] (s, [⟨5, some 10⟩, ⟨10, none⟩]) ∧
      Distinct [⟨5, some 10⟩, ⟨10, none⟩] := by
  have hadd : Proper (.addPendingMessage 0x02 sampleRequest) := show _ ∧ _ ∧ _ by decide
  have hindication : Proper (.dispatchIncomingQmiMessage sampleIndication) := trivial
  have hsend : Proper .sendPendingInternalQmiMessages := trivial
  have hheard : ∃ t, idStep 2 (afterPass (queueSample readyClient), [⟨5, none⟩])
      (.dispatchIncomingQmiMessage sampleIndication) = .ok (t, [⟨5, some 10⟩]) ∧
      (t.services 2).hasPendingMessage = false ∧ (t.services 2).isInitialized = true ∧
      (t.services 2).transactionId = 10 :=
    ⟨_, rfl, rfl, rfl, rfl⟩
  obtain ⟨t, hheard, hempty, hready, hid⟩ := hheard
  have hqueued := Run.snoc (Run.snoc first_request_run ⟨hindication, nofun⟩ hheard) ⟨hadd, nofun⟩
    (queue_sample_ok hempty)
  have hsends : Sends (queueSample t) 2 := ⟨rfl, hready, by decide⟩
  have hspaced : Spaced 2 (queueSample t, [⟨5, some 10⟩]) .sendPendingInternalQmiMessages := by
    intro _ _ request hrequest
    rw [List.mem_singleton.1 hrequest]
    exact ⟨10, rfl, by decide⟩
  have hsent := (Tracked.run hqueued).send_ok hsends
  rw [show ((queueSample t).services 2).transactionId = 10 from hid] at hsent
  have hrun := Run.snoc hqueued ⟨hsend, hspaced⟩ hsent
  exact ⟨_, hrun, (transaction_ids_distinct hrun).1⟩

end OpenQti.Qmi
