import OpenQti.Qmi.ClientSteps

/-!
# Allocation of clients

The client asks for a client of a service when a pass finds a message for it and the service is
not ready. Nothing records that a request is under way, so each further round of the loop asks
again until a reply has marked the service as ready; `allocation_requests` is the exact account.
From that moment on no request is written.
-/

namespace OpenQti.Qmi

open Bytes InternalQmiClient Machine

/-- A call of a client, or a round of the loop with the packet that is read in it, if any. -/
inductive LoopOp where
  | addPendingMessage (service : UInt8) (buf : List UInt8)
  | round (packet : Option (Bytes × Nat))

/-- One operation. -/
def loopStep (s : InternalQmiClient) : LoopOp → Except ClientFault InternalQmiClient
  | .addPendingMessage service buf => clientStep s (.addPendingMessage service buf)
  | .round packet => loopPass s packet

/-- The operation is a round of the loop. -/
def LoopOp.isRound : LoopOp → Bool
  | .round _ => true
  | .addPendingMessage _ _ => false

/-- A request for a client of service `i`. -/
def allocationOf (i : Nat) : PortWrite → Option Unit
  | .allocation service => if service = i then some () else none
  | .message _ _ => none

/-- The number of requests for a client of service `i` written so far. -/
def allocations (s : InternalQmiClient) (i : Nat) : Nat := (s.port.filterMap (allocationOf i)).length

/-- A message is waiting for a service that is not ready. -/
def WaitsForClient (s : InternalQmiClient) (i : Nat) : Prop :=
  (s.services i).hasPendingMessage = true ∧ (s.services i).isInitialized = false

instance (s : InternalQmiClient) (i : Nat) : Decidable (WaitsForClient s i) :=
  inferInstanceAs (Decidable (_ ∧ _))

/-- The round reads a reply to a request for a client, of whatever service and result. -/
def LoopOp.ReadsReply : LoopOp → Prop
  | .addPendingMessage _ _ => False
  | .round packet => ∃ bytes len, packet = some (bytes, len) ∧ bytes 4 = 0 ∧
      le16 bytes 8 = clientRegisterReq

/-- After an operation that writes a request and reads no reply, no second request for the same
service is written until a reply is read. -/
def OneAllocationAtATime : Prop :=
  ∀ (before later : List LoopOp) (s t u : InternalQmiClient) (op : LoopOp) (i : Nat),
    Run loopStep Anything initialClient before s → loopStep s op = .ok t →
    allocations s i < allocations t i → ¬ op.ReadsReply →
    Run loopStep (fun _ op => ¬ op.ReadsReply) t later u → allocations u i = allocations t i

variable {s t next : InternalQmiClient} {op : LoopOp} {i : Nat}

/-! ## One pass -/

theorem pass_writes_allocation :
    (passWrites s i).filterMap (allocationOf i) = if WaitsForClient s i then [()] else [] := by
  cases hpending : (s.services i).hasPendingMessage with
  | false => simp [passWrites, WaitsForClient, hpending]
  | true =>
      cases hready : (s.services i).isInitialized with
      | false => simp [passWrites, WaitsForClient, hpending, hready, allocationOf]
      | true =>
          simp only [passWrites, WaitsForClient, hpending, hready]
          split_ifs <;> simp_all [allocationOf]

theorem pass_writes_allocation_of_ne {j : Nat} (hj : j ≠ i) :
    (passWrites s j).filterMap (allocationOf i) = [] := by
  unfold passWrites
  split_ifs
  all_goals simp [allocationOf, hj, List.filterMap_map, Function.comp_def]

/-- A pass writes one request if a message is waiting for the client, and else none. -/
theorem allocations_after_pass (hi : i < qmiServicesLast) :
    allocations (afterPass s) i = allocations s i + if WaitsForClient s i then 1 else 0 := by
  rw [allocations, after_pass_port, ← new_writes_after_pass, List.filterMap_append,
    filter_map_new_writes hi fun j hj => pass_writes_allocation_of_ne hj, pass_writes_allocation]
  split_ifs <;> simp [allocations]

/-- The entry of a service for whose client a message is waiting is not changed by a pass. -/
theorem WaitsForClient.after_pass (h : WaitsForClient s i) (hi : i < qmiServicesLast) :
    (afterPass s).services i = s.services i := by
  rw [after_pass_services hi, passEntry, h.2, Bool.and_false, if_neg Bool.false_ne_true]

/-! ## One packet -/

/-- What a packet from the baseband keeps. -/
structure PacketKeeps (s next : InternalQmiClient) : Prop where
  port : next.port = s.port
  flag : next.hasPendingMessage = s.hasPendingMessage
  pending : ∀ i, (next.services i).hasPendingMessage = (s.services i).hasPendingMessage
  ready : ∀ i, (s.services i).isInitialized = true → (next.services i).isInitialized = true

theorem PacketKeeps.refl (s : InternalQmiClient) : PacketKeeps s s :=
  ⟨rfl, rfl, fun _ => rfl, fun _ => id⟩

theorem packet_keeps_set {k : Nat} {b : QmiServiceBindings}
    (hpending : b.hasPendingMessage = (s.services k).hasPendingMessage)
    (hready : (s.services k).isInitialized = true → b.isInitialized = true) :
    PacketKeeps s (s.set k b) where
  port := rfl
  flag := rfl
  pending := by
    intro i
    by_cases hi : i = k
    · simp [InternalQmiClient.set, hi, hpending]
    · simp [InternalQmiClient.set, hi]
  ready := by
    intro i
    by_cases hi : i = k
    · subst hi
      simpa [InternalQmiClient.set] using hready
    · simp [InternalQmiClient.set, hi]

/-- A packet changes neither what is pending nor what has been written, and a service stays
ready. -/
theorem handle_packet_keeps {bytes : Bytes} {len : Nat} (h : handlePacket s bytes len = .ok next) :
    PacketKeeps s next := by
  have hcontrol : handleIncomingQmiControlMessage s bytes len = .ok next → PacketKeeps s next := by
    intro h
    cases control_effect h with
    | idle _ _ _ _ hnext => exact hnext ▸ PacketKeeps.refl s
    | allocated _ _ _ _ _ hnext => exact hnext ▸ packet_keeps_set rfl fun _ => rfl
    | ready _ _ _ _ hnext => exact hnext ▸ packet_keeps_set rfl fun _ => rfl
    | _ => contradiction
  have hservice : dispatchIncomingQmiMessage s bytes = .ok next → PacketKeeps s next := by
    intro h
    cases dispatch_effect h with
    | idle _ _ _ _ hnext => exact hnext ▸ PacketKeeps.refl s
    | received _ _ _ hnext => exact hnext ▸ packet_keeps_set rfl id
    | _ => contradiction
  simp only [handlePacket] at h
  split_ifs at h
  · exact hcontrol h
  · cases h
    exact PacketKeeps.refl s
  · exact hservice h
  all_goals
    cases h
    exact PacketKeeps.refl s

/-! ## One round -/

/-- A flag of a service is set only if the global flag is. -/
def Flagged (s : InternalQmiClient) : Prop :=
  ∀ i < qmiServicesLast, (s.services i).hasPendingMessage = true → s.hasPendingMessage = true

/-- The client between the pass of a round and its packet. -/
def passed (s : InternalQmiClient) : InternalQmiClient := if s.hasPendingMessage then afterPass s else s

/-- A round is a pass, if something is pending, and then at most one packet. -/
theorem loop_pass_keeps {packet : Option (Bytes × Nat)} (h : loopPass s packet = .ok next) :
    PacketKeeps (passed s) next := by
  have hread : handleRead (passed s) packet = .ok next := by
    cases hpending : s.hasPendingMessage with
    | false => simpa [loopPass, passed, hpending] using h
    | true =>
        cases hsend : sendPendingInternalQmiMessages s with
        | error fault => simp [loopPass, hpending, hsend, bind, Except.bind] at h
        | ok middle =>
            have hmiddle : middle = passed s := by
              rw [((send_pending_iff hpending).1 hsend).2, passed, if_pos hpending]
            simpa [loopPass, hpending, hsend, bind, Except.bind, ← hmiddle] using h
  cases packet with
  | none =>
      cases hread
      exact PacketKeeps.refl _
  | some packet => exact handle_packet_keeps hread

theorem allocations_passed (hflagged : Flagged s) (hi : i < qmiServicesLast) :
    allocations (passed s) i = allocations s i + if WaitsForClient s i then 1 else 0 := by
  unfold passed
  split_ifs with hpending hwaits
  · rw [allocations_after_pass hi, if_pos hwaits]
  · rw [allocations_after_pass hi, if_neg ‹_›]
  · exact absurd (hflagged i hi ‹WaitsForClient s i›.1) hpending
  · rfl

theorem ready_passed (i : Nat) :
    ((passed s).services i).isInitialized = (s.services i).isInitialized := by
  unfold passed
  split_ifs
  · by_cases hi : i < qmiServicesLast
    · rw [after_pass_services hi, pass_entry_is_initialized]
    · rw [after_pass_services_of_ge (by omega)]
  · rfl

theorem WaitsForClient.passed (h : WaitsForClient s i) (hi : i < qmiServicesLast) :
    (passed s).services i = s.services i := by
  unfold Qmi.passed
  split_ifs
  · exact h.after_pass hi
  · rfl

theorem Flagged.passed (h : Flagged s) : Flagged (passed s) := by
  unfold Qmi.passed
  split_ifs
  · exact fun i hi hpending => after_pass_has_pending_message hi hpending
  · exact h

/-! ## One operation -/

/-- What an operation does to the requests of one service, and to what they depend on. -/
structure Account (s : InternalQmiClient) (op : LoopOp) (next : InternalQmiClient) (i : Nat) : Prop where
  requests : allocations next i = allocations s i +
    if op.isRound ∧ WaitsForClient s i then 1 else 0
  ready : (s.services i).isInitialized = true → (next.services i).isInitialized = true
  pending : WaitsForClient s i → (next.services i).hasPendingMessage = true

theorem loop_step_account (hflagged : Flagged s) (hi : i < qmiServicesLast)
    (h : loopStep s op = .ok next) : Flagged next ∧ Account s op next i := by
  cases op with
  | addPendingMessage service buf =>
      cases add_effect h with
      | idle _ _ _ _ hnext =>
          subst hnext
          exact ⟨hflagged, by simp [LoopOp.isRound], id, fun hwaits => hwaits.1⟩
      | accepted _ _ _ _ _ _ hnext =>
          subst hnext
          refine ⟨fun _ _ _ => rfl, ?_, ?_, ?_⟩
          · simp only [LoopOp.isRound, Bool.false_eq_true, false_and, if_false]
            rfl
          · by_cases hsame : i = service.toNat <;> simp_all [InternalQmiClient.set]
          · by_cases hsame : i = service.toNat <;> simp_all [InternalQmiClient.set, WaitsForClient]
      | _ => contradiction
  | round packet =>
      have hkeeps := loop_pass_keeps h
      refine ⟨?_, ?_, ?_, ?_⟩
      · intro j hj
        rw [hkeeps.pending, hkeeps.flag]
        exact hflagged.passed j hj
      · rw [allocations, hkeeps.port, ← allocations, allocations_passed hflagged hi]
        simp [LoopOp.isRound]
      · intro hready
        exact hkeeps.ready i (by rwa [ready_passed])
      · intro hwaits
        rw [hkeeps.pending, hwaits.passed hi]
        exact hwaits.1

/-! ## Runs -/

/-- A service for which a request has been written has its message, unless it is ready. -/
def Requested (s : InternalQmiClient) : Prop :=
  ∀ i < qmiServicesLast, 0 < allocations s i →
    (s.services i).isInitialized = true ∨ WaitsForClient s i

theorem flagged_run {ops : List LoopOp} (h : Run loopStep Anything initialClient ops s) :
    Flagged s ∧ Requested s := by
  refine Run.invariant (fun s => Flagged s ∧ Requested s) ⟨?_, ?_⟩ ?_ h
  · intro i _ hpending
    cases hpending
  · intro i _ hpos
    cases hpos
  · rintro s op next ⟨hflagged, hrequested⟩ _ hstep
    refine ⟨(loop_step_account hflagged (i := 0) (by decide) hstep).1, fun i hi hpos => ?_⟩
    obtain ⟨_, haccount⟩ := loop_step_account hflagged hi hstep
    by_cases hwaits : WaitsForClient s i
    · cases hready : (next.services i).isInitialized with
      | true => exact .inl rfl
      | false => exact .inr ⟨haccount.pending hwaits, hready⟩
    · rw [haccount.requests, if_neg (fun hround => hwaits hround.2)] at hpos
      exact .inl (haccount.ready ((hrequested i hi hpos).resolve_right hwaits))

/-- Once a service is ready it stays so, and no request for a client of it is written. -/
theorem no_request_when_ready {ops : List LoopOp} (hflagged : Flagged s) (hi : i < qmiServicesLast)
    (hready : (s.services i).isInitialized = true) (h : Run loopStep Anything s ops t) :
    (t.services i).isInitialized = true ∧ allocations t i = allocations s i := by
  have hkept : Flagged t ∧ (t.services i).isInitialized = true ∧
      allocations t i = allocations s i := by
    refine Run.invariant (fun t => Flagged t ∧ (t.services i).isInitialized = true ∧
      allocations t i = allocations s i) ⟨hflagged, hready, rfl⟩ ?_ h
    rintro t op next ⟨hflagged, hready, hsame⟩ _ hstep
    obtain ⟨hnext, haccount⟩ := loop_step_account hflagged hi hstep
    have hwaits : ¬ WaitsForClient t i := fun hwaits => by simp [hwaits.2] at hready
    refine ⟨hnext, haccount.ready hready, ?_⟩
    rw [haccount.requests, if_neg (fun hround => hwaits hround.2), hsame,
      Nat.add_zero]
  exact hkept.2

/-- In every run and for every service: an operation writes at most one request for a client, and
it writes one exactly if it is a round that finds a message for a service that is not ready.
Once a request has been written the message stays until the service is ready, and from then on
no request is written. -/
theorem allocation_requests {ops : List LoopOp} (h : Run loopStep Anything initialClient ops s)
    (hi : i < qmiServicesLast) :
    (∀ op next, loopStep s op = .ok next → allocations next i = allocations s i +
        if op.isRound ∧ WaitsForClient s i then 1 else 0) ∧
      (0 < allocations s i → (s.services i).isInitialized = true ∨ WaitsForClient s i) ∧
      ((s.services i).isInitialized = true → ∀ later t, Run loopStep Anything s later t →
        (t.services i).isInitialized = true ∧ allocations t i = allocations s i) := by
  obtain ⟨hflagged, hrequested⟩ := flagged_run h
  refine ⟨fun op next hstep => ?_, hrequested i hi, fun hready later t hlater => ?_⟩
  · exact (loop_step_account hflagged hi hstep).2.requests
  · exact no_request_when_ready hflagged hi hready hlater

/-- No service is ready. -/
def NoneReady (s : InternalQmiClient) : Prop := ∀ i, (s.services i).isInitialized = false

/-- While no service is ready, a round without a packet asks for the clients and leaves it so. -/
theorem NoneReady.round (hnone : NoneReady s) (hpending : s.hasPendingMessage = true) :
    loopStep s (.round none) = .ok (afterPass s) ∧ NoneReady (afterPass s) := by
  have hsendable : ∀ i < qmiServicesLast, Sendable s i := by
    intro i _ hsends
    have hready := hsends.2.1
    rw [hnone i] at hready
    cases hready
  have hsend := (send_pending_iff hpending).2 ⟨hsendable, rfl⟩
  refine ⟨by simp [loopStep, loopPass, handleRead, hpending, hsend, bind, Except.bind], ?_⟩
  intro i
  have hready := ready_passed (s := s) i
  rwa [passed, if_pos hpending, hnone i] at hready

/-- A message is queued for the DMS service, and the loop goes round twice. -/
theorem second_allocation_request : ¬ OneAllocationAtATime := by
  intro hone
  have hqueued : ∃ s, Run loopStep Anything initialClient
      [.addPendingMessage 0x02 [0x01, 0x0c, 0, 0, 0x02, 0, 0, 0, 0, 0x25, 0, 0, 0]] s ∧
      NoneReady s ∧ WaitsForClient s 2 := by
    refine ⟨_, .snoc (.nil _) trivial rfl, fun i => ?_, rfl, rfl⟩
    by_cases hi : i = 2
    · subst hi
      rfl
    · show (Function.update initialClient.services 2 _ i).isInitialized = false
      rw [Function.update_of_ne hi]
      rfl
  obtain ⟨s, hrun, hnone, hwaits⟩ := hqueued
  have hfirst := hnone.round ((flagged_run hrun).1 2 (by decide) hwaits.1)
  have hwaitsAgain : WaitsForClient (afterPass s) 2 := by
    rw [WaitsForClient, hwaits.after_pass (by decide)]
    exact hwaits
  have hflagged := (flagged_run (.snoc hrun trivial hfirst.1)).1
  have hsecond := hfirst.2.round (hflagged 2 (by decide) hwaitsAgain.1)
  have hround : ¬ (LoopOp.round none).ReadsReply := by simp [LoopOp.ReadsReply]
  have hsame := hone _ _ s _ _ _ 2 hrun hfirst.1
    (by rw [allocations_after_pass (by decide), if_pos hwaits]; omega) hround
    (.snoc (.nil _) hround hsecond.1)
  rw [allocations_after_pass (by decide), if_pos hwaitsAgain] at hsame
  omega

/-- The account of the DMS service after one message has been queued for it. -/
theorem allocation_requests_dms :
    ∃ s, Run loopStep Anything initialClient
      [.addPendingMessage 0x02 [0x01, 0x0c, 0, 0, 0x02, 0, 0, 0, 0, 0x25, 0, 0, 0]] s ∧
      WaitsForClient s 2 ∧ ∀ packet next, loopStep s (.round packet) = .ok next →
        allocations next 2 = allocations s 2 + 1 := by
  have hrun : ∃ s, Run loopStep Anything initialClient
      [.addPendingMessage 0x02 [0x01, 0x0c, 0, 0, 0x02, 0, 0, 0, 0, 0x25, 0, 0, 0]] s ∧
      WaitsForClient s 2 :=
    ⟨_, .snoc (.nil _) trivial rfl, rfl, rfl⟩
  obtain ⟨s, hrun, hwaits⟩ := hrun
  refine ⟨s, hrun, hwaits, fun packet next hstep => ?_⟩
  have hcount := (allocation_requests hrun (i := 2) (by decide)).1 _ _ hstep
  rwa [if_pos ⟨rfl, hwaits⟩] at hcount

end OpenQti.Qmi
