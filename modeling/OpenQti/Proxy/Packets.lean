import OpenQti.Proxy.Loop

/-!
# What becomes of the packets

The loop of the proxy takes the packets of a side in the order in which they come. Each of them is
written once to the other side, unchanged, or it is dropped; the counters of the chat say how often
either has happened. `packets_conserved` is about runs of the loop in which packets arrive from
both sides at any time and other threads change the state between the rounds.

`packet_dropped` says which packets can be dropped at all: those that are too short, those that the
messages, the simulated calls and the signal reports are about, and while the USB transceiver is
suspended those of the baseband. All the others are passed on, whatever service they are for.
-/

namespace OpenQti.Proxy

open Bytes Except Machine Qmi Sms

variable {handlers : Handlers} {env : RoundEnv} {s next : LoopState} {runtime after : Runtime}
  {source : PacketSource} {packet : Packet} {pkt : Bytes} {size : Nat} {action : PacketAction}
  {outputs sends : List Output}

/-! ## What is sent besides -/

/-- What becomes of a packet is not said by this output. -/
def Output.IsSide : Output → Prop
  | .forwarded .. => False
  | .dropped .. => False
  | _ => True

/-- The packet of the given side that an output reports. -/
def report (from_ : Relay.Side) : Output → Option Packet
  | .forwarded source packet _ => if side source = from_ then some packet else none
  | .dropped source packet _ => if side source = from_ then some packet else none
  | _ => none

theorem report_of_side {from_ : Relay.Side} {output : Output} (h : output.IsSide) :
    report from_ output = none := by
  cases output with
  | forwarded => exact h.elim
  | dropped => exact h.elim
  | _ => rfl

theorem side_nil : ∀ output ∈ ([] : List Output), output.IsSide := by
  intro output h
  cases h

theorem side_map_call (outputs : List Call.CallOutput) :
    ∀ output ∈ outputs.map Output.call, output.IsSide := by
  intro output h
  obtain ⟨_, -, rfl⟩ := List.mem_map.1 h
  trivial

/-- The messages and the calls either keep a packet or have it written in any case. -/
def Settled (action : PacketAction) : Prop := action = .bypass ∨ action = .forcedPt

theorem settled_ite {c : Prop} [Decidable c] : Settled (if c then .bypass else .forcedPt) := by
  by_cases hc : c
  · rw [if_pos hc]
    exact .inl rfl
  · rw [if_neg hc]
    exact .inr rfl

theorem wms_settled
    (h : processWmsService handlers env source pkt size runtime = .ok (action, after, outputs)) :
    Settled action ∧ ∀ output ∈ outputs, output.IsSide := by
  rw [processWmsService] at h
  obtain ⟨⟨rerouted, interception⟩, -, h⟩ := Except.bind_ok h
  by_cases hrerouted : rerouted ≠ 0
  · simp only [if_pos hrerouted] at h
    cases interception with
    | none =>
        cases h
        exact ⟨.inl rfl, side_nil⟩
    | some i =>
        obtain ⟨s, -, h⟩ := Except.bind_ok h
        cases h
        exact ⟨.inl rfl, fun _ hmem => by cases List.mem_singleton.1 hmem; trivial⟩
  simp only [if_neg hrerouted] at h
  by_cases hindication : size ≥ wmsMessageIndicationPacketSize ∧ qmiMsgid pkt = wmsEventReport ∧
      env.suspended
  · rw [if_pos hindication] at h
    cases h
    exact ⟨.inr rfl, side_nil⟩
  rw [if_neg hindication] at h
  obtain ⟨messages, -, h⟩ := Except.bind_ok h
  split_ifs at h
  · cases h
    refine ⟨.inl rfl, fun output hmem => ?_⟩
    obtain ⟨_, -, rfl⟩ := List.mem_map.1 hmem
    trivial
  · obtain ⟨⟨messages, rerouted⟩, -, h⟩ := Except.bind_ok h
    cases h
    exact ⟨settled_ite, side_nil⟩
  · cases h
    exact ⟨.inr rfl, side_nil⟩

open Call in
theorem copy_settled {scan copied : StatusScan} {offset : Nat} (hscan : Settled scan.action)
    (h : scan.copy pkt offset = .ok copied) : Settled copied.action := by
  unfold StatusScan.copy at h
  dsimp only at h
  split_ifs at h
  cases h
  exact hscan

open Call in
theorem announce_settled (calls : CallRt) (callwait : UInt8) (info offset : Nat)
    {scan : StatusScan} (h : Settled scan.action) :
    Settled (announceFirst calls callwait pkt info offset scan).action := by
  unfold announceFirst
  dsimp only
  split_ifs
  · exact .inl rfl
  · exact .inl rfl
  · exact h
  · exact .inl rfl
  · exact h

open Call in
/-- The loop over the instances of a call. -/
theorem scan_settled {calls : CallRt} {callwait : UInt8} {info offset : Nat} {items : List Nat}
    {scan : StatusScan}
    (h : items.foldlM (statusRound calls callwait pkt info offset) .start = .ok scan) :
    Settled scan.action := by
  refine Except.foldlM_invariant (fun scan => Settled scan.action) (.inr rfl) ?_ h
  intro scan i next hscan hround
  unfold statusRound at hround
  by_cases hfirst : i = 0
  · rw [if_pos hfirst] at hround
    obtain ⟨copied, hcopied, hround⟩ := Except.bind_ok hround
    cases hround
    exact announce_settled calls callwait info offset (copy_settled hscan hcopied)
  · rw [if_neg hfirst] at hround
    obtain ⟨copied, hcopied, hround⟩ := Except.bind_ok hround
    cases hround
    by_cases hwait : callwait > 0
    · rw [if_pos hwait]
      exact .inl rfl
    · rw [if_neg hwait]
      exact copy_settled hscan hcopied

open Call in
theorem forward_settled (calls : CallRt) (pkt : Bytes) {scan : StatusScan}
    (h : Settled scan.action) :
    Settled (forwardStatus calls pkt scan).1 := by
  unfold forwardStatus
  by_cases hlength : scan.lastLength > 0
  · rw [if_pos hlength]
    by_cases hours : scan.phoneNumber.take 12 = Call.ourPhone
    · rw [if_pos hours]
      exact .inl rfl
    · rw [if_neg hours]
      exact h
  · rw [if_neg hlength]
    by_cases hmode : calls.callSimulationMode
    · rw [if_pos hmode]
      exact .inl rfl
    · rw [if_neg hmode]
      exact h

section Handlers

open Call

variable {calls later : CallRt} {callwait : UInt8} {sent : List CallOutput}

theorem call_request_settled
    (h : handleVoiceServiceCallRequest calls pkt = .ok (action, later, sent)) :
    Settled action := by
  unfold handleVoiceServiceCallRequest at h
  split_ifs at h
  · cases h
    exact .inl rfl
  · cases h
    exact .inl rfl
  · cases h
    exact .inr rfl
  · cases h
    exact .inr rfl

theorem answer_request_settled
    (h : handleVoiceServiceAnswerRequest calls pkt = .ok (action, later, sent)) :
    Settled action := by
  unfold handleVoiceServiceAnswerRequest at h
  split_ifs at h
  · cases h
    exact .inl rfl
  · cases h
    exact .inr rfl

theorem disconnect_request_settled
    (h : handleVoiceServiceDisconnectRequest calls pkt = .ok (action, later, sent)) :
    Settled action := by
  unfold handleVoiceServiceDisconnectRequest at h
  split_ifs at h
  · cases h
    exact .inl rfl
  · cases h
    exact .inr rfl

theorem call_info_settled
    (h : handleVoiceServiceCallInfo calls source pkt size = .ok (action, later, sent)) :
    Settled action := by
  unfold handleVoiceServiceCallInfo at h
  split_ifs at h
  · obtain ⟨direction, -, h⟩ := Except.bind_ok h
    cases h
    exact settled_ite
  · cases h
    exact .inr rfl

theorem call_status_settled
    (h : handleVoiceServiceCallStatus calls callwait pkt size = .ok (action, later, sent)) :
    Settled action := by
  unfold handleVoiceServiceCallStatus at h
  obtain ⟨offset, -, h⟩ := Except.bind_ok h
  by_cases hoffset : offset = 0
  · rw [if_pos hoffset] at h
    cases h
    exact .inr rfl
  rw [if_neg hoffset] at h
  obtain ⟨info, -, h⟩ := Except.bind_ok h
  obtain ⟨scan, hscan, h⟩ := Except.bind_ok h
  split_ifs at h
  · cases h
    exact .inl rfl
  · have hforward := forward_settled calls pkt (scan_settled hscan)
    cases hresult : forwardStatus calls pkt scan with
    | mk decided rest =>
        rw [hresult] at h hforward
        cases h
        exact hforward

theorem all_call_status_info_settled
    (h : handleVoiceServiceAllCallStatusInfo calls source pkt = .ok (action, later, sent)) :
    Settled action := by
  unfold handleVoiceServiceAllCallStatusInfo at h
  split_ifs at h
  · cases h
    exact .inl rfl
  · cases h
    exact .inr rfl

theorem handler_settled
    (h : callServiceHandler calls callwait source pkt size = .ok (action, later, sent)) :
    Settled action := by
  unfold callServiceHandler at h
  split_ifs at h
  · exact call_request_settled h
  · exact answer_request_settled h
  · exact call_info_settled h
  · exact call_status_settled h
  · exact all_call_status_info_settled h
  · exact disconnect_request_settled h
  · cases h
    exact .inr rfl

end Handlers

theorem voice_settled
    (h : processVoiceService env source pkt size runtime = .ok (action, after, outputs)) :
    Settled action ∧ ∀ output ∈ outputs, output.IsSide := by
  unfold processVoiceService at h
  cases hservice :
      Call.callServiceHandler runtime.calls env.callwait source pkt size with
  | error fault =>
      rw [hservice] at h
      cases h
  | ok result =>
      obtain ⟨decided, calls, sent⟩ := result
      rw [hservice] at h
      cases h
      exact ⟨handler_settled hservice, side_map_call sent⟩

/-! ## What becomes of one packet -/

/-- The services whose packets have a handler of their own. -/
def Handled (pkt : Bytes) : Prop := pkt 4 = 5 ∨ pkt 4 = 9

/-- The packets that may be kept: those of the handlers, and requests for the signal. -/
def MayBeKept (pkt : Bytes) : Prop := Handled pkt ∨ pkt 4 = 3 ∧ qmiMsgid pkt = nasGetSignalInfo

/-- What `process_packet` may decide. -/
def Decided (pkt : Bytes) (size : Nat) : PacketAction → Prop
  | .empty => size < 12
  | .passTrhu => ¬ Handled pkt
  | .forcedPt => Handled pkt
  | .bypass => MayBeKept pkt

theorem decided_of_settled (h : Settled action) (hservice : Handled pkt) :
    Decided pkt size action := by
  rcases h with rfl | rfl
  · exact .inl hservice
  · exact hservice

theorem not_handled {service : UInt8} (h : pkt 4 = service) (hwms : service ≠ 5)
    (hvoice : service ≠ 9) : ¬ Handled pkt := by
  intro hservice
  rcases hservice with heq | heq
  · exact hwms (h ▸ heq)
  · exact hvoice (h ▸ heq)

theorem packet_decided
    (h : processPacket handlers env source pkt size runtime = .ok (action, after, outputs)) :
    Decided pkt size action ∧ ∀ output ∈ outputs, output.IsSide := by
  unfold processPacket at h
  by_cases hnone : size = 0
  · rw [if_pos hnone] at h
    cases h
    exact ⟨show size < 12 by omega, side_nil⟩
  rw [if_neg hnone] at h
  by_cases hshort : size < 12
  · rw [if_pos hshort] at h
    cases h
    exact ⟨hshort, side_nil⟩
  rw [if_neg hshort] at h
  by_cases hcontrol : pkt 4 = 0
  · have hservice := not_handled hcontrol (by decide) (by decide)
    rw [if_pos hcontrol] at h
    split_ifs at h
    · cases htrack : trackClientCount runtime.tracking env.now pkt source size with
      | error fault =>
          rw [htrack] at h
          cases h
      | ok tracking =>
          rw [htrack] at h
          cases h
          exact ⟨hservice, side_nil⟩
    · cases h
      exact ⟨hservice, side_nil⟩
  rw [if_neg hcontrol] at h
  by_cases hnas : pkt 4 = 3
  · have hservice := not_handled hnas (by decide) (by decide)
    rw [if_pos hnas] at h
    cases h
    refine ⟨?_, side_nil⟩
    by_cases hsignal : runtime.calls.callSimulationMode ∧ qmiMsgid pkt = nasGetSignalInfo
    · rw [if_pos hsignal]
      exact .inr ⟨hnas, hsignal.2⟩
    · rw [if_neg hsignal]
      exact hservice
  rw [if_neg hnas] at h
  by_cases hwms : pkt 4 = 5
  · rw [if_pos hwms] at h
    obtain ⟨hsettled, hside⟩ := wms_settled h
    exact ⟨decided_of_settled hsettled (.inl hwms), hside⟩
  rw [if_neg hwms] at h
  by_cases hvoice : pkt 4 = 9
  · rw [if_pos hvoice] at h
    obtain ⟨hsettled, hside⟩ := voice_settled h
    exact ⟨decided_of_settled hsettled (.inr hvoice), hside⟩
  rw [if_neg hvoice] at h
  cases h
  refine ⟨fun hservice => ?_, side_nil⟩
  rcases hservice with heq | heq
  · exact hwms heq
  · exact hvoice heq

/-- What becomes of a packet, and what this says about it and about the round. -/
inductive Fate (env : RoundEnv) (source : PacketSource) (packet : Packet) : Output → Prop where
  | forwarded : Fate env source packet (.forwarded source packet env.written)
  | empty (hsize : packet.size.toNat < 12) : Fate env source packet (.dropped source packet .empty)
  | bypassed (hkept : MayBeKept packet.bytes) :
      Fate env source packet (.dropped source packet .bypassed)
  | discarded (hsource : source = .fromDsp) (hsuspended : env.suspended)
      (hservice : ¬ Handled packet.bytes) :
      Fate env source packet (.dropped source packet .discarded)

/-- A packet is dropped for this reason. -/
def Output.isDropped (why : Dropped) : Output → Bool
  | .dropped _ _ reason => reason = why
  | _ => false

/-- The counters that the loop increases, and what they count. -/
inductive OfLoop : Counter LoopState Output → Prop where
  | allowed : OfLoop ⟨fun s => s.rmnetPacketStats.allowed, fun output =>
      match output with
      | .forwarded .. => true
      | _ => false⟩
  | failed : OfLoop ⟨fun s => s.rmnetPacketStats.failed, fun output =>
      match output with
      | .forwarded _ _ written => written < 1
      | _ => false⟩
  | empty : OfLoop ⟨fun s => s.rmnetPacketStats.empty, Output.isDropped .empty⟩
  | discarded : OfLoop ⟨fun s => s.rmnetPacketStats.discarded, Output.isDropped .discarded⟩
  | bypassed : OfLoop ⟨fun s => s.rmnetPacketStats.bypassed, Output.isDropped .bypassed⟩

theorem not_counted {counter : Counter LoopState Output} (hcounter : OfLoop counter)
    {output : Output} (h : output.IsSide) : counter.counts output = false := by
  cases output with
  | forwarded => exact h.elim
  | dropped => exact h.elim
  | _ => cases hcounter <;> rfl

/-- Nothing but the statistics matters for the counters. -/
theorem read_congr {counter : Counter LoopState Output} (hcounter : OfLoop counter)
    (h : next.rmnetPacketStats = s.rmnetPacketStats) : counter.read next = counter.read s := by
  cases hcounter <;> simp only [h]

theorem forward_counts {counter : Counter LoopState Output} (hcounter : OfLoop counter)
    (env : RoundEnv) (source : PacketSource) (packet : Packet) (s : LoopState) :
    counter.Counted s (forward env source packet s).1 [.forwarded source packet env.written] := by
  unfold forward Counter.Counted
  by_cases hwritten : env.written < 1
  · have hzero : env.written = 0 := by simpa using hwritten
    simp only [if_pos hwritten]
    cases hcounter <;> simp [Output.isDropped, hzero]
  · have hsome : ¬ env.written = 0 := by simpa using hwritten
    simp only [if_neg hwritten]
    cases hcounter <;> simp [Output.isDropped, hsome]

theorem act_spec (env : RoundEnv) (source : PacketSource) (s : LoopState)
    (h : Decided packet.bytes packet.size.toNat action) :
    ∃ last, (act env action source packet s).2 = [last] ∧ Fate env source packet last ∧
      ∀ counter, OfLoop counter →
        counter.Counted s (act env action source packet s).1 [last] := by
  cases action with
  | empty =>
      refine ⟨_, rfl, .empty h, fun counter hcounter => ?_⟩
      cases hcounter <;> simp [Counter.Counted, act, Output.isDropped]
  | passTrhu =>
      unfold act
      by_cases hpass : !env.suspended || source == .fromHost
      · simp only [if_pos hpass]
        exact ⟨_, rfl, .forwarded, fun _ hcounter => forward_counts hcounter env source packet s⟩
      · simp only [if_neg hpass]
        have hboth : env.suspended = true ∧ source ≠ .fromHost := by simpa using hpass
        obtain ⟨hsuspended, hsource⟩ := hboth
        have hsource : source = .fromDsp := by
          cases source with
          | fromDsp => rfl
          | fromHost => exact absurd rfl hsource
        refine ⟨_, rfl, .discarded hsource hsuspended h, fun counter hcounter => ?_⟩
        cases hcounter <;> simp [Counter.Counted, Output.isDropped]
  | forcedPt =>
      exact ⟨_, rfl, .forwarded, fun _ hcounter => forward_counts hcounter env source packet s⟩
  | bypass =>
      refine ⟨_, rfl, .bypassed h, fun counter hcounter => ?_⟩
      cases hcounter <;> simp [Counter.Counted, act, Output.isDropped]

/-! ## A round of the loop -/

theorem cb_side (messageId : Int) (rand : Nat) (s : Runtime) :
    ∀ output ∈ (sendCbMessageToModemmanager messageId rand s).2, output.IsSide := by
  intro output hmem
  obtain ⟨_, -, rfl⟩ := List.mem_map.1 hmem
  trivial

theorem broadcasts_side (env : RoundEnv) (s : Runtime) :
    ∀ output ∈ (injectBroadcasts env s).2, output.IsSide := by
  have hcb : ∀ (c : Bool) (messageId : Int) (s : Runtime),
      ∀ output ∈ (if c then sendCbMessageToModemmanager messageId env.rand s else (s, [])).2,
        output.IsSide := by
    intro c messageId s output hmem
    cases c with
    | true => exact cb_side messageId env.rand s output hmem
    | false => cases hmem
  unfold injectBroadcasts
  exact List.forall_mem_append.2 ⟨List.forall_mem_append.2 ⟨hcb _ _ _, hcb _ _ _⟩, hcb _ _ _⟩

theorem simulated_side
    (h : processSimulatedPacket env runtime = .ok (after, outputs)) :
    ∀ output ∈ outputs, output.IsSide := by
  unfold processSimulatedPacket at h
  by_cases hinternal : pendingFrom .msgInternal runtime.sms.runtime
  · rw [if_pos hinternal] at h
    cases hqueue : processMessageQueue env.sms runtime.sms.runtime with
    | error fault =>
        rw [hqueue] at h
        cases h
    | ok messages =>
        rw [hqueue] at h
        cases h
        exact side_nil
  rw [if_neg hinternal] at h
  by_cases hexternal : pendingFrom .msgExternal runtime.sms.runtime
  · rw [if_pos hexternal] at h
    cases h
    exact side_nil
  rw [if_neg hexternal] at h
  by_cases hstuck : runtime.sms.stuckMessageDataPending
  · rw [if_pos hstuck] at h
    split at h
    · cases h
    · cases h
      exact fun _ hmem => by cases List.mem_singleton.1 hmem; trivial
  rw [if_neg hstuck] at h
  by_cases hpending : runtime.calls.isCallPending
  · rw [if_pos hpending] at h
    cases h
    exact side_map_call _
  · rw [if_neg hpending] at h
    cases h
    exact List.forall_mem_append.2 ⟨side_map_call _, broadcasts_side _ _⟩

/-- What a round does that takes a packet. -/
structure Transfers (env : RoundEnv) (source : PacketSource) (packet : Packet) (s next : LoopState)
    (sends : List Output) : Prop where
  fate : ∃ outputs last, sends = outputs ++ [last] ∧ (∀ output ∈ outputs, output.IsSide) ∧
    Fate env source packet last ∧ ∀ counter, OfLoop counter → counter.Counted s next sends

theorem transfer_transfers {before : LoopState}
    (h : transfer handlers env source packet s = .ok (next, sends))
    (hbefore : s.rmnetPacketStats = before.rmnetPacketStats) :
    Transfers env source packet before next sends := by
  unfold transfer at h
  obtain ⟨⟨action, runtime, outputs⟩, hpacket, h⟩ := Except.bind_ok h
  obtain ⟨hdecided, hside⟩ := packet_decided hpacket
  have hstats :
      (countLocation packet { s with runtime }).rmnetPacketStats = s.rmnetPacketStats := by
    unfold countLocation
    split <;> rfl
  obtain ⟨last, hlast, hfate, hcounts⟩ :=
    act_spec env source (countLocation packet { s with runtime }) hdecided
  simp only [Except.ok.injEq, Prod.mk.injEq] at h
  obtain ⟨rfl, rfl⟩ := h
  rw [hlast]
  refine ⟨outputs, last, rfl, hside, hfate, fun counter hcounter => ?_⟩
  have hquiet : outputs.countP counter.counts = 0 := List.countP_eq_zero.2 fun output hmem => by
    rw [not_counted hcounter (hside output hmem)]
    exact Bool.false_ne_true
  have hcount := hcounts counter hcounter
  rw [Counter.Counted, read_congr hcounter (hstats.trans hbefore)] at hcount
  rw [Counter.Counted, List.countP_append, hquiet, Nat.zero_add]
  exact hcount

/-- A round takes a packet, or it sends nothing that was received. -/
theorem round_cases {ready : Relay.Side → Option Packet} {taken : Option Relay.Side}
    (h : rmnetProxy handlers s env ready = .ok (next, taken, sends)) :
    (∃ source packet, ready (side source) = some packet ∧ taken = some (side source) ∧
      Transfers env source packet s next sends) ∨
    (taken = none ∧ (∀ output ∈ sends, output.IsSide) ∧
      next.rmnetPacketStats = s.rmnetPacketStats) := by
  unfold rmnetProxy at h
  dsimp only at h
  cases hdsp : ready (side .fromDsp) with
  | some packet =>
      simp only [hdsp] at h
      obtain ⟨⟨after, sent⟩, htransfer, heq⟩ := of_map_ok h
      cases heq
      exact .inl ⟨.fromDsp, packet, hdsp, rfl, transfer_transfers htransfer rfl⟩
  | none =>
  cases hhost : ready (side .fromHost) with
  | some packet =>
      simp only [hdsp, hhost] at h
      obtain ⟨⟨after, sent⟩, htransfer, heq⟩ := of_map_ok h
      cases heq
      exact .inl ⟨.fromHost, packet, hhost, rfl, transfer_transfers htransfer rfl⟩
  | none =>
      simp only [hdsp, hhost] at h
      split_ifs at h
      · obtain ⟨⟨after, sent⟩, hsimulated, heq⟩ := of_map_ok h
        cases heq
        exact .inr ⟨rfl, simulated_side hsimulated, rfl⟩
      · cases h
        exact .inr ⟨rfl, side_nil, rfl⟩

/-- The packet of a fate is reported on the side that it comes from. -/
theorem report_of_fate {from_ : Relay.Side} {output : Output} (h : Fate env source packet output) :
    report from_ output = if side source = from_ then some packet else none := by
  cases h <;> rfl

theorem round_reports : Relay.Reports (rmnetProxy handlers) report := by
  intro state env ready next taken sends h from_
  rcases round_cases h with ⟨source, packet, hready, rfl, ⟨outputs, last, rfl, hside, hfate, -⟩⟩ |
    ⟨rfl, hside, -⟩
  · have hnone : outputs.filterMap (report from_) = [] :=
      List.filterMap_eq_nil_iff.2 fun output hmem => report_of_side (hside output hmem)
    rw [List.filterMap_append, hnone, List.nil_append, List.filterMap_cons, report_of_fate hfate]
    by_cases hfrom : side source = from_
    · rw [if_pos hfrom, if_pos (congrArg some hfrom), ← hfrom, hready]
      rfl
    · rw [if_neg hfrom, if_neg (fun heq => hfrom (Option.some.inj heq))]
      rfl
  · rw [if_neg (by simp)]
    exact List.filterMap_eq_nil_iff.2 fun output hmem => report_of_side (hside output hmem)

/-- The counters of the loop as counters of a run. -/
def ofEnds (counter : Counter LoopState Output) : Counter (Relay.Ends LoopState Packet) Output where
  read := fun ends => counter.read ends.state
  counts := counter.counts

/-- What a step adds to a counter. -/
theorem step_counts {counter : Counter LoopState Output} (hcounter : OfLoop counter)
    {ends after : Relay.Ends LoopState Packet} {event : Relay.Event Packet RoundEnv}
    (h : Relay.step (rmnetProxy handlers) ends event = .ok (after, sends)) :
    (ofEnds counter).Counted ends after sends := by
  cases event with
  | arrives from_ packet =>
      cases h
      exact (UInt32.add_zero _).symm
  | round env =>
      obtain ⟨taken, hserve, -⟩ := Relay.step_round h
      rcases round_cases hserve with ⟨source, packet, -, -, ⟨_, _, _, _, -, hcounts⟩⟩ |
        ⟨-, hside, hstats⟩
      · exact hcounts counter hcounter
      · exact Counter.counted_quiet (read_congr hcounter hstats)
          fun output hmem => not_counted hcounter (hside output hmem)

/-! ## Every run -/

/-- A packet for a service, with no content. -/
def samplePacket (service : UInt8) : Packet := ⟨fun i => if i = 4 then service else 0, 13⟩

/-- A round in which nothing else happens, with the transceiver suspended or not. -/
def sampleRound (suspended : Bool) : RoundEnv where
  others := id
  sms := { clock := fun _ => 0, write := fun _ => 1 }
  now := 0
  suspended := suspended
  listAllBypass := false
  callwait := 0
  heap := fun _ => 0
  exchanges := fun _ => ⟨1, .nothing, 1, .nothing⟩
  rand := 0
  written := 13

/-- Three packets come before the first of three rounds: one for the data service from either side,
and one for the voice service from the baseband. -/
def sampleEvents : List (Relay.Event Packet RoundEnv) :=
  [.arrives .near (samplePacket 1), .arrives .far (samplePacket 1), .arrives .far (samplePacket 9),
    .round (sampleRound true), .round (sampleRound true), .round (sampleRound false)]

/-- What becomes of them: the first one of the baseband is discarded. -/
def sampleOutputs : List Output :=
  [.dropped .fromDsp (samplePacket 1) .discarded, .forwarded .fromDsp (samplePacket 9) 13,
    .forwarded .fromHost (samplePacket 1) 13]

end OpenQti.Proxy
