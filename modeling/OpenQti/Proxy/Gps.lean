import OpenQti.Chat.Replies
import OpenQti.Lib.Ensures
import OpenQti.Lib.Relay
import OpenQti.Qmi.Tracking

/-!
# The GPS proxy

`gps_proxy` passes on what the GPS of the baseband reports, and what the host sends to it. While
the USB transceiver is suspended, or while the device of the host cannot be opened, the reports are
read all the same and thrown away, since a buffer that nobody reads makes the kernel panic.

`gps_conserved` says what becomes of everything that is read, and what the counters count.
`gps_drained` is about the buffer: every round takes something out of it, whatever the state of the
host.
-/

namespace OpenQti.Proxy.Gps

open Machine Qmi

/-! ## The suspend state -/

/-- What `get_transceiver_suspend_state` finds: the byte that is read, if there is one, and what the
stack holds behind it. -/
structure SuspendRead where
  byte : Option UInt8
  stack : List UInt8

/-- `get_transceiver_suspend_state()`. Only one byte is read; the number that is looked for may go
on in what the stack holds. -/
def getTransceiverSuspendState (env : SuspendRead) : Bool :=
  match env.byte with
  | none => false
  | some byte => Text.atoi (byte :: env.stack.takeWhile (· ≠ 0)) > 0

/-! ## The loop -/

/-- The nodes of `gps_proxy`, node 1 being that of the baseband, and `proxy_rt.gps_packet_stats`. -/
structure GpsState where
  node1Open : Bool
  node2Open : Bool
  gpsPacketStats : Chat.PktStats

/-- What a round finds: whether the devices can be opened, what `get_transceiver_suspend_state`
finds before they are opened and after `select`, and the value of `write`. -/
structure GpsRound where
  node1Opens : Bool
  node2Opens : Bool
  atOpen : SuspendRead
  atRead : SuspendRead
  written : Int

/-- What becomes of what is read. Nothing is read if the device has been closed. -/
inductive GpsOutput where
  | forwarded (source : PacketSource) (bytes : List UInt8) (written : Int)
  | discarded (bytes : List UInt8)
  | closed (source : PacketSource)

/-- The device of the baseband cannot be opened, and `FD_SET` is called with a file descriptor that
is negative. -/
inductive GpsFault where
  | fdSet
  deriving DecidableEq, Repr

/-- The side that something is read from. -/
def side : PacketSource → Relay.Side
  | .fromHost => .near
  | .fromDsp => .far

/-- Something is written to the other side. -/
def forward (env : GpsRound) (source : PacketSource) (bytes : List UInt8) (s : GpsState) :
    GpsState × Option Relay.Side × List GpsOutput :=
  let stats := { s.gpsPacketStats with allowed := s.gpsPacketStats.allowed + 1 }
  let stats := if env.written = 0 then { stats with failed := stats.failed + 1 } else stats
  ({ s with gpsPacketStats := stats }, some (side source), [.forwarded source bytes env.written])

/-- `read` has returned nothing, and the device is closed. -/
def close (source : PacketSource) (s : GpsState) : GpsState × Option Relay.Side × List GpsOutput :=
  let stats := { s.gpsPacketStats with empty := s.gpsPacketStats.empty + 1 }
  match source with
  | .fromDsp =>
      (⟨false, s.node2Open, stats⟩, some (side .fromDsp), [.closed .fromDsp])
  | .fromHost =>
      (⟨s.node1Open, false, stats⟩, some (side .fromHost), [.closed .fromHost])

/-- What has been read from the baseband. -/
def fromBaseband (env : GpsRound) (bytes : List UInt8) (s : GpsState) :
    GpsState × Option Relay.Side × List GpsOutput :=
  if bytes ≠ [] then
    if !getTransceiverSuspendState env.atRead && s.node2Open then forward env .fromDsp bytes s
    else
      let stats := { s.gpsPacketStats with discarded := s.gpsPacketStats.discarded + 1 }
      ({ s with gpsPacketStats := stats }, some (side .fromDsp), [.discarded bytes])
  else close .fromDsp s

/-- What has been read from the host. -/
def fromUsb (env : GpsRound) (bytes : List UInt8) (s : GpsState) :
    GpsState × Option Relay.Side × List GpsOutput :=
  if bytes ≠ [] then forward env .fromHost bytes s else close .fromHost s

/-- One round of the loop of `gps_proxy`. -/
def gpsProxy (s : GpsState) (env : GpsRound) (ready : Relay.Side → Option (List UInt8)) :
    Except GpsFault (GpsState × Option Relay.Side × List GpsOutput) :=
  let s := { s with
    node1Open := s.node1Open || env.node1Opens
    node2Open := s.node2Open || (!getTransceiverSuspendState env.atOpen && env.node2Opens) }
  if !s.node1Open then .error .fdSet
  else
    match ready (side .fromDsp), ready (side .fromHost) with
    | some bytes, _ => .ok (fromBaseband env bytes s)
    | none, some bytes =>
        if !getTransceiverSuspendState env.atRead && s.node2Open then .ok (fromUsb env bytes s)
        else .ok (s, none, [])
    | none, none => .ok (s, none, [])

/-! ## One round -/

/-- What has been read from the given side, as an output reports it. -/
def report (from_ : Relay.Side) : GpsOutput → Option (List UInt8)
  | .forwarded source bytes _ => if side source = from_ then some bytes else none
  | .discarded bytes => if side .fromDsp = from_ then some bytes else none
  | .closed source => if side source = from_ then some [] else none

/-- The counters that the loop increases, and what they count. -/
inductive OfLoop : Counter GpsState GpsOutput → Prop where
  | allowed : OfLoop ⟨fun s => s.gpsPacketStats.allowed, fun output =>
      match output with
      | .forwarded .. => true
      | _ => false⟩
  | failed : OfLoop ⟨fun s => s.gpsPacketStats.failed, fun output =>
      match output with
      | .forwarded _ _ written => written = 0
      | _ => false⟩
  | discarded : OfLoop ⟨fun s => s.gpsPacketStats.discarded, fun output =>
      match output with
      | .discarded _ => true
      | _ => false⟩
  | empty : OfLoop ⟨fun s => s.gpsPacketStats.empty, fun output =>
      match output with
      | .closed _ => true
      | _ => false⟩

variable {env : GpsRound} {s next : GpsState} {ready : Relay.Side → Option (List UInt8)}
  {taken : Option Relay.Side} {sends : List GpsOutput} {bytes : List UInt8} {source : PacketSource}

theorem read_congr {counter : Counter GpsState GpsOutput} (hcounter : OfLoop counter)
    (hstats : next.gpsPacketStats = s.gpsPacketStats) : counter.read next = counter.read s := by
  cases hcounter <;> simp only [hstats]

/-- What is done with something that has been read. -/
structure Takes (source : PacketSource) (bytes : List UInt8) (s : GpsState)
    (result : GpsState × Option Relay.Side × List GpsOutput) : Prop where
  taken : result.2.1 = some (side source)
  reported : ∃ output, result.2.2 = [output] ∧
    ∀ from_, report from_ output = if side source = from_ then some bytes else none
  counts : ∀ counter, OfLoop counter → counter.Counted s result.1 result.2.2

theorem forward_takes (env : GpsRound) (source : PacketSource) (bytes : List UInt8) (s : GpsState) :
    Takes source bytes s (forward env source bytes s) := by
  refine ⟨rfl, ⟨_, rfl, fun _ => rfl⟩, fun counter hcounter => ?_⟩
  unfold forward Counter.Counted
  by_cases hwritten : env.written = 0
  · simp only [if_pos hwritten]
    cases hcounter <;> simp [hwritten]
  · simp only [if_neg hwritten]
    cases hcounter <;> simp [hwritten]

theorem close_takes (source : PacketSource) (s : GpsState) :
    Takes source [] s (close source s) := by
  cases source with
  | fromDsp =>
      refine ⟨rfl, ⟨_, rfl, fun _ => rfl⟩, fun counter hcounter => ?_⟩
      cases hcounter <;> simp [close, Counter.Counted]
  | fromHost =>
      refine ⟨rfl, ⟨_, rfl, fun _ => rfl⟩, fun counter hcounter => ?_⟩
      cases hcounter <;> simp [close, Counter.Counted]

theorem baseband_takes (env : GpsRound) (bytes : List UInt8) (s : GpsState) :
    Takes .fromDsp bytes s (fromBaseband env bytes s) := by
  unfold fromBaseband
  by_cases hsome : bytes ≠ []
  · rw [if_pos hsome]
    by_cases hpass : !getTransceiverSuspendState env.atRead && s.node2Open
    · rw [if_pos hpass]
      exact forward_takes env .fromDsp bytes s
    · rw [if_neg hpass]
      refine ⟨rfl, ⟨_, rfl, fun _ => rfl⟩, fun counter hcounter => ?_⟩
      cases hcounter <;> simp [Counter.Counted]
  · rw [if_neg hsome, not_not.1 hsome]
    exact close_takes .fromDsp s

theorem usb_takes (env : GpsRound) (bytes : List UInt8) (s : GpsState) :
    Takes .fromHost bytes s (fromUsb env bytes s) := by
  unfold fromUsb
  by_cases hsome : bytes ≠ []
  · rw [if_pos hsome]
    exact forward_takes env .fromHost bytes s
  · rw [if_neg hsome, not_not.1 hsome]
    exact close_takes .fromHost s

/-- A round takes what one of the sides has sent, or it sends nothing. What comes from the baseband
is taken in any case. -/
theorem round_cases (h : gpsProxy s env ready = .ok (next, taken, sends)) :
    (∃ source bytes, ready (side source) = some bytes ∧
      ((ready (side .fromDsp)).isSome → source = .fromDsp) ∧
      Takes source bytes s (next, taken, sends)) ∨
    (ready (side .fromDsp) = none ∧ taken = none ∧ sends = [] ∧
      next.gpsPacketStats = s.gpsPacketStats) := by
  have hopened : ∀ {source : PacketSource} {bytes : List UInt8} {node1Open node2Open : Bool}
      {result : GpsState × Option Relay.Side × List GpsOutput},
      Takes source bytes ⟨node1Open, node2Open, s.gpsPacketStats⟩ result →
      Takes source bytes s result := by
    intro source bytes node1Open node2Open result htakes
    refine ⟨htakes.taken, htakes.reported, fun counter hcounter => ?_⟩
    have hcounts := htakes.counts counter hcounter
    cases hcounter <;> exact hcounts
  unfold gpsProxy at h
  dsimp only at h
  by_cases hnode1 : !(s.node1Open || env.node1Opens)
  · rw [if_pos hnode1] at h
    cases h
  rw [if_neg hnode1] at h
  cases hdsp : ready (side .fromDsp) with
  | some bytes =>
      simp only [hdsp] at h
      refine .inl ⟨.fromDsp, bytes, hdsp, fun _ => rfl, ?_⟩
      rw [← Except.ok.inj h]
      exact hopened (baseband_takes env bytes _)
  | none =>
  cases hhost : ready (side .fromHost) with
  | none =>
      simp only [hdsp, hhost] at h
      cases h
      exact .inr ⟨rfl, rfl, rfl, rfl⟩
  | some bytes =>
      simp only [hdsp, hhost] at h
      split_ifs at h
      · refine .inl ⟨.fromHost, bytes, hhost, (fun hsome => by cases hsome), ?_⟩
        rw [← Except.ok.inj h]
        exact hopened (usb_takes env bytes _)
      · cases h
        exact .inr ⟨rfl, rfl, rfl, rfl⟩

theorem round_reports : Relay.Reports gpsProxy report := by
  intro s env ready next taken sends h from_
  rcases round_cases h with ⟨source, bytes, hready, -, htaken, ⟨output, hsends, hreport⟩, -⟩ |
    ⟨-, rfl, rfl, -⟩
  · dsimp only at htaken hsends
    rw [htaken, hsends, List.filterMap_cons, hreport from_]
    by_cases hfrom : side source = from_
    · rw [if_pos hfrom, if_pos (congrArg some hfrom), ← hfrom, hready]
      rfl
    · rw [if_neg hfrom, if_neg (fun heq => hfrom (Option.some.inj heq))]
      rfl
  · rw [if_neg (by simp)]
    rfl

/-- The counters of the loop as counters of a run. -/
def ofEnds (counter : Counter GpsState GpsOutput) :
    Counter (Relay.Ends GpsState (List UInt8)) GpsOutput where
  read := fun ends => counter.read ends.state
  counts := counter.counts

/-- What a step adds to a counter. -/
theorem step_counts {counter : Counter GpsState GpsOutput} (hcounter : OfLoop counter)
    {ends after : Relay.Ends GpsState (List UInt8)} {event : Relay.Event (List UInt8) GpsRound}
    (h : Relay.step gpsProxy ends event = .ok (after, sends)) :
    (ofEnds counter).Counted ends after sends := by
  cases event with
  | arrives from_ bytes =>
      cases h
      exact (UInt32.add_zero _).symm
  | round env =>
      obtain ⟨taken, hserve, -⟩ := Relay.step_round h
      rcases round_cases hserve with ⟨source, bytes, -, -, -, -, hcounts⟩ | ⟨-, -, rfl, hstats⟩
      · exact hcounts counter hcounter
      · exact Counter.counted_quiet (read_congr hcounter hstats) fun _ hmem => by cases hmem

/-! ## Every run -/

/-- Nothing that either side sends is lost without a trace, taken twice or overtaken: it has been
written to the other side, or thrown away, or it still waits, in this order. The counters say how
often each of these has happened. -/
theorem gps_conserved {start finish : Relay.Ends GpsState (List UInt8)}
    {events : List (Relay.Event (List UInt8) GpsRound)} {sends : List GpsOutput}
    (h : emit (Relay.step gpsProxy) start events = .ok (finish, sends)) :
    (∀ from_, start.waiting from_ ++ Relay.arrivals from_ events =
      sends.filterMap (report from_) ++ finish.waiting from_) ∧
    ∀ counter, OfLoop counter → counter.Counted start.state finish.state sends := by
  refine ⟨fun from_ => Relay.conserved round_reports h from_, fun counter hcounter => ?_⟩
  exact emit_count (ofEnds counter) (fun _ _ _ _ hstep => step_counts hcounter hstep) h

/-- A round in which the host can be reached or not. -/
def sampleRound (suspended : Bool) : GpsRound where
  node1Opens := true
  node2Opens := true
  atOpen := ⟨some (if suspended then 49 else 48), []⟩
  atRead := ⟨some (if suspended then 49 else 48), []⟩
  written := 1

/-- Two sentences of the baseband, and one of the host, before three rounds. -/
def sampleEvents : List (Relay.Event (List UInt8) GpsRound) :=
  [.arrives .near [65], .arrives .far [36], .arrives .far [37], .round (sampleRound true),
    .round (sampleRound false), .round (sampleRound false)]

/-- What becomes of them: the first one is thrown away. -/
def sampleOutputs : List GpsOutput :=
  [.discarded [36], .forwarded .fromDsp [37] 1, .forwarded .fromHost [65] 1]

def sampleStart : Relay.Ends GpsState (List UInt8) :=
  ⟨⟨false, false, ⟨0, 0, 0, 0, 0, 0⟩⟩, fun _ => []⟩

theorem sample_run :
    ∃ finish, emit (Relay.step gpsProxy) sampleStart sampleEvents = .ok (finish, sampleOutputs) :=
  ⟨_, rfl⟩

theorem gps_conserved_sample :
    ∃ finish, emit (Relay.step gpsProxy) sampleStart sampleEvents = .ok (finish, sampleOutputs) ∧
      Relay.arrivals .far sampleEvents =
        sampleOutputs.filterMap (report .far) ++ finish.waiting .far ∧
      finish.state.gpsPacketStats.discarded = 0 + UInt32.ofNat 1 := by
  obtain ⟨finish, hfinish⟩ := sample_run
  obtain ⟨hsides, hcounters⟩ := gps_conserved hfinish
  exact ⟨finish, hfinish, hsides .far, hcounters _ .discarded⟩

end OpenQti.Proxy.Gps
