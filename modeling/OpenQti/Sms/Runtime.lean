import Mathlib.Logic.Function.Basic
import OpenQti.Lib.Bytes

/-!
# The SMS runtime

`struct message`, `struct message_queue` and `sms_runtime` of `sms.c`, together with what
the queue functions exchange with the world: readings of the monotonic clock, and packets
written to the host. `Env` fixes the outcomes of both, reading by reading and write by
write, so that the queue functions are functions.

A `struct timespec` is its number of nanoseconds. The source computes elapsed times in
`double`, but only compares them with 0 and with 5 seconds, and both comparisons agree with
the integer ones: the difference of two readings is rounded monotonically, and neither
bound is rounded at all.
-/

namespace OpenQti.Sms

/-- `MAX_MESSAGE_SIZE`. -/
def maxMessageSize : Nat := 160

/-- `QUEUE_SIZE`. -/
def queueSize : Nat := 256

/-- Five seconds, in nanoseconds. -/
def fiveSeconds : Int := 5000000000

/-- `WMS_EVENT_REPORT`. -/
def wmsEventReport : Nat := 0x0001

/-- `WMS_READ_MESSAGE`. -/
def wmsReadMessage : Nat := 0x0022

/-- `WMS_DELETE`. -/
def wmsDelete : Nat := 0x0024

/-- Where a pending notification comes from. -/
inductive Source where
  | msgNone
  | msgExternal
  | msgInternal
  deriving DecidableEq, Repr

/-- `struct message`: an entry of the queue. The states are 0 new, 1 announced, 2 requested by
the host, 3 sent, 4 deletion requested, 9 done. -/
structure Message where
  pkt : Bytes
  len : Int
  messageId : Nat
  isRaw : Bool
  isCb : Bool
  tpDcs : UInt8
  state : Nat
  retries : Nat
  timestamp : Int

/-- An entry of a zero-initialised array. -/
def Message.zero : Message where
  pkt := fun _ => 0
  len := 0
  messageId := 0
  isRaw := false
  isCb := false
  tpDcs := 0
  state := 0
  retries := 0
  timestamp := 0

/-- What the queue functions write to the host: a notification, a message, or the answer to a
deletion request. A message packet is determined by the transaction id and the queue entry it is
built from. -/
inductive HostPacket where
  | eventReport (messageId : Nat)
  | readMessage (transactionId messageId : Nat) (contents : Message)
  | delete (transactionId result response : Nat)

/-- The outcomes of the system calls: the `n`th reading of the clock, in nanoseconds, and the
value returned by the `n`th `write`. -/
structure Env where
  clock : Nat → Int
  write : Nat → Int

/-- `CLOCK_MONOTONIC`: no reading is below an earlier one. -/
def Env.MonotonicClock (env : Env) : Prop := ∀ ⦃m n⦄, m ≤ n → env.clock m ≤ env.clock n

/-- `sms_runtime`, with the number of clock readings made so far and the packets passed to
`write` so far, the latest first, each with the value that `write` returned. -/
structure SmsRuntime where
  notifPending : Bool
  source : Source
  currentMessageId : Nat
  currTransactionId : Nat
  lockQueue : Bool
  queuePos : Int
  msg : Nat → Message
  clockReads : Nat
  wire : List (HostPacket × Int)

/-- What ends a run of the model: an access to `queue.msg` outside the array, a `memcpy` past the
end of `pkt`, or a call that does not return. -/
inductive Fault where
  | index (position : Int)
  | overflow
  | diverges
  deriving DecidableEq, Repr

/-- The zero-initialised global. -/
def SmsRuntime.zero : SmsRuntime where
  notifPending := false
  source := .msgExternal
  currentMessageId := 0
  currTransactionId := 0
  lockQueue := false
  queuePos := 0
  msg := fun _ => Message.zero
  clockReads := 0
  wire := []

/-- `reset_sms_runtime()`. -/
def resetSmsRuntime (s : SmsRuntime) : SmsRuntime :=
  { s with
    notifPending := false
    currTransactionId := 0
    source := .msgNone
    lockQueue := false
    queuePos := -1
    currentMessageId := 0 }

/-- The state in which the daemon starts: `main` calls `reset_sms_runtime` once. -/
def start : SmsRuntime := resetSmsRuntime SmsRuntime.zero

namespace SmsRuntime

/-- Update one entry of `queue.msg`. -/
def modifyMsg (s : SmsRuntime) (i : Nat) (f : Message → Message) : SmsRuntime :=
  { s with msg := Function.update s.msg i (f (s.msg i)) }

/-- The next reading of the clock. -/
def now (env : Env) (s : SmsRuntime) : Int := env.clock s.clockReads

/-- A reading of the clock has been made. -/
def tick (s : SmsRuntime) : SmsRuntime := { s with clockReads := s.clockReads + 1 }

/-- `clock_gettime(CLOCK_MONOTONIC, &sms_runtime.queue.msg[i].timestamp)`. -/
def stamp (env : Env) (i : Nat) (s : SmsRuntime) : SmsRuntime :=
  (s.modifyMsg i fun m => { m with timestamp := s.now env }).tick

/-- The value the next `write` returns. -/
def writeResult (env : Env) (s : SmsRuntime) : Int := env.write s.wire.length

/-- `write(fd, packet, …)` to the host. -/
def write (env : Env) (packet : HostPacket) (s : SmsRuntime) : SmsRuntime :=
  { s with wire := (packet, s.writeResult env) :: s.wire }

/-- `sms_runtime.current_message_id++`, a `uint32_t`. -/
def nextMessageId (s : SmsRuntime) : SmsRuntime :=
  { s with currentMessageId := (s.currentMessageId + 1) % 2 ^ 32 }

end SmsRuntime

/-- The position as an index of `queue.msg`, or a fault if it is outside the array. -/
def index (position : Int) : Except Fault Nat :=
  if 0 ≤ position ∧ position < queueSize then .ok position.toNat else .error (.index position)

theorem index_of_lt {i : Nat} (h : i < queueSize) : index (i : Int) = .ok i := by
  simp [index, h]

theorem index_of_ge {i : Nat} (h : queueSize ≤ i) : index (i : Int) = .error (.index i) := by
  rw [index, if_neg (by omega)]

theorem index_eq_ok {position : Int} {i : Nat} :
    index position = .ok i ↔ position = i ∧ i < queueSize := by
  unfold index
  split_ifs with h
  · simp only [Except.ok.injEq]
    omega
  · simp only [false_iff]
    omega

end OpenQti.Sms
