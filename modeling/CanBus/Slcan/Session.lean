import CanBus.Request
import CanBus.Slcan.Adapter

/-!
# SLCAN sessions — an adapter between its user and the far side of its line
-/

namespace CanBus.Slcan

/-- What happens to an adapter: its user asks for something, bytes arrive, or the far side goes away. -/
inductive Event where
  | request (request : Request)
  | arrive (bytes : List UInt8)
  | hangUp
  deriving DecidableEq

/-- The adapter after an event, the reply, the handler calls, and the faults of lines that were refused. -/
structure Reaction (Port : Type) where
  adapter : Adapter Port
  reply : Reply
  deliveries : List Delivery
  refusals : List Fault
  deriving DecidableEq

namespace Adapter

variable {Port : Type} [SerialPort Port]

/-- The reaction to a request. -/
def respond (adapter : Adapter Port) : Request → Reaction Port
  | .start noRetransmit failsAt =>
    let (adapter, fault?) := adapter.start noRetransmit failsAt
    ⟨adapter, .ofFault? fault?, [], []⟩
  | .configure filters =>
    let (adapter, fault?) := adapter.configure filters
    ⟨adapter, .ofFault? fault?, [], []⟩
  | .send frames inTime =>
    let sent := adapter.sendWithin frames inTime
    ⟨sent.adapter, .ofOutcome sent.outcome, sent.deliveries, []⟩
  | .close =>
    let (adapter, fault?) := adapter.close
    ⟨adapter, .ofFault? fault?, [], []⟩

/-- The reaction to an event. -/
def react (adapter : Adapter Port) : Event → Reaction Port
  | .request request => adapter.respond request
  | .arrive bytes =>
    let reception := adapter.receive bytes
    ⟨reception.adapter, .done, reception.deliveries, reception.refusals⟩
  | .hangUp => ⟨adapter.hangUp, .done, [], []⟩

/-- The reactions to events, one after the other. -/
def run (adapter : Adapter Port) : List Event → List (Reaction Port)
  | [] => []
  | event :: events => adapter.react event :: (adapter.react event).adapter.run events

/-- The adapter after events, one after the other. -/
def after (adapter : Adapter Port) (events : List Event) : Adapter Port :=
  events.foldl (fun adapter event => (adapter.react event).adapter) adapter

@[simp] theorem run_nil (adapter : Adapter Port) : adapter.run [] = [] := rfl

@[simp] theorem run_cons (adapter : Adapter Port) (event : Event) (events : List Event) :
    adapter.run (event :: events) = adapter.react event :: (adapter.react event).adapter.run events := rfl

@[simp] theorem after_cons (adapter : Adapter Port) (event : Event) (events : List Event) :
    adapter.after (event :: events) = (adapter.react event).adapter.after events := rfl

end Adapter

end CanBus.Slcan
