import CanBus.Console.Spelling
import CanBus.Network.Description
import CanBus.Network.Operation
import CanBus.Slcan.Adapter

/-!
# Media — an opened adapter, whatever it is made of
-/

namespace CanBus.Console

/-- An opened adapter: a station with its network, or an SLCAN adapter at a device. -/
inductive Medium where
  | station (net : Network) (n : Nat)
  | serial (device : String) (adapter : Slcan.Adapter Slcan.SerialLine)
  deriving DecidableEq

namespace Medium

/-- A station on a virtual bus of its own. -/
def fresh : Medium := .station (Network.empty.after [.addBus, .join 0 8 4]) 0

def name : Medium → String
  | .station net n => ((net.station? n).map (·.name)).getD ""
  | .serial device _ => device

/-- The longest payload. -/
def mtu : Medium → Nat
  | .station net n => ((net.station? n).map (·.mtu)).getD 0
  | .serial _ _ => Slcan.maxPayload

/-- The number of filter slots. -/
def slots : Medium → Nat
  | .station net n => ((net.station? n).map (·.receiver.bank.size)).getD 0
  | .serial _ adapter => adapter.receiver.bank.size

/-- The bytes that wait on the medium's line, and the medium without them. -/
def takeWritten : Medium → List UInt8 × Medium
  | .station net n => ([], .station net n)
  | .serial device adapter =>
    (adapter.line.written, .serial device { adapter with line := { adapter.line with written := [] } })

/-- The medium after an operation on its network, unless that was refused. -/
def ofReaction (n : Nat) (reaction : Network.Reaction) : Except Fault Medium :=
  match reaction.answer with
  | .refused fault => .error fault
  | _ => .ok (.station reaction.net n)

/-- The medium after a request to its SLCAN adapter, unless that was refused. -/
def ofResult (device : String) : Slcan.Adapter Slcan.SerialLine × Option Fault → Except Fault Medium
  | (_, some fault) => .error fault
  | (adapter, none) => .ok (.serial device adapter)

/-- Begin operation with a handler that never fails. -/
def start : Medium → Except Fault Medium
  | .station net n => ofReaction n (net.apply (.start n false []))
  | .serial device adapter => ofResult device (adapter.start false [])

/-- Replace the filters. -/
def configure (medium : Medium) (filters : List Filter) : Except Fault Medium :=
  match medium with
  | .station net n => ofReaction n (net.apply (.configure n filters))
  | .serial device adapter => ofResult device (adapter.configure filters)

/-- End operation. -/
def close : Medium → Except Fault Medium
  | .station net n => ofReaction n (net.apply (.close n))
  | .serial device adapter => ofResult device adapter.close

/-- Transmit a batch: the number of frames sent.  A virtual bus knows no deadline. -/
def send (medium : Medium) (frames : List Frame) (expired : Bool) : Except Fault (Nat × Medium) :=
  match medium with
  | .station net n =>
    let reaction := net.apply (.send n frames)
    match reaction.answer with
    | .sent count => .ok (count, .station reaction.net n)
    | .refused fault => .error fault
    | _ => .ok (0, .station reaction.net n)
  | .serial device adapter =>
    let sent := adapter.send frames expired
    match sent.outcome with
    | .done count => .ok (count, .serial device sent.adapter)
    | .refused fault => .error fault
    | .handlerFailed => .ok (0, .serial device sent.adapter)

/-- Take the oldest frame received and not yet taken. -/
def take? : Medium → Option (Frame × Medium)
  | .station net n =>
    let reaction := net.apply (.pop n)
    match reaction.answer with
    | .popped frame => some (frame, .station reaction.net n)
    | _ => none
  | .serial device adapter =>
    match adapter.receiver.pop with
    | .ok (frame, receiver) => some (frame, .serial device { adapter with receiver := receiver })
    | .error _ => none

/-- Install the filters that texts spell. -/
def configureSpelled (medium : Medium) (texts : List String) : Except Refusal Medium :=
  match plannedFilters medium.slots texts with
  | .error refusal => .error refusal
  | .ok filters => (medium.configure filters).mapError .fault

end Medium

end CanBus.Console
