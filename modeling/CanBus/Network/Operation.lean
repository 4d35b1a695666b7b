import CanBus.Network.Basic

/-!
# Operations — what can be asked of a virtual network

`Network.apply` answers one operation with the new network, its answer and the handler calls made on the way.
A refused operation leaves everything as it was, save that a transmission which met an armed fault has used
that fault up.
-/

namespace CanBus

namespace Network

/-- The operations.  Buses and stations go by number. -/
inductive Operation where
  | addBus
  | join (bus mtu slots : Nat)
  | start (station : Nat) (noRetransmit : Bool) (failsAt : List Nat)
  | configure (station : Nat) (filters : List Filter)
  | inject (station : Nat) (frames : List Frame)
  | send (station : Nat) (frames : List Frame)
  | arm (station : Nat) (fault : Fault)
  | close (station : Nat)
  | drop (station : Nat)
  | pop (station : Nat)
  deriving DecidableEq

/-- The answers.  `absent` stands for a bus or station that does not exist. -/
inductive Answer where
  | done
  | bus (number : Nat)
  | joined (number : Nat)
  | sent (count : Nat)
  | popped (frame : Frame)
  | refused (fault : Fault)
  | handlerFailed
  | absent
  deriving DecidableEq

/-- The fault of a refusal. -/
def Answer.fault? : Answer → Option Fault
  | .refused fault => some fault
  | _ => none

/-- The network after an operation, the answer, and the handler calls in order. -/
structure Reaction where
  net : Network
  answer : Answer
  calls : List Call
  deriving DecidableEq

/-- An operation that calls no handler. -/
def quiet (net : Network) (answer : Answer) : Reaction := ⟨net, answer, []⟩

/-- Make the offers and answer `value`, or that a handler failed. -/
def delivering (net : Network) (offers : List (Nat × List Frame)) (value : Answer) : Reaction :=
  let (net, calls, completed) := net.deliver offers
  ⟨net, if completed then value else .handlerFailed, calls⟩

theorem answer_delivering (net : Network) (offers : List (Nat × List Frame)) (value : Answer) :
    (net.delivering offers value).answer = if (net.deliver offers).2.2 then value else .handlerFailed := rfl

/-! ## Operations of one station -/

/-- Register a handler and begin operation. -/
def start (net : Network) (n : Nat) (station : Station) (noRetransmit : Bool) (failsAt : List Nat) : Reaction :=
  match station.phase.start with
  | .error fault => net.quiet (.refused fault)
  | .ok phase =>
    (net.put n { station with
      phase := phase, retransmit := !noRetransmit, receiver := station.receiver.register failsAt }).quiet .done

/-- Replace the filters. -/
def configure (net : Network) (n : Nat) (station : Station) (filters : List Filter) : Reaction :=
  match station.phase.requireStarted with
  | .error fault => net.quiet (.refused fault)
  | .ok () =>
    match station.receiver.reconfigure filters with
    | .error fault => net.quiet (.refused fault)
    | .ok receiver => (net.put n { station with receiver := receiver }).quiet .done

/-- Offer frames to the station itself, as if from outside the bus; their loopback flags stay. -/
def inject (net : Network) (n : Nat) (station : Station) (frames : List Frame) : Reaction :=
  match station.phase.requireStarted with
  | .error fault => net.quiet (.refused fault)
  | .ok () => net.delivering [(n, frames)] .done

/-- Transmit a batch.  An armed fault comes before the rules of the batch. -/
def send (net : Network) (n : Nat) (station : Station) (frames : List Frame) : Reaction :=
  match station.phase.requireStarted with
  | .error fault => net.quiet (.refused fault)
  | .ok () =>
    match station.fault with
    | some fault => (net.put n { station with fault := none }).quiet (.refused fault)
    | none =>
      match Batch.check frames station.mtu with
      | .error fault => net.quiet (.refused fault)
      | .ok () => net.delivering (net.broadcast n station.bus frames) (.sent frames.length)

/-- Leave the bus for good. -/
def close (net : Network) (n : Nat) (station : Station) : Reaction :=
  match station.phase.close with
  | .error fault => net.quiet (.refused fault)
  | .ok phase =>
    ((net.put n { station with phase := phase, receiver := station.receiver.unregister }).leave
      station.bus n).quiet .done

/-- Take the oldest frame that the station's handler collected. -/
def pop (net : Network) (n : Nat) (station : Station) : Reaction :=
  match station.receiver.pop with
  | .error fault => net.quiet (.refused fault)
  | .ok (frame, receiver) => (net.put n { station with receiver := receiver }).quiet (.popped frame)

/-! ## All operations -/

/-- Let a station act, if it exists. -/
def withStation (net : Network) (n : Nat) (act : Station → Reaction) : Reaction :=
  match net.station? n with
  | none => net.quiet .absent
  | some station => act station

/-- The reaction to an operation. -/
def apply (net : Network) : Operation → Reaction
  | .addBus => net.addBus.1.quiet (.bus net.addBus.2)
  | .join bus mtu slots =>
    if bus < net.rosters.length then
      match net.join bus mtu slots with
      | .error fault => net.quiet (.refused fault)
      | .ok (net, n) => net.quiet (.joined n)
    else net.quiet .absent
  | .start n noRetransmit failsAt => net.withStation n (net.start n · noRetransmit failsAt)
  | .configure n filters => net.withStation n (net.configure n · filters)
  | .inject n frames => net.withStation n (net.inject n · frames)
  | .send n frames => net.withStation n (net.send n · frames)
  | .arm n fault =>
    net.withStation n fun station => (net.put n { station with fault := some fault }).quiet .done
  | .close n => net.withStation n (net.close n ·)
  | .drop n => net.withStation n fun _ => (net.discard n).quiet .done
  | .pop n => net.withStation n (net.pop n ·)

/-- The reactions to operations made one after the other. -/
def run (net : Network) : List Operation → List Reaction
  | [] => []
  | op :: ops => net.apply op :: (net.apply op).net.run ops

/-- The network after operations made one after the other. -/
def after (net : Network) (ops : List Operation) : Network := ops.foldl (fun net op => (net.apply op).net) net

@[simp] theorem after_nil (net : Network) : net.after [] = net := rfl

@[simp] theorem after_cons (net : Network) (op : Operation) (ops : List Operation) :
    net.after (op :: ops) = (net.apply op).net.after ops := rfl

theorem after_append (net : Network) (ops more : List Operation) :
    net.after (ops ++ more) = (net.after ops).after more := by
  simp [after, List.foldl_append]

end Network

end CanBus
