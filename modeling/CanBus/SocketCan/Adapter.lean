import CanBus.Phase
import CanBus.SocketCan.KernelFrame
import CanBus.SystemError
import CanBus.Transmission

/-!
# The kernel socket adapter

Frames are written to the socket one at a time and each is handed back to the sender, if it asks for that,
before the next is looked at.  Filtering happens in the adapter's own bank.
-/

namespace CanBus.SocketCan

/-- A kernel socket: all frames written to it, whether its other end is still there, and the failures of the system in
the calls to come.  Behind the last of these every call goes well. -/
structure Socket where
  written : List KernelFrame
  connected : Bool
  ahead : List (Option Failure)
  deriving DecidableEq, Repr

namespace Socket

/-- A socket with these failures ahead, to which nothing was written yet. -/
def facing (ahead : List (Option Failure)) : Socket := ⟨[], true, ahead⟩

/-- A socket to which nothing was written yet, and on which every call goes well. -/
def fresh : Socket := facing []

/-- A call that writes nothing. -/
def call (socket : Socket) : Socket × Option Failure :=
  match socket.ahead with
  | [] => (socket, none)
  | failure :: ahead => ({ socket with ahead := ahead }, failure)

/-- Limit the time of the next writing. -/
def limit (socket : Socket) : Socket × Option Fault := (socket.call.1, socket.call.2.map (·.fault))

/-- Write a frame, unless the other end is gone. -/
def put (socket : Socket) (kernel : KernelFrame) : Socket × Option Failure :=
  if socket.connected then
    match socket.call with
    | (socket, none) => ({ socket with written := socket.written ++ [kernel] }, none)
    | (socket, some failure) => (socket, some failure)
  else (socket, some ⟨.other, SystemError.brokenPipe.message⟩)

end Socket

/-- A socket on an interface that the kernel does not have.  A name with a null character is none at all. -/
def Socket.absent (interface : String) : Except Fault Socket :=
  let cause : SystemError := if '\x00' ∈ interface.toList then .badArgument else .noInterface
  .error (.io cause.message)

/-- How frames get on a socket of any kind, in the frames of a library. -/
def wire {Kernel Socket : Type} (library : FrameLibrary Kernel) (limit : Socket → Socket × Option Fault)
    (put : Socket → Kernel → Socket × Option Failure) : Wire Kernel Socket where
  maxPayload := maxPayload
  encode := library.ofFrame
  limit := limit
  put := put
  isLate kind := kind == .wouldBlock || kind == .timedOut

/-- An adapter on a kernel socket.  Frames that arrive while no reader runs wait in `unread`. -/
structure Adapter where
  socket : Socket
  receiver : Receiver
  phase : Phase
  retransmit : Bool
  reading : Bool
  unread : List KernelFrame
  deriving DecidableEq

namespace Adapter

/-- The number of filter slots unless asked for otherwise. -/
def defaultSlots : Nat := 16

/-- Take up a session on a socket.  The slots are looked at before the socket. -/
def connect (socket : Except Fault Socket) (slots : Nat) : Except Fault Adapter :=
  if slots = 0 then .error (.contract .noFilterSlot)
  else socket.map fun socket => ⟨socket, .ofSize slots, .created, false, false, []⟩

/-- Register a handler and let a reader run; nothing is written.  If there is no thread for the reader, the handler goes
again. -/
def start (adapter : Adapter) (noRetransmit : Bool) (failsAt : List Nat) : Adapter × Option Fault :=
  match adapter.phase.requireCreated with
  | .error fault => (adapter, some fault)
  | .ok () =>
    let adapter := { adapter with receiver := adapter.receiver.register failsAt }
    match adapter.socket.call with
    | (socket, some failure) =>
      ({ adapter with socket := socket, receiver := adapter.receiver.unregister }, some failure.fault)
    | (socket, none) =>
      let adapter := { adapter with socket := socket, reading := true, retransmit := !noRetransmit }
      match adapter.phase.start with
      | .error fault => (adapter, some fault)
      | .ok phase => ({ adapter with phase := phase }, none)

/-- Replace the filters. -/
def configure (adapter : Adapter) (filters : List Filter) : Adapter × Option Fault :=
  match adapter.phase.requireStarted with
  | .error fault => (adapter, some fault)
  | .ok () =>
    match adapter.receiver.reconfigure filters with
    | .error fault => (adapter, some fault)
    | .ok receiver => ({ adapter with receiver := receiver }, none)

/-- Stop listening. -/
def close (adapter : Adapter) : Adapter × Option Fault :=
  match adapter.phase.close with
  | .error fault => (adapter, some fault)
  | .ok phase =>
    ({ adapter with phase := phase, reading := false, receiver := adapter.receiver.unregister }, none)

/-! ### What requests come to -/

section

variable {adapter : Adapter}

theorem start_of_ne (h : adapter.phase ≠ .created) (noRetransmit : Bool) (failsAt : List Nat) :
    adapter.start noRetransmit failsAt = (adapter, some .closed) := by
  rw [start, Phase.requireCreated_of_ne h]

theorem start_of_call (h : adapter.phase = .created) {socket : Socket} (hcall : adapter.socket.call = (socket, none))
    (noRetransmit : Bool) (failsAt : List Nat) :
    adapter.start noRetransmit failsAt = ({ adapter with
      socket := socket, receiver := adapter.receiver.register failsAt, phase := .started, retransmit := !noRetransmit,
      reading := true }, none) := by
  have hcreated : adapter.phase.requireCreated = .ok () := by rw [h]; rfl
  have hstart : adapter.phase.start = .ok .started := by rw [h]; rfl
  simp only [start, hcreated, hcall, hstart]

theorem configure_of_ne (h : adapter.phase ≠ .started) (filters : List Filter) :
    adapter.configure filters = (adapter, some .closed) := by
  rw [configure, Phase.requireStarted_of_ne h]

theorem configure_of_error (h : adapter.phase = .started) {filters : List Filter} {fault : Fault}
    (hreceiver : adapter.receiver.reconfigure filters = .error fault) :
    adapter.configure filters = (adapter, some fault) := by
  simp only [configure, h, Phase.requireStarted, hreceiver]

theorem configure_of_ok (h : adapter.phase = .started) {filters : List Filter} {receiver : Receiver}
    (hreceiver : adapter.receiver.reconfigure filters = .ok receiver) :
    adapter.configure filters = ({ adapter with receiver := receiver }, none) := by
  simp only [configure, h, Phase.requireStarted, hreceiver]

theorem close_of_closed (h : adapter.phase = .closed) : adapter.close = (adapter, some .closed) := by
  simp only [close, h, Phase.close]

theorem close_of_ne (h : adapter.phase ≠ .closed) :
    adapter.close = ({ adapter with
      phase := .closed, reading := false, receiver := adapter.receiver.unregister }, none) := by
  simp only [close, Phase.close_eq_ok_iff.2 ⟨h, rfl⟩]

end

/-- The other end goes away. -/
def hangUp (adapter : Adapter) : Adapter :=
  { adapter with socket := { adapter.socket with connected := false } }

/-! ## Transmission -/

/-- An adapter after a transmission, the number of frames sent or why it ended, and the handler calls. -/
structure Transmission where
  adapter : Adapter
  outcome : Outcome Nat
  deliveries : List Delivery
  deriving DecidableEq

/-- Transmit a batch whose time is over after `inTime` frames. -/
def sendWithin (adapter : Adapter) (frames : List Frame) (inTime : Nat) : Transmission :=
  let sending := (wire KernelFrame.library Socket.limit Socket.put).transmit adapter.phase adapter.socket
    adapter.receiver frames inTime
  ⟨{ adapter with socket := sending.line, receiver := sending.receiver }, sending.outcome, sending.deliveries⟩

/-- Transmit a batch whose time is over at once or not at all. -/
def send (adapter : Adapter) (frames : List Frame) (expired : Bool) : Transmission :=
  adapter.sendWithin frames (if expired then 0 else frames.length)

/-! ## Reception -/

/-- An adapter after frames have arrived, and the handler calls. -/
structure Reception where
  adapter : Adapter
  deliveries : List Delivery
  deriving DecidableEq

/-- Take frames off the socket.  A handler that fails ends the reader; the frames behind stay where they are. -/
def act (adapter : Adapter) : List KernelFrame → Reception
  | [] => ⟨{ adapter with unread := [] }, []⟩
  | kernel :: rest =>
    match kernel.toFrame? with
    | none => adapter.act rest
    | some frame =>
      let (receiver, delivery) := adapter.receiver.offer [frame.tagged false]
      let adapter := { adapter with receiver := receiver }
      match delivery with
      | none => adapter.act rest
      | some delivery =>
        if delivery.completed then
          let later := adapter.act rest
          { later with deliveries := delivery :: later.deliveries }
        else ⟨{ adapter with reading := false, unread := rest }, [delivery]⟩

/-- Take in frames from the socket. -/
def receive (adapter : Adapter) (kernels : List KernelFrame) : Reception :=
  if adapter.reading then adapter.act (adapter.unread ++ kernels)
  else ⟨{ adapter with unread := adapter.unread ++ kernels }, []⟩

end Adapter

end CanBus.SocketCan
