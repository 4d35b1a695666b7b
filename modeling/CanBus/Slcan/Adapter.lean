import CanBus.Phase
import CanBus.Slcan.Bitrate
import CanBus.Slcan.Reader
import CanBus.Slcan.SerialPort
import CanBus.Transmission

/-!
# The SLCAN adapter — a session over a serial port

Connecting closes whatever was open and sets the speed; starting opens the channel, and closing a started
adapter closes it.  Each frame of a batch is written and then handed back to the sender if it asks for that,
before the next frame is looked at.
-/

namespace CanBus.Slcan

/-! ## Commands -/

def closeCommand : List UInt8 := ascii ['C'] ++ [carriageReturn]

def speedCommand (bitrate : Bitrate) : List UInt8 := ascii ['S', bitrate.code] ++ [carriageReturn]

def openCommand : List UInt8 := ascii ['O'] ++ [carriageReturn]

/-! ## Sessions -/

/-- An adapter on a serial port.  While a reader runs, `reader` is its unfinished line; bytes that arrive without
one wait in `unread`. -/
structure Adapter (Port : Type) where
  line : Port
  receiver : Receiver
  phase : Phase
  retransmit : Bool
  reader : Option (List UInt8)
  unread : List UInt8
  deriving DecidableEq

/-- How frames get on a serial port. -/
def wire (Port : Type) [SerialPort Port] : Wire (List UInt8) Port where
  maxPayload := maxPayload
  encode := Line.encode
  limit port := ((SerialPort.setTimeout port).1, (SerialPort.setTimeout port).2.map .io)
  put := SerialPort.writeAll
  isLate kind := kind == .timedOut

namespace Adapter

variable {Port : Type} {adapter : Adapter Port}

/-- The number of filter slots unless asked for otherwise. -/
def defaultSlots : Nat := 8

/-- Replace the filters. -/
def configure (adapter : Adapter Port) (filters : List Filter) : Adapter Port × Option Fault :=
  match adapter.phase.requireStarted with
  | .error fault => (adapter, some fault)
  | .ok () =>
    match adapter.receiver.reconfigure filters with
    | .error fault => (adapter, some fault)
    | .ok receiver => ({ adapter with receiver := receiver }, none)

theorem configure_of_ne (h : adapter.phase ≠ .started) (filters : List Filter) :
    adapter.configure filters = (adapter, some .closed) := by
  rw [configure, Phase.requireStarted_of_ne h]

theorem configure_of_error (h : adapter.phase = .started) {filters : List Filter} {fault : Fault}
    (hreceiver : adapter.receiver.reconfigure filters = .error fault) :
    adapter.configure filters = (adapter, some fault) := by
  simp only [configure, h, Phase.requireStarted, hreceiver]

theorem configure_of_ok (h : adapter.phase = .started) {filters : List Filter} {receiver : Receiver}
    (hreceiver : adapter.receiver.reconfigure filters = .ok receiver) :
    adapter.configure filters = ({ adapter with receiver := receiver }, none) := by
  simp only [configure, h, Phase.requireStarted, hreceiver]

variable [SerialPort Port]

/-- Take up a session on a port.  The slots are looked at before the port. -/
def connect (line : Except Fault Port) (bitrate : Bitrate) (slots : Nat) : Except Fault (Adapter Port) :=
  if slots = 0 then .error (.contract .noFilterSlot)
  else do
    let line ← line
    -- the adapter may have nothing to close
    let line := (SerialPort.writeAll line closeCommand).1
    match SerialPort.writeAll line (speedCommand bitrate) with
    | (line, none) => return ⟨line, .ofSize slots, .created, false, none, []⟩
    | (_, some failure) => throw failure.fault

/-- Write a command. -/
def command (adapter : Adapter Port) (bytes : List UInt8) : Adapter Port × Option Fault :=
  let (line, failure) := SerialPort.writeAll adapter.line bytes
  ({ adapter with line := line }, failure.map (·.fault))

/-- Let a reader run: it needs a handle of its own and a thread. -/
def listen (adapter : Adapter Port) : Adapter Port × Option Fault :=
  match SerialPort.tryClone adapter.line with
  | (line, some text) => ({ adapter with line := line }, some (.io text))
  | (line, none) =>
    match SerialPort.spawn line with
    | (line, some failure) => ({ adapter with line := line }, some failure.fault)
    | (line, none) => ({ adapter with line := line, reader := some [] }, none)

/-- Stop the reader, if one runs; its unfinished line is lost. -/
def stopReader (adapter : Adapter Port) : Adapter Port := { adapter with reader := none }

/-- Let a reader run and open the channel. -/
def openChannel (adapter : Adapter Port) : Adapter Port × Option Fault :=
  match adapter.listen with
  | (adapter, some fault) => (adapter, some fault)
  | (adapter, none) => adapter.command openCommand

/-- Register a handler and open the channel: the adapter afterwards, and the fault if it is refused.  The handler is
there before the reader, and both go again if the channel cannot be opened. -/
def start (adapter : Adapter Port) (noRetransmit : Bool) (failsAt : List Nat) : Adapter Port × Option Fault :=
  match adapter.phase.requireCreated with
  | .error fault => (adapter, some fault)
  | .ok () =>
    match openChannel { adapter with receiver := adapter.receiver.register failsAt } with
    | (adapter, some fault) => ({ adapter.stopReader with receiver := adapter.receiver.unregister }, some fault)
    | (adapter, none) =>
      let adapter := { adapter with retransmit := !noRetransmit }
      match adapter.phase.start with
      | .error fault => (adapter, some fault)
      | .ok phase => ({ adapter with phase := phase }, none)

/-- Close the channel and stop listening.  A port that is gone does not keep an adapter from closing. -/
def close (adapter : Adapter Port) : Adapter Port × Option Fault :=
  match adapter.phase.close with
  | .error fault => (adapter, some fault)
  | .ok phase =>
    let closed := { adapter with phase := phase }
    let closed := if adapter.phase = .started then (closed.command closeCommand).1 else closed
    ({ closed.stopReader with receiver := closed.receiver.unregister }, none)

/-! ### What requests come to -/

theorem connect_eq_ok_iff {port : Port} {bitrate : Bitrate} {slots : Nat} {adapter : Adapter Port} :
    connect (.ok port) bitrate slots = .ok adapter ↔
      slots ≠ 0 ∧ ∃ line,
        SerialPort.writeAll (SerialPort.writeAll port closeCommand).1 (speedCommand bitrate) = (line, none) ∧
          adapter = ⟨line, .ofSize slots, .created, false, none, []⟩ := by
  unfold connect
  by_cases hslots : slots = 0
  · rw [if_pos hslots]
    exact ⟨nofun, fun h => absurd hslots h.1⟩
  · rw [if_neg hslots]
    simp only [bind, Except.bind]
    rcases SerialPort.writeAll (SerialPort.writeAll port closeCommand).1 (speedCommand bitrate) with ⟨line, _ | failure⟩
    · constructor
      · intro h
        cases h
        exact ⟨hslots, line, rfl, rfl⟩
      · rintro ⟨-, _, hline, rfl⟩
        cases hline
        rfl
    · exact ⟨nofun, fun ⟨_, _, hline, _⟩ => nomatch hline⟩

/-- The port after an attempt to open the channel, and the fault if that failed. -/
def opening (port : Port) : Port × Option Fault :=
  match SerialPort.tryClone port with
  | (port, some text) => (port, some (.io text))
  | (port, none) =>
    match SerialPort.spawn port with
    | (port, some failure) => (port, some failure.fault)
    | (port, none) =>
      let (port, failure) := SerialPort.writeAll port openCommand
      (port, failure.map (·.fault))

/-- Opening the channel is a matter of the port; a reader runs behind it. -/
theorem openChannel_eq (adapter : Adapter Port) :
    adapter.openChannel.2 = (opening adapter.line).2 ∧
      adapter.openChannel.1.stopReader = { adapter with line := (opening adapter.line).1, reader := none } ∧
      (adapter.openChannel.2 = none →
        adapter.openChannel.1 = { adapter with line := (opening adapter.line).1, reader := some [] }) := by
  unfold openChannel listen opening
  rcases SerialPort.tryClone adapter.line with ⟨line, _ | text⟩
  · dsimp only
    rcases SerialPort.spawn line with ⟨line, _ | failure⟩
    · exact ⟨rfl, rfl, fun _ => rfl⟩
    · exact ⟨rfl, rfl, nofun⟩
  · exact ⟨rfl, rfl, nofun⟩

theorem start_of_ne (h : adapter.phase ≠ .created) (noRetransmit : Bool) (failsAt : List Nat) :
    adapter.start noRetransmit failsAt = (adapter, some .closed) := by
  rw [start, Phase.requireCreated_of_ne h]

theorem start_of_opened (h : adapter.phase = .created) {line : Port} (hopening : opening adapter.line = (line, none))
    (noRetransmit : Bool) (failsAt : List Nat) :
    adapter.start noRetransmit failsAt = ({ adapter with
      line := line, receiver := adapter.receiver.register failsAt, phase := .started, retransmit := !noRetransmit,
      reader := some [] }, none) := by
  have hcreated : adapter.phase.requireCreated = .ok () := by rw [h]; rfl
  have hstart : adapter.phase.start = .ok .started := by rw [h]; rfl
  obtain ⟨hfault, -, hopened⟩ := openChannel_eq { adapter with receiver := adapter.receiver.register failsAt }
  rcases hchannel : openChannel { adapter with receiver := adapter.receiver.register failsAt } with ⟨opened, fault?⟩
  rw [hchannel] at hfault hopened
  simp only [hopening] at hfault hopened
  subst hfault
  simp only [start, hcreated, hchannel, hopened, hstart]

/-- If the channel cannot be opened, handler and reader are gone again. -/
theorem start_of_failed (h : adapter.phase = .created) {line : Port} {fault : Fault}
    (hopening : opening adapter.line = (line, some fault)) (noRetransmit : Bool) (failsAt : List Nat) :
    adapter.start noRetransmit failsAt =
      ({ adapter with line := line, receiver := adapter.receiver.unregister, reader := none }, some fault) := by
  have hcreated : adapter.phase.requireCreated = .ok () := by rw [h]; rfl
  obtain ⟨hfault, hstopped, -⟩ := openChannel_eq { adapter with receiver := adapter.receiver.register failsAt }
  rcases hchannel : openChannel { adapter with receiver := adapter.receiver.register failsAt } with ⟨opened, fault?⟩
  rw [hchannel] at hfault hstopped
  simp only [hopening] at hfault hstopped
  subst hfault
  have hreceiver : opened.receiver = adapter.receiver.register failsAt := congrArg (·.receiver) hstopped
  simp only [start, hcreated, hchannel, hstopped, hreceiver]
  rfl

theorem close_of_closed (h : adapter.phase = .closed) : adapter.close = (adapter, some .closed) := by
  simp only [close, h, Phase.close]

theorem close_of_ne (h : adapter.phase ≠ .closed) :
    adapter.close = ({ adapter with
      line := if adapter.phase = .started then (SerialPort.writeAll adapter.line closeCommand).1 else adapter.line,
      receiver := adapter.receiver.unregister, phase := .closed, reader := none }, none) := by
  have hclose : adapter.phase.close = .ok .closed := Phase.close_eq_ok_iff.2 ⟨h, rfl⟩
  simp only [close, hclose]
  by_cases hstarted : adapter.phase = .started
  · simp only [if_pos hstarted]
    rfl
  · simp only [if_neg hstarted]
    rfl

/-- The far side goes away. -/
def hangUp (adapter : Adapter Port) : Adapter Port := { adapter with line := SerialPort.hangUp adapter.line }

/-! ## Transmission -/

/-- An adapter after a transmission, the number of frames sent or why it ended, and the handler calls. -/
structure Transmission (Port : Type) where
  adapter : Adapter Port
  outcome : Outcome Nat
  deliveries : List Delivery
  deriving DecidableEq

/-- Transmit a batch whose time is over after `inTime` frames. -/
def sendWithin (adapter : Adapter Port) (frames : List Frame) (inTime : Nat) : Transmission Port :=
  let sending := (wire Port).transmit adapter.phase adapter.line adapter.receiver frames inTime
  ⟨{ adapter with line := sending.line, receiver := sending.receiver }, sending.outcome, sending.deliveries⟩

/-- Transmit a batch whose time is over at once or not at all. -/
def send (adapter : Adapter Port) (frames : List Frame) (expired : Bool) : Transmission Port :=
  adapter.sendWithin frames (if expired then 0 else frames.length)

/-! ## Reception -/

/-- An adapter after bytes have arrived, the handler calls, and the faults of refused lines. -/
structure Reception (Port : Type) where
  adapter : Adapter Port
  deliveries : List Delivery
  refusals : List Fault
  deriving DecidableEq

/-- Act on what lines say, `pending` being the unfinished line after them.  A handler that fails ends the
reader. -/
def act {Port : Type} (adapter : Adapter Port) (pending : List UInt8) : List Reader.Reading → Reception Port
  | [] => ⟨{ adapter with reader := some pending }, [], []⟩
  | .refused fault :: rest =>
    let later := adapter.act pending rest
    { later with refusals := fault :: later.refusals }
  | .frame frame :: rest =>
    let (receiver, delivery) := adapter.receiver.offer [frame.tagged false]
    let adapter := { adapter with receiver := receiver }
    match delivery with
    | none => adapter.act pending rest
    | some delivery =>
      if delivery.completed then
        let later := adapter.act pending rest
        { later with deliveries := delivery :: later.deliveries }
      else ⟨{ adapter with reader := none }, [delivery], []⟩

/-- Take in bytes from the line. -/
def receive {Port : Type} (adapter : Adapter Port) (bytes : List UInt8) : Reception Port :=
  match adapter.reader with
  | none => ⟨{ adapter with unread := adapter.unread ++ bytes }, [], []⟩
  | some pending =>
    let (readings, pending) := Reader.feed pending (adapter.unread ++ bytes)
    { adapter with unread := [] }.act pending readings

end Adapter

end CanBus.Slcan
