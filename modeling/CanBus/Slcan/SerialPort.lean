import CanBus.Fault
import CanBus.SystemError

/-!
# Serial ports — what an SLCAN adapter writes to

The adapter uses a serial port through a few calls (`SerialPort`), each of which may fail, and a write that fails may
have got out a part of its bytes.  What may be relied on is `SerialPort.Documented`.  A `SerialLine` is a port that is a
value: all that was written to it, and how the system is going to answer the calls to come.
-/

namespace CanBus.Slcan

/-- What is used of a serial port and of the system behind it.  A call gives the port as it is afterwards. -/
class SerialPort (Port : Type) where
  /-- Set the longest time of the writes to come.  A failure is told in words alone. -/
  setTimeout : Port → Port × Option String
  /-- A second handle, for the reader. -/
  tryClone : Port → Port × Option String
  /-- A thread for the reader. -/
  spawn : Port → Port × Option Failure
  /-- Write all these bytes. -/
  writeAll : Port → List UInt8 → Port × Option Failure
  /-- The far side goes away. -/
  hangUp : Port → Port
  /-- All bytes that have got out. -/
  written : Port → List UInt8

namespace SerialPort

/-- What is documented of a serial port: a write either gets out all its bytes or fails, and then a part at the front
may have got out; no other call writes anything. -/
class Documented (Port : Type) [SerialPort Port] : Prop where
  writeAll_spec : ∀ (port : Port) (bytes : List UInt8), ∃ taken, taken <+: bytes ∧
    written (writeAll port bytes).1 = written port ++ taken ∧ ((writeAll port bytes).2 = none ↔ taken = bytes)
  written_setTimeout : ∀ port : Port, written (setTimeout port).1 = written port
  written_tryClone : ∀ port : Port, written (tryClone port).1 = written port
  written_spawn : ∀ port : Port, written (spawn port).1 = written port
  written_hangUp : ∀ port : Port, written (hangUp port) = written port

/-- States of a port in which every call succeeds, now and later. -/
structure Steady {Port : Type} [SerialPort Port] (good : Port → Prop) : Prop where
  setTimeout : ∀ {port}, good port → (setTimeout port).2 = none ∧ good (setTimeout port).1
  tryClone : ∀ {port}, good port → (tryClone port).2 = none ∧ good (tryClone port).1
  spawn : ∀ {port}, good port → (spawn port).2 = none ∧ good (spawn port).1
  writeAll : ∀ {port}, good port → ∀ bytes, (writeAll port bytes).2 = none ∧ good (writeAll port bytes).1

end SerialPort

/-! ## Serial lines -/

/-- An answer of the system to one call.  A write may be answered with fewer bytes than were given, or be interrupted
before the first. -/
inductive Answer where
  | fine
  | short (n : Nat)
  | interrupted
  | failed (failure : Failure)
  deriving DecidableEq, Repr

/-- A serial line: all that was written to it, whether the far side is still there, and the answers of the system to the
calls to come.  Behind the last of these every call goes well. -/
structure SerialLine where
  written : List UInt8
  connected : Bool
  ahead : List Answer
  deriving DecidableEq, Repr

namespace SerialLine

/-- A line with these answers ahead, to which nothing was written yet. -/
def facing (ahead : List Answer) : SerialLine := ⟨[], true, ahead⟩

/-- A line to which nothing was written yet, and on which every call goes well. -/
def fresh : SerialLine := facing []

/-- A call that writes nothing. -/
def call (line : SerialLine) : SerialLine × Option Failure :=
  match line.ahead with
  | .failed failure :: ahead => ({ line with ahead := ahead }, some failure)
  | _ :: ahead => ({ line with ahead := ahead }, none)
  | [] => (line, none)

/-- A write that got out nothing. -/
def nothingWritten : Failure := ⟨.other, "failed to write whole buffer"⟩

/-- The far side is gone. -/
def gone : Failure := ⟨.other, SystemError.brokenPipe.words⟩

/-- Write bytes to a line with `written` on it, one call after the other, until none are left or a call fails. -/
def writeRest (written : List UInt8) : List Answer → List UInt8 → SerialLine × Option Failure
  | ahead, [] => (⟨written, true, ahead⟩, none)
  | [], bytes => (⟨written ++ bytes, true, []⟩, none)
  | .fine :: ahead, bytes => (⟨written ++ bytes, true, ahead⟩, none)
  | .short n :: ahead, bytes =>
    if n = 0 then (⟨written, true, ahead⟩, some nothingWritten)
    else writeRest (written ++ bytes.take n) ahead (bytes.drop n)
  | .interrupted :: ahead, bytes => writeRest written ahead bytes
  | .failed failure :: ahead, _ => (⟨written, true, ahead⟩, some failure)

/-- Write all bytes, unless the far side is gone. -/
def write (line : SerialLine) : List UInt8 → SerialLine × Option Failure
  | [] => (line, none)
  | bytes => if line.connected then writeRest line.written line.ahead bytes else (line, some gone)

end SerialLine

instance : SerialPort SerialLine where
  setTimeout line := (line.call.1, line.call.2.map (·.text))
  tryClone line := (line.call.1, line.call.2.map (·.text))
  spawn line := line.call
  writeAll line bytes := line.write bytes
  hangUp line := { line with connected := false }
  written line := line.written

end CanBus.Slcan
