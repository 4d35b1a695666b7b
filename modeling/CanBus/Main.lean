import CanBus.Console.Run
import CanBus.SystemError
import CanBus.Text.JsonReader
import Std.Time.DateTime.Timestamp

/-!
# The program — console commands on the machine's own streams, files and serial lines

Serial lines are used as they are set up: raw mode is the user's business.  A thread reads the line from the
first time that it is listened to, and ends with the first byte after the last time, which is the device's
answer to the closing of its channel.
-/

namespace CanBus.Console

/-- An open serial device: its two directions, the bytes that wait, and whether anyone still listens. -/
structure Port where
  input : IO.FS.Handle
  output : IO.FS.Handle
  arrived : IO.Ref (List UInt8)
  wanted : IO.Ref Bool

/-- A run of the program, with the device that it has opened. -/
abbrev Session := StateRefT (Option Port) IO

/-! ## Files and their faults -/

/-- The machine's words for an error, and its number. -/
def causeOf : IO.Error → String × Option UInt32
  | .alreadyExists _ code words | .noFileOrDirectory _ code words | .invalidArgument _ code words
  | .permissionDenied _ code words | .resourceExhausted _ code words | .inappropriateType _ code words
  | .noSuchThing _ code words | .interrupted _ code words => (words, some code)
  | .otherError code words | .resourceBusy code words | .resourceVanished code words
  | .unsupportedOperation code words | .hardwareFault code words | .unsatisfiedConstraints code words
  | .illegalOperation code words | .protocolError code words | .timeExpired code words => (words, some code)
  | .unexpectedEof => ("unexpected end of file", none)
  | .userError words => (words, none)

/-- An error with its number. -/
def numbered (e : IO.Error) : String :=
  match causeOf e with
  | (words, some code) => SystemError.render words code.toNat
  | (words, none) => words

/-- The characters of a file. -/
def readText (path : String) : IO (List Char) := do
  let file ← IO.FS.Handle.mk path .read
  return (← file.readToEnd).toList

/-- Write a text at the end of a file. -/
def appendText (path text : String) : IO Unit := do
  let file ← IO.FS.Handle.mk path .append
  file.putStr text
  file.flush

/-- Do something, with an error as a value. -/
def attempted {ε α : Type} (describe : IO.Error → ε) (act : IO α) : Session (Except ε α) := do
  match ← act.toBaseIO with
  | .ok a => return .ok a
  | .error e => return .error (describe e)

/-- A fault of a serial device. -/
def deviceFault (e : IO.Error) : Fault := .io (causeOf e).1

/-! ## Serial devices -/

/-- Take bytes from a line for as long as they are wanted. -/
partial def gather (port : Port) : IO Unit := do
  let bytes ← port.input.read 1
  if bytes.isEmpty || !(← port.wanted.get) then return
  port.arrived.modify (· ++ bytes.toList)
  gather port

/-- Open a device in both directions. -/
def openPort (path : String) : IO Port := do
  let input ← IO.FS.Handle.mk path .read
  let output ← IO.FS.Handle.mk path .readWrite
  unless ← output.isTty do
    throw (.otherError SystemError.notTerminal.number.toUInt32 SystemError.notTerminal.words)
  return ⟨input, output, ← IO.mkRef [], ← IO.mkRef false⟩

/-- Write bytes at once. -/
def writePort (port : Port) (bytes : List UInt8) : IO Unit := do
  port.output.write bytes.toByteArray
  port.output.flush

/-- The bytes that have come, after a millisecond. -/
def drainPort (port : Port) : IO (List UInt8) := do
  unless ← port.wanted.get do
    port.wanted.set true
    let _ ← IO.asTask (gather port) .dedicated
  IO.sleep 1
  port.arrived.modifyGet fun bytes => (bytes, [])

/-! ## The host -/

/-- Write one line of output at once. -/
def printLine (line : String) : IO Unit := do
  let output ← IO.getStdout
  output.putStrLn line
  output.flush

/-- Sleep for any number of milliseconds. -/
def rest (milliseconds : Nat) : IO Unit := do
  let step := 0x80000000
  for _ in [0:milliseconds / step] do
    IO.sleep step.toUInt32
  IO.sleep (milliseconds % step).toUInt32

instance : Host Session where
  print line := printLine line
  complain line := IO.eprintln line
  readText path := attempted numbered (readText path)
  create path := attempted numbered ( IO.FS.writeFile path "")
  append path text := attempted numbered (appendText path text)
  connect path := do
    match ← attempted deviceFault (openPort path) with
    | .error fault => return .error fault
    | .ok port =>
      set (some port)
      return .ok .fresh
  transmit bytes := do
    match ← get with
    | none => return .error .closed
    | some port => attempted deviceFault (writePort port bytes)
  listen := do
    match ← get with
    | none => return []
    | some port => drainPort port
  unlisten := do
    if let some port ← get then port.wanted.set false
  pause milliseconds := rest milliseconds
  now := do
    let nanoseconds := (← Std.Time.Timestamp.now).toNanosecondsSinceUnixEpoch.val
    return ⟨nanoseconds / 1000000000, (nanoseconds % 1000000000).toNat, 0⟩
  -- a device is named by the user, for no list of ports can be had
  ports := return []

end CanBus.Console

/-- Run a console command. -/
def main (words : List String) : IO UInt32 := do
  let run : CanBus.Console.Session UInt32 := CanBus.Console.perform words
  run.run' none
