import CanBus.Moment
import CanBus.Slcan.Adapter

/-!
# Hosts — what a command needs from where it runs
-/

namespace CanBus.Console

/-- Streams, files, a serial line and a clock. -/
class Host (m : Type → Type) where
  /-- Write one line of output. -/
  print : String → m Unit
  /-- Write one line of complaint. -/
  complain : String → m Unit
  /-- The characters of a file, or why it cannot be read. -/
  readText : String → m (Except String (List Char))
  /-- Make an empty file, or say why not. -/
  create : String → m (Except String Unit)
  /-- Write characters at the end of a file, or say why not. -/
  append : String → String → m (Except String Unit)
  /-- Open a serial device. -/
  connect : String → m (Except Fault Slcan.SerialLine)
  /-- Write bytes to the open device. -/
  transmit : List UInt8 → m (Except Fault Unit)
  /-- The bytes that come from the open device within a millisecond. -/
  listen : m (List UInt8)
  /-- Listen no more to the open device. -/
  unlisten : m Unit
  /-- Wait for some milliseconds. -/
  pause : Nat → m Unit
  /-- The time of day. -/
  now : m Moment
  /-- The serial ports that there are, and what drives them. -/
  ports : m (List (String × String))

end CanBus.Console
