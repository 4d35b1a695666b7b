import CanBus.Capture.Header
import CanBus.Capture.Record
import CanBus.Text.Split

/-!
# Capture logs — a header line and one line for each frame
-/

namespace CanBus.Capture

/-- The text of a log: every line ends with a line break. -/
def logText [Json.Codec] (header : Header) (received : List Received) : List Char :=
  header.line ++ '\n' :: received.flatMap fun r => r.record.line ++ ['\n']

/-- The first line of a text, and the lines after it that are not blank. -/
def logLines (text : List Char) : List Char × List (List Char) :=
  match Text.pieces '\n' text with
  | [] => ([], [])
  | first :: rest => (first, rest.filter fun line => !(Text.trim line).isEmpty)

/-- Read a text as a log: its header, and for each line that is not blank its record, if it holds one. -/
def readLog [Json.Codec] (text : List Char) : Option Header × List (Option Record) :=
  let (first, rest) := logLines text
  (Header.ofLine? first, rest.map Record.ofLine?)

end CanBus.Capture
