import CanBus.Capture.Log
import CanBus.Proofs.Capture.Record

/-!
# Logs — a log falls into the lines it was made of

No line of a log holds a line break and none is blank, so the text of a log is cut into the lines that were written
(`logLines_logText`), each of which reads back.
-/

namespace CanBus.Capture

variable [Json.Codec]

/-- No record line is blank. -/
theorem trim_line_ne_nil [Json.Codec.Documented] (record : Record) : Text.trim record.line ≠ [] := by
  obtain ⟨cs, hcs⟩ := Json.Codec.Documented.braced record.members
  rw [Record.line, hcs]
  exact Text.trim_cons_ne_nil (by decide) _

theorem logText_eq (header : Header) (received : List Received) :
    logText header received = header.line ++ '\n' :: (received.map (·.record.line)).flatMap (· ++ ['\n']) := by
  rw [logText, List.flatMap_map]

/-- **The lines of a log** are those that were written. -/
theorem logLines_logText [Json.Codec.Documented] (header : Header) (received : List Received) :
    logLines (logText header received) = (header.line, received.map (·.record.line)) := by
  have hunbroken : ∀ line ∈ received.map (·.record.line), '\n' ∉ line := by
    intro line hline
    obtain ⟨r, -, rfl⟩ := List.mem_map.1 hline
    exact r.record.unbroken_line
  have hkept : (received.map (·.record.line)).filter (fun line => !(Text.trim line).isEmpty) =
      received.map (·.record.line) := by
    refine List.filter_eq_self.2 fun line hline => ?_
    obtain ⟨r, -, rfl⟩ := List.mem_map.1 hline
    simpa using trim_line_ne_nil r.record
  rw [logLines, logText_eq, Text.pieces_line header.unbroken_line, Text.pieces_lines hunbroken]
  simp only [List.filter_append, hkept]
  simp

/-- A log reads back as the header and the records it was made of. -/
theorem readLog_logText [Json.Codec.Documented] {header : Header} (h : header.version < UInt32.size)
    (received : List Received) :
    readLog (logText header received) = (some header, received.map fun r => some r.record) := by
  rw [readLog, logLines_logText]
  simp only [Header.ofLine?_line h, List.map_map]
  exact congrArg _ (List.map_congr_left fun r _ => r.ofLine?_line)

end CanBus.Capture
