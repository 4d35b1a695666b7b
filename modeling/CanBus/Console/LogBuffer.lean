/-!
# Log buffers — what is on its way to a log

A log is written in large pieces.  A text waits while there is room for it; when there is none, what waits is
written first, and a text that would fill the buffer by itself does not wait at all.  Nothing is lost and
nothing changes its order (`put_text`), and never more waits than there is room for (`waiting_put_le`).
-/

namespace CanBus.Console

/-- The log at a path, and what waits to be written to it. -/
structure LogBuffer where
  path : String
  waiting : String
  deriving DecidableEq, Repr

namespace LogBuffer

/-- The number of bytes that may wait. -/
def capacity : Nat := 8192

/-- Add a text: what is to be written now, piece by piece, and the buffer afterwards. -/
def put (buffer : LogBuffer) (text : String) : List String × LogBuffer :=
  if text.utf8ByteSize < capacity then
    if buffer.waiting.utf8ByteSize + text.utf8ByteSize ≤ capacity then
      ([], { buffer with waiting := buffer.waiting ++ text })
    else ([buffer.waiting], { buffer with waiting := text })
  else ([buffer.waiting, text], { buffer with waiting := "" })

theorem path_put (buffer : LogBuffer) (text : String) : (buffer.put text).2.path = buffer.path := by
  rw [put]
  split
  · split <;> rfl
  · rfl

theorem put_text (buffer : LogBuffer) (text : String) :
    (buffer.put text).1.flatMap String.toList ++ (buffer.put text).2.waiting.toList =
      buffer.waiting.toList ++ text.toList := by
  rw [put]
  split
  · split <;> simp
  · simp

theorem waiting_put_le (buffer : LogBuffer) (text : String) :
    (buffer.put text).2.waiting.utf8ByteSize ≤ capacity := by
  rw [put]
  split
  · rename_i hText
    split
    · rename_i hRoom
      simpa using hRoom
    · exact Nat.le_of_lt hText
  · exact Nat.zero_le _

end LogBuffer

end CanBus.Console
