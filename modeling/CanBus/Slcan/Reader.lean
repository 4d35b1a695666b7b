import CanBus.Slcan.Line

/-!
# The SLCAN reader — from arriving bytes to frames

Bytes arrive in pieces of any size.  The reader keeps the unfinished line, and takes whole lines off the front
of what it has: a carriage return ends a line, a bell ends and discards one, and empty lines say nothing.
-/

namespace CanBus.Slcan.Reader

/-- What one line says: a frame, or the fault for which it is refused. -/
inductive Reading where
  | frame (frame : Frame)
  | refused (fault : Fault)
  deriving DecidableEq

def isTerminator (b : UInt8) : Bool := b == carriageReturn || b == bell

/-- What a line with this terminator says, if anything. -/
def readLine (line : List UInt8) (terminator : UInt8) : Option Reading :=
  if terminator = bell ∨ line = [] then none
  else
    match Line.decode line with
    | .ok none => none
    | .ok (some frame) => some (.frame frame)
    | .error fault => some (.refused fault)

/-- Take all whole lines off the buffer: what they say, and the bytes left over. -/
def drain (buffer : List UInt8) : List Reading × List UInt8 :=
  match _split : buffer.dropWhile (!isTerminator ·) with
  | [] => ([], buffer)
  | terminator :: rest =>
    let (readings, left) := drain rest
    ((readLine (buffer.takeWhile (!isTerminator ·)) terminator).toList ++ readings, left)
termination_by buffer.length
decreasing_by
  have := (List.dropWhile_suffix (l := buffer) (!isTerminator ·)).length_le
  rw [_split] at this
  exact this

/-- Take in a piece: what its lines say, and the unfinished line after it. -/
def feed (pending piece : List UInt8) : List Reading × List UInt8 := drain (pending ++ piece)

end CanBus.Slcan.Reader
