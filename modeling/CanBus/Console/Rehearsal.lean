import CanBus.Console.FileTree
import CanBus.Console.Host

/-!
# Rehearsals — a host that is a value

A rehearsal says in advance which files there are, which serial device there is and how its far side answers,
and notes what a command does.  A command run over it is a plain function of the rehearsal.
-/

namespace CanBus.Console

/-- The far side of a serial line: having heard `cue`, it says `reply`, once or whenever it is listened to. -/
structure Dongle where
  cue : List UInt8
  reply : List UInt8
  repeats : Bool
  deriving DecidableEq, Repr

/-- What a command finds, and what it has done so far. -/
structure Rehearsal where
  tree : FileTree
  dongle : Option Dongle
  output : String
  complaints : String
  heard : ByteArray
  answered : Bool

namespace Rehearsal

/-- A rehearsal in which nothing has been done. -/
def fresh (files : List (String × String)) (device : Option String) (dongle : Option Dongle) : Rehearsal :=
  ⟨.make files device, dongle, "", "", .empty, false⟩

/-- The time of every rehearsal; it has all its digits, like most. -/
def time : Moment := ⟨0, 123456789, 0⟩

/-! ## Files -/

/-- The rehearsal with more output. -/
def print (r : Rehearsal) (text : String) : Rehearsal := { r with output := r.output ++ text }

/-- The rehearsal with more complaints. -/
def complain (r : Rehearsal) (text : String) : Rehearsal := { r with complaints := r.complaints ++ text }

/-- The rehearsal with more bytes heard at the far side of the serial line. -/
def hear (r : Rehearsal) (bytes : ByteArray) : Rehearsal := { r with heard := r.heard ++ bytes }

/-- The rehearsal with an empty file at a path. -/
def create (r : Rehearsal) (path : String) : Except SystemError Rehearsal :=
  (r.tree.create path).map fun tree => { r with tree := tree }

/-- The rehearsal with a text written to what is at a path. -/
def append (r : Rehearsal) (path : String) (text : String) : Except SystemError Rehearsal := do
  let place ← r.tree.find path
  match r.tree.devices.lookup place with
  | none => return { r with tree := r.tree.append place text }
  | some .full => .error .noSpace
  | some .output => return r.print text
  | some .complaints => return r.complain text
  | some .terminal => return r.hear text.toUTF8
  | some _ => return r

/-! ## The serial line -/

/-- The serial line at a path. -/
def line (r : Rehearsal) (path : String) : Except SystemError Slcan.SerialLine := do
  let place ← r.tree.find path
  if r.tree.devices.lookup place = some .terminal then return .fresh
  else .error .notTerminal

/-- Whether bytes stand somewhere in others. -/
def occurs (bytes : List UInt8) : List UInt8 → Bool
  | [] => bytes.isEmpty
  | b :: rest => bytes.isPrefixOf (b :: rest) || occurs bytes rest

/-- The bytes that the far side says now. -/
def reply (r : Rehearsal) : List UInt8 :=
  match r.dongle with
  | none => []
  | some dongle =>
    if occurs dongle.cue r.heard.toList ∧ (dongle.repeats ∨ r.answered = false) then dongle.reply else []

end Rehearsal

/-! ## The host -/

/-- Do something that may fail to a rehearsal. -/
def attempt (change : Rehearsal → Except SystemError Rehearsal) : StateM Rehearsal (Except String Unit) := do
  match change (← get) with
  | .error e => return .error e.message
  | .ok r =>
    set r
    return .ok ()

instance : Host (StateM Rehearsal) where
  print line := modify (·.print (line ++ "\n"))
  complain line := modify (·.complain (line ++ "\n"))
  readText path := return ((← get).tree.read path).mapError (·.message)
  create path := attempt (·.create path)
  append path text := attempt (·.append path text)
  connect path := return ((← get).line path).mapError fun e => .io e.words
  transmit bytes := do
    modify (·.hear bytes.toByteArray)
    return .ok ()
  listen := do
    let reply := (← get).reply
    modify fun r => { r with answered := r.answered || reply ≠ [] }
    return reply
  unlisten := return ()
  pause _ := return ()
  now := return Rehearsal.time
  ports := return []

end CanBus.Console
