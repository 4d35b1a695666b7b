import CanBus.Frame
import CanBus.Moment
import CanBus.Text.Blank
import CanBus.Text.Hex
import CanBus.Text.Json

/-!
# Capture records — one received frame as one line of a log

A record spells a frame in texts: its time, its identifier in hexadecimal digits, its format, its length and its
payload.  Writing is `ofFrame` and `Record.line`; reading is `Record.ofLine?` and `Record.frame`.
-/

namespace CanBus.Capture

/-- A frame and the time at which it was received. -/
structure Received where
  frame : Frame
  moment : Moment
  deriving DecidableEq

/-- The fields of a record line, as they are written. -/
structure Record where
  time : List Char
  id : List Char
  extended : Bool
  length : Nat
  data : List Char
  deriving DecidableEq, Repr

/-- Why a record names no frame. -/
inductive Flaw where
  | badIdentifier (id : List Char)
  | badData (data : List Char)
  | lengthMismatch (length : Nat) (data : List Char)
  | noFrame (fault : Fault)
  deriving DecidableEq, Repr

def Flaw.message : Flaw → String
  | .badIdentifier id => "invalid id " ++ String.ofList id
  | .badData data => "invalid data '" ++ String.ofList data ++ "'"
  | .lengthMismatch length data =>
    "record length " ++ toString length ++ " does not match data '" ++ String.ofList data ++ "'"
  | .noFrame fault => fault.message

/-! ## Identifiers -/

/-- The text without one `0x` before it. -/
def withoutMark : List Char → List Char
  | '0' :: 'x' :: cs => cs
  | cs => cs

/-- The word that a text spells in hexadecimal digits, with blanks around it and one `0x` before it allowed. -/
def word? (cs : List Char) : Option (BitVec 32) := (Hex.readWord (withoutMark (Text.trim cs))).toOption

/-! ## Frames as records -/

/-- The record of a received frame. -/
def Received.record (received : Received) : Record :=
  let frame := received.frame
  ⟨received.moment.render, frame.idText, frame.format = .extended, frame.payload.length, Hex.bytes frame.payload⟩

/-- The bytes that pairs of characters spell. -/
def octets? : List Char → Option (List UInt8)
  | [] => some []
  | [_] => none
  | high :: low :: rest => do
    let b ← (Hex.readByte [high, low]).toOption
    let bs ← octets? rest
    return b :: bs

namespace Record

/-- The frame that a record names; identifier, data, length and the frame's own rules are checked in turn. -/
def frame (record : Record) : Except Flaw Frame :=
  match word? record.id with
  | none => .error (.badIdentifier record.id)
  | some id =>
    match octets? record.data with
    | none => .error (.badData record.data)
    | some payload =>
      if payload.length ≠ record.length then .error (.lengthMismatch record.length record.data)
      else
        match Frame.make id payload (if record.extended then .extended else .base) false with
        | .error fault => .error (.noFrame fault)
        | .ok frame => .ok frame

/-- The frame to send for a record.  A record of length zero is passed over, whatever else it says, for a frame
without payload can be received but not sent. -/
def replayed (record : Record) : Except Flaw (Option Frame) :=
  if record.length = 0 then .ok none else record.frame.map some

/-! ## Lines -/

/-- The names of the fields, in the order in which they are written. -/
def names : List (List Char) := ["ts", "id", "ext", "len", "data"].map String.toList

/-- The fields as they are written. -/
def members (record : Record) : List (String × Json.Scalar) :=
  [("ts", .text record.time), ("id", .text record.id), ("ext", .boolean record.extended),
    ("len", .natural record.length), ("data", .text record.data)]

/-- The line of a record, without its end. -/
def line [Json.Codec] (record : Record) : List Char := Json.Codec.write record.members

/-- The record that a value holds. -/
def ofValue? (v : Json.Value) : Option Record := do
  match ← v.fields? names with
  | [some time, some id, some extended, some length, some data] =>
    return ⟨← time.text?, ← id.text?, ← extended.boolean?, ← length.natural? (UInt64.size - 1), ← data.text?⟩
  | _ => none

/-- The record of a line. -/
def ofLine? [Json.Codec] (cs : List Char) : Option Record := (Json.Codec.read cs).bind ofValue?

end Record

end CanBus.Capture
