import CanBus.Text.Json

/-!
# Capture headers — the first line of a log
-/

namespace CanBus.Capture

/-- Where and how a log was recorded. -/
structure Header where
  format : List Char
  version : Nat
  backend : List Char
  device : List Char
  bitrate : Option (List Char)
  deriving DecidableEq, Repr

namespace Header

/-- The header of a log written by this library. -/
def make (backend device : String) (bitrate : Option String) : Header :=
  ⟨"srlog".toList, 1, backend.toList, device.toList, bitrate.map String.toList⟩

/-- The names of the fields, in the order in which they are written. -/
def names : List (List Char) := ["format", "version", "backend", "device", "bitrate"].map String.toList

/-- The fields that are written; no bitrate, no field. -/
def members (header : Header) : List (String × Json.Scalar) :=
  [("format", .text header.format), ("version", .natural header.version), ("backend", .text header.backend),
    ("device", .text header.device)] ++ (header.bitrate.map fun bitrate => ("bitrate", .text bitrate)).toList

/-- The line of a header, without its end. -/
def line [Json.Codec] (header : Header) : List Char := Json.Codec.write header.members

/-- A text that may be absent: missing, null or a string. -/
def optionalText? : Option Json.Value → Option (Option (List Char))
  | none => some none
  | some .null => some none
  | some v => v.text?.map some

/-- The header that a value holds. -/
def ofValue? (v : Json.Value) : Option Header := do
  match ← v.fields? names with
  | [some format, some version, some backend, some device, bitrate] =>
    return ⟨← format.text?, ← version.natural? (UInt32.size - 1), ← backend.text?, ← device.text?,
      ← optionalText? bitrate⟩
  | _ => none

/-- The header of a line. -/
def ofLine? [Json.Codec] (cs : List Char) : Option Header := (Json.Codec.read cs).bind ofValue?

end Header

end CanBus.Capture
