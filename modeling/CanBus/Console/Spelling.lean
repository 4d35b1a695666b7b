import CanBus.Acceptance.Reduction
import CanBus.Console.Refusal
import CanBus.Text.Split

/-!
# Spellings — frames and filters as a user types them

Numbers are hexadecimal, with blanks around them and one `0x` before them allowed (`Capture.word?`).  A filter is
`ID/MASK`, with `:base` or `:ext` after it for one format.
-/

namespace CanBus.Console

/-- The identifier and format that a text spells: of base format if it fits and `extended` does not ask for the
other. -/
def identifier? (text : String) (extended : Bool) : Option (BitVec 32 × IdFormat) :=
  match Capture.word? text.toList with
  | none => none
  | some id =>
    if id.toNat ≤ IdFormat.base.maxId ∧ extended = false then some (id, .base)
    else if id.toNat ≤ IdFormat.extended.maxId then some (id, .extended)
    else none

/-- The bytes that texts spell, one each. -/
def bytes : List String → Except Refusal (List UInt8)
  | [] => .ok []
  | text :: rest =>
    let trimmed := Text.trim text.toList
    match Hex.readByte (Capture.withoutMark trimmed) with
    | .error flaw => .error (.badByte trimmed flaw)
    | .ok b => (bytes rest).map (b :: ·)

/-- The frame that an identifier and bytes spell. -/
def frame (id : String) (data : List String) (extended loopback : Bool) : Except Refusal Frame :=
  match identifier? id extended with
  | none => .error (.badIdentifier id)
  | some (word, format) =>
    match bytes data with
    | .error refusal => .error refusal
    | .ok payload => (Frame.make word payload format loopback).mapError .fault

/-- The format that the part after the last colon names; without a colon the filter takes both. -/
def filterFormat (text : String) : Except Refusal (List Char × Option IdFormat) :=
  match Text.cutLast ':' text.toList with
  | none => .ok (text.toList, none)
  | some (body, name) =>
    if name = "base".toList then .ok (body, some .base)
    else if name = "ext".toList then .ok (body, some .extended)
    else .error (.unknownFormat name text)

/-- The filter that a text spells. -/
def filter (text : String) : Except Refusal Filter :=
  match filterFormat text with
  | .error refusal => .error refusal
  | .ok (body, format) =>
    match Text.cutFirst '/' body with
    | none => .error (.noMask text)
    | some (id, mask) =>
      match Capture.word? id with
      | none => .error (.badFilterIdentifier text)
      | some id =>
        match Capture.word? mask with
        | none => .error (.badFilterMask text)
        | some mask => (Filter.make id mask format).mapError .fault

/-- The filters that texts spell. -/
def filters : List String → Except Refusal (List Filter)
  | [] => .ok []
  | text :: rest =>
    match filter text with
    | .error refusal => .error refusal
    | .ok f => (filters rest).map (f :: ·)

/-- The filters to install in a bank of `slots` slots: those asked for, reduced to the slots if they are too many,
or one that takes every frame if none is asked for. -/
def plannedFilters (slots : Nat) (texts : List String) : Except Refusal (List Filter) :=
  match filters texts with
  | .error refusal => .error refusal
  | .ok fs =>
    let fs := if fs.isEmpty then [Filter.promiscuous none] else fs
    if slots < fs.length then (Reduction.reduce fs slots).mapError .fault else .ok fs

end CanBus.Console
