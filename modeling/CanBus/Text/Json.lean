/-!
# JSON values — what a text in JSON says

Numbers keep their numeral.  A string is `none` when its escapes name half of a surrogate pair: the text is
JSON, but the string stands for no characters.  Objects keep all their members in order.

Texts are written and read by a library, of which no more is used than `Codec`; what may be relied on is
`Codec.Documented`.
-/

namespace CanBus.Json

/-- A JSON value. -/
inductive Value where
  | null
  | boolean (b : Bool)
  | number (numeral : List Char)
  | string (characters : Option (List Char))
  | array (items : List Value)
  | object (members : List (Option (List Char) × Value))

namespace Value

/-- The values of named fields: of an object by key, no known key twice and each key a text, or of an array by
position, exactly as many as there are names. -/
def fields? (names : List (List Char)) : Value → Option (List (Option Value))
  | .array items => if items.length = names.length then some (items.map some) else none
  | .object members =>
    if members.all (·.1.isSome) && names.all fun name => members.countP (·.1 == some name) ≤ 1 then
      some (names.map fun name => (members.find? (·.1 == some name)).map (·.2))
    else none
  | _ => none

/-- The characters of a string. -/
def text? : Value → Option (List Char)
  | .string characters => characters
  | _ => none

def boolean? : Value → Option Bool
  | .boolean b => some b
  | _ => none

/-- A number of at most `limit`, written as digits alone. -/
def natural? (limit : Nat) : Value → Option Nat
  | .number numeral =>
    if numeral.all Char.isDigit then
      let n := numeral.foldl (fun n c => n * 10 + (c.toNat - '0'.toNat)) 0
      if n ≤ limit then some n else none
    else none
  | _ => none

end Value

/-! ## The library -/

/-- What is written as a member of an object. -/
inductive Scalar where
  | text (characters : List Char)
  | natural (n : Nat)
  | boolean (b : Bool)
  deriving DecidableEq, Repr

/-- A scalar as a value. -/
def Scalar.value : Scalar → Value
  | .text characters => .string (some characters)
  | .natural n => .number (Nat.toDigits 10 n)
  | .boolean b => .boolean b

/-- What is used of a library for JSON. -/
class Codec where
  /-- The compact text of an object with these members. -/
  write : List (String × Scalar) → List Char
  /-- The value that a text spells. -/
  read : List Char → Option Value

/-- What is documented of a library: its reader undoes its writer, a compact object opens with a brace, and the writer
escapes control characters, so that no line break is left. -/
class Codec.Documented [Codec] : Prop where
  read_write : ∀ members, read (write members) =
    some (.object (members.map fun (key, scalar) => (some key.toList, scalar.value)))
  braced : ∀ members, ∃ cs, write members = '{' :: cs
  unbroken : ∀ members, '\n' ∉ write members

end CanBus.Json
