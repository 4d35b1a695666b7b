import CanBus.Text.Hex
import CanBus.Text.Json

/-!
# Writing JSON — objects on one line, without spaces

Quotes, backslashes and the control characters below the space are escaped, and nothing else is.
-/

namespace CanBus.Json

/-- A character as it stands in a string. -/
def escape (c : Char) : List Char :=
  if c = '"' then ['\\', '"']
  else if c = '\\' then ['\\', '\\']
  else if c.toNat = 8 then ['\\', 'b']
  else if c = '\t' then ['\\', 't']
  else if c = '\n' then ['\\', 'n']
  else if c.toNat = 12 then ['\\', 'f']
  else if c = '\r' then ['\\', 'r']
  else if c.toNat < 32 then '\\' :: 'u' :: Hex.lower 4 c.toNat
  else [c]

/-- A string in quotes. -/
def quote (cs : List Char) : List Char := '"' :: cs.flatMap escape ++ ['"']

/-- A number in decimal digits. -/
def natural (n : Nat) : List Char := Nat.toDigits 10 n

def boolean (b : Bool) : List Char := if b then "true".toList else "false".toList

/-- A scalar as it is written. -/
def Scalar.written : Scalar → List Char
  | .text characters => quote characters
  | .natural n => Json.natural n
  | .boolean b => Json.boolean b

/-- The members of an object, from their keys and written values. -/
def commaMembers : List (String × List Char) → List Char
  | [] => []
  | [(key, v)] => quote key.toList ++ ':' :: v
  | (key, v) :: rest => quote key.toList ++ ':' :: v ++ ',' :: commaMembers rest

/-- An object, from its keys and written values. -/
def object (fields : List (String × List Char)) : List Char := '{' :: commaMembers fields ++ ['}']

end CanBus.Json
