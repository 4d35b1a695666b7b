import CanBus.Text.JsonWriter

/-!
# Reading JSON — one value with white space around it

Strings, numerals and words are read by functions of their own, each giving what it read and what is left.
`value`, `items` and `members` call one another with fuel; every call but one takes a character off the text, so
twice its length is enough (`read`).  Writer and reader together are a library.
-/

namespace CanBus.Json

/-- The text without the white space before it. -/
def skipBlank (cs : List Char) : List Char :=
  cs.dropWhile fun c => c == ' ' || c == '\t' || c == '\n' || c == '\r'

/-! ## Strings -/

/-- A part of a string: a character, or a 16-bit unit written as `\u` and four digits. -/
inductive Part where
  | character (c : Char)
  | unit (n : Nat)
  deriving DecidableEq, Repr

/-- The number that four hexadecimal digits spell. -/
def fourDigits (a b c d : Char) : Option Nat := do
  let a ← Hex.digitValue? a
  let b ← Hex.digitValue? b
  let c ← Hex.digitValue? c
  let d ← Hex.digitValue? d
  return ((a * 16 + b) * 16 + c) * 16 + d

/-- The character that a backslash and this letter stand for. -/
def escaped? (c : Char) : Option Char :=
  match c with
  | '"' => some '"'
  | '\\' => some '\\'
  | '/' => some '/'
  | 'b' => some (Char.ofNat 8)
  | 'f' => some (Char.ofNat 12)
  | 'n' => some '\n'
  | 'r' => some '\r'
  | 't' => some '\t'
  | _ => none

/-- The parts of a string up to its closing quote, and what follows it. -/
def parts : List Char → Option (List Part × List Char)
  | [] => none
  | '"' :: cs => some ([], cs)
  | '\\' :: 'u' :: a :: b :: c :: d :: cs => do
    let n ← fourDigits a b c d
    let (later, rest) ← parts cs
    return (.unit n :: later, rest)
  | '\\' :: c :: cs => do
    let e ← escaped? c
    let (later, rest) ← parts cs
    return (.character e :: later, rest)
  | c :: cs => do
    if c.toNat < 32 then none
    else
      let (later, rest) ← parts cs
      return (.character c :: later, rest)

def isHighSurrogate (n : Nat) : Bool := 0xD800 ≤ n && n ≤ 0xDBFF

def isLowSurrogate (n : Nat) : Bool := 0xDC00 ≤ n && n ≤ 0xDFFF

/-- The characters that parts stand for; a high surrogate needs a low one after it, and no other stands alone. -/
def assemble : List Part → Option (List Char)
  | [] => some []
  | .character c :: later => (assemble later).map (c :: ·)
  | .unit high :: .unit low :: later =>
    if isHighSurrogate high then
      if isLowSurrogate low then
        (assemble later).map (Char.ofNat (0x10000 + (high - 0xD800) * 0x400 + (low - 0xDC00)) :: ·)
      else none
    else if isLowSurrogate high then none
    else (assemble (.unit low :: later)).map (Char.ofNat high :: ·)
  | .unit n :: later =>
    if isHighSurrogate n || isLowSurrogate n then none
    else (assemble later).map (Char.ofNat n :: ·)

/-- A string after its opening quote. -/
def string (cs : List Char) : Option (Option (List Char) × List Char) :=
  (parts cs).map fun (ps, rest) => (assemble ps, rest)

/-! ## Numerals -/

/-- At least one digit. -/
def digits (cs : List Char) : Option (List Char × List Char) :=
  match cs.takeWhile Char.isDigit with
  | [] => none
  | ds => some (ds, cs.dropWhile Char.isDigit)

/-- The digits before the point: a zero alone, or none in front. -/
def wholePart : List Char → Option (List Char × List Char)
  | '0' :: cs => some (['0'], cs)
  | cs => digits cs

/-- A point with digits, or nothing. -/
def fractionPart : List Char → Option (List Char × List Char)
  | '.' :: cs => (digits cs).map fun (ds, rest) => ('.' :: ds, rest)
  | cs => some ([], cs)

/-- A sign, or nothing. -/
def signPart : List Char → List Char × List Char
  | '+' :: cs => (['+'], cs)
  | '-' :: cs => (['-'], cs)
  | cs => ([], cs)

/-- An exponent, or nothing. -/
def exponentPart : List Char → Option (List Char × List Char)
  | c :: cs =>
    if c = 'e' ∨ c = 'E' then
      let (sign, cs) := signPart cs
      (digits cs).map fun (ds, rest) => (c :: sign ++ ds, rest)
    else some ([], c :: cs)
  | [] => some ([], [])

/-- A numeral without its sign. -/
def unsigned (cs : List Char) : Option (List Char × List Char) := do
  let (whole, cs) ← wholePart cs
  let (fraction, cs) ← fractionPart cs
  let (exponent, cs) ← exponentPart cs
  return (whole ++ fraction ++ exponent, cs)

/-- A numeral. -/
def numeral : List Char → Option (List Char × List Char)
  | '-' :: cs => (unsigned cs).map fun (n, rest) => ('-' :: n, rest)
  | cs => unsigned cs

/-! ## Values -/

mutual

/-- A value, with white space before it. -/
def value : Nat → List Char → Option (Value × List Char)
  | 0, _ => none
  | fuel + 1, cs =>
    match skipBlank cs with
    | 'n' :: 'u' :: 'l' :: 'l' :: rest => some (.null, rest)
    | 't' :: 'r' :: 'u' :: 'e' :: rest => some (.boolean true, rest)
    | 'f' :: 'a' :: 'l' :: 's' :: 'e' :: rest => some (.boolean false, rest)
    | '"' :: rest => (string rest).map fun (s, rest) => (.string s, rest)
    | '[' :: rest =>
      match skipBlank rest with
      | ']' :: rest => some (.array [], rest)
      | rest => (items fuel rest).map fun (vs, rest) => (.array vs, rest)
    | '{' :: rest =>
      match skipBlank rest with
      | '}' :: rest => some (.object [], rest)
      | rest => (members fuel rest).map fun (ms, rest) => (.object ms, rest)
    | rest => (numeral rest).map fun (n, rest) => (.number n, rest)

/-- The items of an array up to its closing bracket, at least one. -/
def items : Nat → List Char → Option (List Value × List Char)
  | 0, _ => none
  | fuel + 1, cs => do
    let (v, rest) ← value fuel cs
    match skipBlank rest with
    | ']' :: rest => return ([v], rest)
    | ',' :: rest =>
      let (vs, rest) ← items fuel rest
      return (v :: vs, rest)
    | _ => none

/-- The members of an object up to its closing brace, at least one. -/
def members : Nat → List Char → Option (List (Option (List Char) × Value) × List Char)
  | 0, _ => none
  | fuel + 1, cs =>
    match skipBlank cs with
    | '"' :: rest => do
      let (key, rest) ← string rest
      match skipBlank rest with
      | ':' :: rest =>
        let (v, rest) ← value fuel rest
        match skipBlank rest with
        | '}' :: rest => return ([(key, v)], rest)
        | ',' :: rest =>
          let (ms, rest) ← members fuel rest
          return ((key, v) :: ms, rest)
        | _ => none
      | _ => none
    | _ => none

end

/-- The value that a whole text spells. -/
def read (cs : List Char) : Option Value :=
  match value (2 * cs.length + 2) cs with
  | some (v, rest) => if skipBlank rest = [] then some v else none
  | none => none

instance : Codec where
  write members := object (members.map fun (key, scalar) => (key, scalar.written))
  read := Json.read

end CanBus.Json
