/-!
# Hexadecimal numbers — reading with a bound, printing at a width

`Hex.read limit` accepts one leading `+`, then at least one digit of either case, with a value of at most
`limit`; the first offending character from the left decides which `Hex.Flaw` is reported.  `Hex.upper` and
`Hex.lower` print at least as many digits as asked for.
-/

namespace CanBus.Hex

/-- Why a text is no hexadecimal number within its bound. -/
inductive Flaw where
  | empty
  | badDigit
  | tooLarge
  deriving DecidableEq, Repr

def Flaw.message : Flaw → String
  | .empty => "cannot parse integer from empty string"
  | .badDigit => "invalid digit found in string"
  | .tooLarge => "number too large to fit in target type"

/-! ## Reading -/

/-- The value of a digit, in either letter case. -/
def digitValue? (c : Char) : Option Nat :=
  if '0' ≤ c ∧ c ≤ '9' then some (c.toNat - '0'.toNat)
  else if 'a' ≤ c ∧ c ≤ 'f' then some (c.toNat - 'a'.toNat + 10)
  else if 'A' ≤ c ∧ c ≤ 'F' then some (c.toNat - 'A'.toNat + 10)
  else none

/-- The digits `cs` after digits of value `v`. -/
def readDigits (limit : Nat) : Nat → List Char → Except Flaw Nat
  | v, [] => .ok v
  | v, c :: cs =>
    match digitValue? c with
    | none => .error .badDigit
    | some d => if v * 16 + d ≤ limit then readDigits limit (v * 16 + d) cs else .error .tooLarge

/-- A number of at most `limit`; a sign alone counts as a bad digit. -/
def read (limit : Nat) : List Char → Except Flaw Nat
  | [] => .error .empty
  | ['+'] => .error .badDigit
  | '+' :: cs => readDigits limit 0 cs
  | cs => readDigits limit 0 cs

/-- A number that fits 32 bits. -/
def readWord (cs : List Char) : Except Flaw (BitVec 32) :=
  (read (UInt32.size - 1) cs).map (BitVec.ofNat 32)

/-- A number that fits one byte. -/
def readByte (cs : List Char) : Except Flaw UInt8 :=
  (read 255 cs).map UInt8.ofNat

/-! ## Printing -/

def upperDigit (d : Nat) : Char := if d < 10 then Char.ofNat (48 + d) else Char.ofNat (55 + d)

def lowerDigit (d : Nat) : Char := if d < 10 then Char.ofNat (48 + d) else Char.ofNat (87 + d)

/-- The last `width` digits of `n`, most significant first. -/
def fixed (digit : Nat → Char) : Nat → Nat → List Char
  | 0, _ => []
  | width + 1, n => fixed digit width (n / 16) ++ [digit (n % 16)]

/-- The number of digits that `n` needs, one for zero. -/
def digitCount (n : Nat) : Nat := Nat.log2 n / 4 + 1

/-- `n` in upper-case digits, zero-padded to `width`. -/
def upper (width n : Nat) : List Char := fixed upperDigit (max width (digitCount n)) n

/-- `n` in lower-case digits, zero-padded to `width`. -/
def lower (width n : Nat) : List Char := fixed lowerDigit (max width (digitCount n)) n

/-- The two upper-case digits of a byte. -/
def byte (b : UInt8) : List Char := upper 2 b.toNat

/-- The bytes written one after the other. -/
def bytes (bs : List UInt8) : List Char := bs.flatMap byte

@[simp] theorem length_fixed (digit : Nat → Char) (width n : Nat) :
    (fixed digit width n).length = width := by
  induction width generalizing n with
  | zero => rfl
  | succ width ih => simp [fixed, ih]

end CanBus.Hex
