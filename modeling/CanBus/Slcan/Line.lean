import CanBus.Frame
import CanBus.Text.Utf8

/-!
# SLCAN lines — data frames as text on a serial line

A line is a header letter, the identifier in the digits of its format, one length digit, two digits for each
byte, and a carriage return.  `decode` reads a line without its carriage return: bytes after the payload are an
adapter's time mark and are passed over, and remote frames and acknowledgements carry no frame.
-/

namespace CanBus.Slcan

/-- The end of a line. -/
def carriageReturn : UInt8 := 13

/-- What an adapter answers to a command that it refuses. -/
def bell : UInt8 := 7

/-- The longest payload that a line carries. -/
def maxPayload : Nat := 8

/-- ASCII characters as bytes. -/
def ascii (cs : List Char) : List UInt8 := cs.map fun c => UInt8.ofNat c.toNat

/-- Bytes as characters of the same number. -/
def characters (bs : List UInt8) : List Char := bs.map fun b => Char.ofNat b.toNat

namespace Line

/-! ## Writing -/

/-- The letter that opens the line of a data frame. -/
def letter : IdFormat → Char
  | .base => 't'
  | .extended => 'T'

/-- The characters of a frame's line, without its end. -/
def body (frame : Frame) : List Char :=
  letter frame.format :: Hex.upper frame.format.digits frame.id.toNat ++
    Char.ofNat (48 + frame.payload.length) :: Hex.bytes frame.payload

/-- The line of a frame, with its end. -/
def encode (frame : Frame) : Except Fault (List UInt8) :=
  if maxPayload < frame.payload.length then .error (.invalidFrame .lineOverEightBytes)
  else .ok (ascii (body frame) ++ [carriageReturn])

/-! ## Reading -/

/-- The number that hexadecimal digits spell. -/
def number (digits : List UInt8) : Except Fault Nat :=
  if Utf8.wellFormed digits then
    match Hex.read (UInt32.size - 1) (characters digits) with
    | .ok n => .ok n
    | .error _ => .error (.invalidFrame .lineNotHex)
  else .error (.invalidFrame .lineNotText)

/-- The bytes that pairs of digits spell. -/
def octets : List UInt8 → Except Fault (List UInt8)
  | high :: low :: rest => do
    let n ← number [high, low]
    let bytes ← octets rest
    return UInt8.ofNat n :: bytes
  | _ => .ok []

/-- The number that a length digit stands for. -/
def lengthDigit (b : UInt8) : Except Fault Nat :=
  if 48 ≤ b ∧ b.toNat - 48 ≤ maxPayload then .ok (b.toNat - 48) else .error (.invalidFrame .lineLengthDigit)

/-- The data frame that follows a header letter. -/
def dataFrame (format : IdFormat) (line : List UInt8) : Except Fault Frame :=
  match line.drop format.digits with
  | [] => .error (.invalidFrame .lineShortHeader)
  | lengthByte :: rest => do
    let id ← number (line.take format.digits)
    let length ← lengthDigit lengthByte
    if rest.length < 2 * length then .error (.invalidFrame .lineShortData)
    else
      let payload ← octets (rest.take (2 * length))
      Frame.make (BitVec.ofNat 32 id) payload format false

/-- Whether the letter opens a remote frame or an acknowledgement. -/
def carriesNothing (b : UInt8) : Bool := b ∈ ascii ['r', 'R', 'z', 'Z']

/-- The frame of a line without its end. -/
def decode : List UInt8 → Except Fault (Option Frame)
  | [] => .error (.invalidFrame .lineEmpty)
  | header :: line =>
    if header = 116 then (dataFrame .base line).map some
    else if header = 84 then (dataFrame .extended line).map some
    else if carriesNothing header then .ok none
    else .error (.invalidFrame .lineUnknownHeader)

end Line

end CanBus.Slcan
