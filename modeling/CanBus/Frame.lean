import CanBus.Fault
import CanBus.Text.Hex

/-!
# Frames — CAN data frames and their printed form

A `Frame` carries its range invariant: the identifier fits the format and the payload has at most 64 bytes.
An empty payload is a frame; sending one is refused elsewhere (`Batch.check`).
-/

namespace CanBus

/-! ## Identifier formats -/

/-- The two identifier formats, of 11 and of 29 bits. -/
inductive IdFormat where
  | base
  | extended
  deriving DecidableEq, Repr

namespace IdFormat

/-- The number of identifier bits. -/
def width : IdFormat → Nat
  | .base => 11
  | .extended => 29

/-- The greatest identifier. -/
def maxId (format : IdFormat) : Nat := (1 <<< format.width) - 1

/-- The number of hexadecimal digits in which an identifier is written. -/
def digits : IdFormat → Nat
  | .base => 3
  | .extended => 8

def label : IdFormat → String
  | .base => "base"
  | .extended => "ext"

theorem one_le_digits (format : IdFormat) : 1 ≤ format.digits := by cases format <;> decide

end IdFormat

/-! ## Frames -/

/-- A word of `k` bits has no bit from there on. -/
theorem getLsbD_of_toNat_lt {word : BitVec 32} {k i : Nat} (h : word.toNat < 1 <<< k) (hi : k ≤ i) :
    word.getLsbD i = false := by
  rw [Nat.one_shiftLeft] at h
  rw [BitVec.getLsbD]
  exact Nat.testBit_lt_two_pow (Nat.lt_of_lt_of_le h (Nat.pow_le_pow_right (by decide) hi))

/-- The longest payload of any frame. -/
def maxPayload : Nat := 64

/-- A data frame.  `loopback` asks for the frame to be handed back to its sender; on a received frame it says
that this has happened. -/
@[ext] structure Frame where
  id : BitVec 32
  payload : List UInt8
  format : IdFormat
  loopback : Bool
  id_le : id.toNat ≤ format.maxId
  payload_le : payload.length ≤ maxPayload
  deriving DecidableEq

namespace Frame

/-- The frame with these parts; the identifier is checked before the length. -/
def make (id : BitVec 32) (payload : List UInt8) (format : IdFormat) (loopback : Bool) : Except Fault Frame :=
  if hid : id.toNat ≤ format.maxId then
    if hlen : payload.length ≤ maxPayload then .ok ⟨id, payload, format, loopback, hid, hlen⟩
    else .error (.invalidFrame .payloadTooLong)
  else .error (.invalidFrame .identifierOutOfRange)

/-- The same frame on the wire, with the flag set to `loopback`. -/
def tagged (frame : Frame) (loopback : Bool) : Frame := { frame with loopback := loopback }

/-- The identifier as it is printed: `0x` and the digits of its format. -/
def idText (frame : Frame) : List Char := '0' :: 'x' :: Hex.upper frame.format.digits frame.id.toNat

/-- The bytes of the payload, each in two digits. -/
def byteTexts (frame : Frame) : List (List Char) := frame.payload.map Hex.byte

/-- The printed form: identifier, format, payload in brackets and a mark for loopback. -/
def render (frame : Frame) : String :=
  String.ofList frame.idText ++ " " ++ frame.format.label ++ " [" ++
    String.intercalate " " (frame.byteTexts.map String.ofList) ++ "]" ++
    (if frame.loopback then " loopback" else "")

theorem make_eq_ok (frame : Frame) :
    make frame.id frame.payload frame.format frame.loopback = .ok frame := by
  rw [make, dif_pos frame.id_le, dif_pos frame.payload_le]

/-- What is made has the given parts, and a frame with these parts is made. -/
theorem make_eq_ok_iff {id : BitVec 32} {payload : List UInt8} {format : IdFormat} {loopback : Bool} {frame : Frame} :
    make id payload format loopback = .ok frame ↔
      frame.id = id ∧ frame.payload = payload ∧ frame.format = format ∧ frame.loopback = loopback := by
  constructor
  · intro h
    unfold make at h
    split at h
    · split at h
      · cases h
        exact ⟨rfl, rfl, rfl, rfl⟩
      · cases h
    · cases h
  · rintro ⟨rfl, rfl, rfl, rfl⟩
    exact make_eq_ok frame

theorem make_eq_error {id : BitVec 32} {payload : List UInt8} {format : IdFormat} {loopback : Bool} {fault : Fault}
    (h : make id payload format loopback = .error fault) : ∃ defect, fault = .invalidFrame defect := by
  unfold make at h
  split at h
  · split at h
    · cases h
    · exact ⟨.payloadTooLong, (Except.error.inj h).symm⟩
  · exact ⟨.identifierOutOfRange, (Except.error.inj h).symm⟩

/-- An identifier has no bit beyond the width of its format. -/
theorem getLsbD_id (frame : Frame) {i : Nat} (hi : frame.format.width ≤ i) : frame.id.getLsbD i = false := by
  have hid := frame.id_le
  have hpos : 0 < 1 <<< frame.format.width := by
    rw [Nat.one_shiftLeft]
    exact Nat.two_pow_pos frame.format.width
  rw [IdFormat.maxId] at hid
  exact getLsbD_of_toNat_lt (k := frame.format.width) (by omega) hi

@[simp] theorem tagged_id (frame : Frame) (b : Bool) : (frame.tagged b).id = frame.id := rfl
@[simp] theorem tagged_payload (frame : Frame) (b : Bool) : (frame.tagged b).payload = frame.payload := rfl
@[simp] theorem tagged_format (frame : Frame) (b : Bool) : (frame.tagged b).format = frame.format := rfl
@[simp] theorem tagged_loopback (frame : Frame) (b : Bool) : (frame.tagged b).loopback = b := rfl

end Frame

end CanBus
