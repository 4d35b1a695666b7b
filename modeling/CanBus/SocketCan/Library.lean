import CanBus.Frame

/-!
# Frame libraries — what is used of a library of kernel frames

Kernel frames are built and taken apart by a library, whose identifiers have a type for each format with a checked
constructor.  `ofFrame` and `toFrame?` use nothing of it but the functions of `FrameLibrary`, and what may be relied on
of these is `FrameLibrary.Documented`.
-/

namespace CanBus.SocketCan

/-- The longest payload of a classic frame. -/
def maxPayload : Nat := 8

/-- The kinds of kernel frames. -/
inductive FrameKind where
  | data
  | remote
  | error
  deriving DecidableEq, Repr

/-- An identifier of one of the two types that a library has for them. -/
inductive EitherId (Standard Extended : Type) where
  | standard (id : Standard)
  | extended (id : Extended)

/-- A library of kernel frames. -/
structure FrameLibrary (Kernel : Type) where
  /-- Identifiers of eleven bits. -/
  Standard : Type
  /-- Identifiers of 29 bits. -/
  Extended : Type
  standard? : BitVec 16 → Option Standard
  extended? : BitVec 32 → Option Extended
  standardRaw : Standard → BitVec 16
  extendedRaw : Extended → BitVec 32
  /-- A data frame. -/
  frame? : EitherId Standard Extended → List UInt8 → Option Kernel
  kind : Kernel → FrameKind
  id : Kernel → EitherId Standard Extended
  data : Kernel → List UInt8
  /-- The identifier word of the kernel, flags and all. -/
  word : Kernel → BitVec 32

namespace FrameLibrary

variable {Kernel : Type}

/-- The identifier that the word of a kernel frame names: its low 29 bits if the flag for an extended one is set, else
its low 11. -/
def identifier (library : FrameLibrary Kernel) (kernel : Kernel) : Nat :=
  (library.word kernel).toNat % 1 <<< (if (library.word kernel).getLsbD 31 then 29 else 11)

/-- What is documented of a library: its constructors accept exactly the identifiers of their width and payloads of up
to eight bytes, what was put in can be got out again, and the flags of the identifier word (bit 29 for error reports,
bit 30 for remote frames, bit 31 for extended identifiers) decide of what kind a frame is and how its identifier is
read. -/
structure Documented (library : FrameLibrary Kernel) : Prop where
  standard_iff : ∀ raw, (∃ id, library.standard? raw = some id) ↔ raw.toNat < 1 <<< 11
  standard_raw : ∀ {raw id}, library.standard? raw = some id → library.standardRaw id = raw
  extended_iff : ∀ raw, (∃ id, library.extended? raw = some id) ↔ raw.toNat < 1 <<< 29
  extended_raw : ∀ {raw id}, library.extended? raw = some id → library.extendedRaw id = raw
  frame_iff : ∀ id data, (∃ kernel, library.frame? id data = some kernel) ↔ data.length ≤ maxPayload
  frame_kind : ∀ {id data kernel}, library.frame? id data = some kernel → library.kind kernel = .data
  frame_id : ∀ {id data kernel}, library.frame? id data = some kernel → library.id kernel = id
  frame_data : ∀ {id data kernel}, library.frame? id data = some kernel → library.data kernel = data
  kind_error_iff : ∀ kernel, library.kind kernel = .error ↔ (library.word kernel).getLsbD 29 = true
  kind_remote_iff : ∀ kernel, library.kind kernel = .remote ↔
    (library.word kernel).getLsbD 29 = false ∧ (library.word kernel).getLsbD 30 = true
  id_extended : ∀ {kernel id}, library.kind kernel = .data → library.id kernel = .extended id →
    (library.word kernel).getLsbD 31 = true ∧ (library.extendedRaw id).toNat = (library.word kernel).toNat % 1 <<< 29
  id_standard : ∀ {kernel id}, library.kind kernel = .data → library.id kernel = .standard id →
    (library.word kernel).getLsbD 31 = false ∧ (library.standardRaw id).toNat = (library.word kernel).toNat % 1 <<< 11

/-- A word of half the width, if nothing is lost by that. -/
def narrow? (word : BitVec 32) : Option (BitVec 16) :=
  if word.toNat < 1 <<< 16 then some (word.setWidth 16) else none

/-- The library's identifier of a frame. -/
def idOf? (library : FrameLibrary Kernel) (frame : Frame) : Option (EitherId library.Standard library.Extended) :=
  match frame.format with
  | .base => ((narrow? frame.id).bind library.standard?).map .standard
  | .extended => (library.extended? frame.id).map .extended

/-- The kernel frame of a frame; the identifier is checked before the payload. -/
def ofFrame (library : FrameLibrary Kernel) (frame : Frame) : Except Fault Kernel :=
  match library.idOf? frame with
  | none => .error (.invalidFrame .socketIdentifier)
  | some id =>
    match library.frame? id frame.payload with
    | none => .error (.invalidFrame .socketPayload)
    | some kernel => .ok kernel

/-- The data frame of a kernel frame; error reports and remote frames have none. -/
def toFrame? (library : FrameLibrary Kernel) (kernel : Kernel) : Option Frame :=
  if library.kind kernel = .data then
    match library.id kernel with
    | .standard id => (Frame.make ((library.standardRaw id).setWidth 32) (library.data kernel) .base false).toOption
    | .extended id => (Frame.make (library.extendedRaw id) (library.data kernel) .extended false).toOption
  else none

end FrameLibrary

end CanBus.SocketCan
