import CanBus.SocketCan.Library

/-!
# Kernel frames — CAN frames as the kernel's sockets carry them

The identifier word holds the identifier and three flags: bit 31 for an extended identifier, bit 30 for a
remote frame and bit 29 for an error report.
-/

namespace CanBus.SocketCan

/-- A frame of the kernel. -/
structure KernelFrame where
  idWord : BitVec 32
  data : List UInt8
  deriving DecidableEq, Repr

namespace KernelFrame

def extendedFlag : BitVec 32 := 0x80000000

def remoteFlag : BitVec 32 := 0x40000000

def errorFlag : BitVec 32 := 0x20000000

def baseMask : BitVec 32 := 0x7FF

def extendedMask : BitVec 32 := 0x1FFFFFFF

def isExtended (kernel : KernelFrame) : Bool := kernel.idWord &&& extendedFlag != 0

def isRemote (kernel : KernelFrame) : Bool := kernel.idWord &&& remoteFlag != 0

def isError (kernel : KernelFrame) : Bool := kernel.idWord &&& errorFlag != 0

/-! ## The library of kernel frames -/

/-- An identifier of eleven bits. -/
def StandardId : Type := { raw : BitVec 16 // raw.toNat < 1 <<< 11 }

/-- An identifier of 29 bits. -/
def ExtendedId : Type := { raw : BitVec 32 // raw.toNat < 1 <<< 29 }

theorem low_lt (word : BitVec 32) : ((word &&& baseMask).setWidth 16).toNat < 1 <<< 11 := by
  have hle : word.toNat &&& 0x7FF ≤ 0x7FF := Nat.and_le_right
  rw [BitVec.toNat_setWidth, BitVec.toNat_and]
  exact Nat.lt_of_le_of_lt (Nat.mod_le _ _) (Nat.lt_of_le_of_lt hle (by decide))

theorem masked_lt (word : BitVec 32) : (word &&& extendedMask).toNat < 1 <<< 29 := by
  have hle : word.toNat &&& 0x1FFFFFFF ≤ 0x1FFFFFFF := Nat.and_le_right
  rw [BitVec.toNat_and]
  exact Nat.lt_of_le_of_lt hle (by decide)

/-- The identifier word of a data frame. -/
def wordOf : EitherId StandardId ExtendedId → BitVec 32
  | .standard id => id.val.setWidth 32
  | .extended id => id.val ||| extendedFlag

/-- The library that makes and reads these kernel frames. -/
def library : FrameLibrary KernelFrame where
  Standard := StandardId
  Extended := ExtendedId
  standard? raw := if h : raw.toNat < 1 <<< 11 then some ⟨raw, h⟩ else none
  extended? raw := if h : raw.toNat < 1 <<< 29 then some ⟨raw, h⟩ else none
  standardRaw id := id.val
  extendedRaw id := id.val
  frame? id data := if data.length ≤ maxPayload then some ⟨wordOf id, data⟩ else none
  kind kernel := if kernel.isError then .error else if kernel.isRemote then .remote else .data
  id kernel :=
    if kernel.isExtended then .extended ⟨kernel.idWord &&& extendedMask, masked_lt kernel.idWord⟩
    else .standard ⟨(kernel.idWord &&& baseMask).setWidth 16, low_lt kernel.idWord⟩
  data kernel := kernel.data
  word kernel := kernel.idWord

/-- The kernel frame of a frame. -/
def ofFrame (frame : Frame) : Except Fault KernelFrame := library.ofFrame frame

/-- The data frame of a kernel frame. -/
def toFrame? (kernel : KernelFrame) : Option Frame := library.toFrame? kernel

end KernelFrame

end CanBus.SocketCan
