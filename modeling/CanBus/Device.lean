/-!
# Devices — which family of adapter a device name belongs to

Names of serial ports are `/dev/…` and `COM…`; the latter in either case, and with the backslashes and dots of
longer spellings such as `\\.\COM12` left out.  Anything else names a kernel interface.
-/

namespace CanBus.Device

/-- The families of adapters. -/
inductive Family where
  | serialLine
  | kernelSocket
  deriving DecidableEq, Repr

/-- The name without backslashes and dots, in lower case.  Only the letters `C`, `O` and `M` have the lower cases
`c`, `o` and `m`, so it is enough to know the case of ASCII. -/
def plainName (name : List Char) : List Char :=
  (name.filter fun c => c != '\\' && c != '.').map Char.toLower

/-- The family that a device name belongs to. -/
def family (name : String) : Family :=
  if "com".toList.isPrefixOf (plainName name.toList) || "/dev/".toList.isPrefixOf name.toList then .serialLine
  else .kernelSocket

end CanBus.Device
