import CanBus.Device

/-!
# Backends — what a user can ask a medium to be
-/

namespace CanBus.Console

/-- The choices of a user. -/
inductive Backend where
  | auto
  | virtual
  | slcan
  | socketCan
  deriving DecidableEq, Repr

namespace Backend

def all : List Backend := [auto, virtual, slcan, socketCan]

/-- The name by which a user chooses. -/
def name : Backend → String
  | auto => "auto"
  | virtual => "mock"
  | slcan => "slcan"
  | socketCan => "socketcan"

/-- The name under which a choice is reported. -/
def label : Backend → String
  | auto => "Auto"
  | virtual => "Mock"
  | slcan => "Slcan"
  | socketCan => "Socketcan"

/-- The choice of a name, which is matched exactly. -/
def ofName? (s : String) : Option Backend := all.find? (·.name == s)

/-- The choice for a device: left open, it is a virtual bus for names that begin with `mock`. -/
def resolve (backend : Backend) (device : String) : Backend :=
  match backend with
  | auto => if "mock".toList.isPrefixOf device.toList then virtual else auto
  | other => other

end Backend

end CanBus.Console
