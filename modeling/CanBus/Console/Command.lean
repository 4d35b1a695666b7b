import CanBus.Console.Backend
import CanBus.Slcan.Bitrate

/-!
# Commands — what a user can ask for, once the arguments are understood
-/

namespace CanBus.Console

/-- Which medium to open. -/
structure Target where
  device : String
  backend : Backend
  bitrate : Option Bitrate
  deriving DecidableEq, Repr

/-- A command with its choices.  Times are in milliseconds. -/
inductive Command where
  | list (backend : Backend)
  | sniff (target : Target) (count idle : Nat) (filters : List String) (log : Option String)
  | send (target : Target) (id : String) (data : List String) (extended : Bool)
  | doctor (target : Target) (id : String) (data : List String) (patience : Nat)
  | replay (target : Target) (path : String) (realtime : Bool)
  | selfTest
  deriving DecidableEq, Repr

/-- What the arguments ask for. -/
inductive Request where
  | run (deadline : Nat) (command : Command)
  | version
  | help
  | misuse
  deriving DecidableEq, Repr

end CanBus.Console
