/-!
# Bitrates — the nine speeds that an SLCAN adapter can be set to
-/

namespace CanBus

/-- The speeds of a CAN bus. -/
inductive Bitrate where
  | kbit10
  | kbit20
  | kbit50
  | kbit100
  | kbit125
  | kbit250
  | kbit500
  | kbit800
  | mbit1
  deriving DecidableEq, Repr

namespace Bitrate

/-- All speeds, slowest first; the position of each is its code. -/
def all : List Bitrate := [kbit10, kbit20, kbit50, kbit100, kbit125, kbit250, kbit500, kbit800, mbit1]

/-- The code digit of the speed command. -/
def code : Bitrate → Char
  | kbit10 => '0'
  | kbit20 => '1'
  | kbit50 => '2'
  | kbit100 => '3'
  | kbit125 => '4'
  | kbit250 => '5'
  | kbit500 => '6'
  | kbit800 => '7'
  | mbit1 => '8'

/-- The name by which a user asks for the speed. -/
def name : Bitrate → String
  | kbit10 => "10k"
  | kbit20 => "20k"
  | kbit50 => "50k"
  | kbit100 => "100k"
  | kbit125 => "125k"
  | kbit250 => "250k"
  | kbit500 => "500k"
  | kbit800 => "800k"
  | mbit1 => "1m"

/-- The speed of a name, which is matched exactly. -/
def ofName? (s : String) : Option Bitrate := all.find? (·.name == s)

end Bitrate

end CanBus
