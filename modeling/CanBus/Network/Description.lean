import CanBus.Network.Basic

/-!
# Descriptions — how stations and what they collected are shown
-/

namespace CanBus

/-- The number under which a bus is shown, from one. -/
def Network.busNumber (bus : Nat) : Nat := bus + 1

/-- The name of a station, shared by all stations of its bus. -/
def Station.name (station : Station) : String :=
  "mock@" ++ String.ofList (Hex.lower 8 (Network.busNumber station.bus))

/-- One line that shows a station. -/
def Station.describe (station : Station) : String :=
  "MockMedia(interface_name='" ++ station.name ++ "', mtu=" ++ toString station.mtu ++ ")"

/-- A collected frame with all its fields and the time `stamp` at which it came. -/
def Frame.describe (frame : Frame) (stamp : String) : String :=
  "TimestampedDataFrame \x7b frame: DataFrame \x7b identifier: " ++ toString frame.id.toNat ++ ", data: [" ++
    String.intercalate ", " (frame.payload.map fun b => toString b.toNat) ++ "], format: " ++
    (match frame.format with
      | .base => "Base"
      | .extended => "Extended") ++
    ", loopback: " ++ toString frame.loopback ++ " \x7d, timestamp: " ++ stamp ++ " \x7d"

/-- All that a receiver has collected and nobody has taken yet. -/
def Receiver.describe (receiver : Receiver) (stamp : String) : String :=
  "FrameSink \x7b collected: [" ++
    String.intercalate ", " (receiver.collected.map (·.describe stamp)) ++ "] \x7d"

end CanBus
