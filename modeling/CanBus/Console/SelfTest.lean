import CanBus.Network.Description
import CanBus.Network.Operation

/-!
# The self-test — two stations on one bus, step by step

Station 0 sends and station 1 listens; each observation has a name and comes out true or false.
-/

namespace CanBus.Console.SelfTest

open Network (Operation)

/-- The frames sent: the second asks to be handed back. -/
def batch : List Frame :=
  [⟨123, [0x61, 0x62, 0x63], .extended, false, by decide, by decide⟩,
    ⟨123, [0x64, 0x65, 0x66], .extended, true, by decide, by decide⟩]

/-- Both stations started, with dead filters. -/
def begun : Network :=
  Network.empty.after [.addBus, .join 0 64 3, .join 0 8 1, .start 0 false [], .start 1 false []]

/-- The frames that a station has collected. -/
def collected (net : Network) (n : Nat) : List Frame := ((net.station? n).map (·.receiver.collected)).getD []

/-- The line that introduces the two stations. -/
def title : String :=
  let shown (n : Nat) : String := ((begun.station? n).map (·.describe)).getD ""
  "selftest: " ++ shown 0 ++ " and " ++ shown 1 ++ " on one bus"

/-- The sender hears everything, and has sent the batch. -/
def sentOnce : Network := begun.after [.configure 0 [.promiscuous none], .send 0 batch]

/-- The listener hears identifiers that agree with 123 in the lowest seven bits, and the batch was sent again. -/
def sentTwice : Network := sentOnce.after [.pop 0, .configure 1 [⟨123, 127, none⟩], .send 0 batch]

/-- What the listener has heard is taken, and a fault is armed. -/
def armed : Network := sentTwice.after [.pop 1, .pop 1, .arm 0 (.driver "injected")]

/-- The sender has met the fault and left. -/
def left : Network := armed.after [.send 0 batch, .send 0 batch, .close 0]

/-- The observations in order. -/
def observations : List (String × Bool) :=
  let failed := armed.apply (.send 0 batch)
  [("peer with default filters hears nothing", collected sentOnce 1 = []),
    ("sender sees only its loopback frame", collected sentOnce 0 = (batch.filter (·.loopback))),
    ("peer receives both frames in order, never as loopback",
      collected sentTwice 1 = batch.map (·.tagged false)),
    ("injected fault surfaces once",
      failed.answer = .refused (.driver "injected") ∧ collected failed.net 1 = []),
    ("next send succeeds", (failed.net.apply (.send 0 batch)).answer = .sent batch.length),
    ("closed adapter leaves the bus", left.contains 0 0 = false ∧ left.contains 0 1 = true),
    ("closed adapter rejects I/O", (left.apply (.send 0 batch)).answer = .refused .closed)]

end CanBus.Console.SelfTest
