import CanBus.Request
import CanBus.SocketCan.Adapter

/-!
# Kernel socket sessions — an adapter between its user and its socket
-/

namespace CanBus.SocketCan

/-- The adapter after a request, the reply, and the handler calls. -/
structure Reaction where
  adapter : Adapter
  reply : Reply
  deliveries : List Delivery
  deriving DecidableEq

/-- The reaction to a request. -/
def Adapter.respond (adapter : Adapter) : Request → Reaction
  | .start noRetransmit failsAt =>
    let (adapter, fault?) := adapter.start noRetransmit failsAt
    ⟨adapter, .ofFault? fault?, []⟩
  | .configure filters =>
    let (adapter, fault?) := adapter.configure filters
    ⟨adapter, .ofFault? fault?, []⟩
  | .send frames inTime =>
    let sent := adapter.sendWithin frames inTime
    ⟨sent.adapter, .ofOutcome sent.outcome, sent.deliveries⟩
  | .close =>
    let (adapter, fault?) := adapter.close
    ⟨adapter, .ofFault? fault?, []⟩

end CanBus.SocketCan
