import CanBus.Receiver

/-!
# Requests — what the user of an adapter asks of it

The same requests go to every kind of adapter, and every kind replies in the same terms.
-/

namespace CanBus

/-- A request.  The time of a transmission is over after `inTime` frames. -/
inductive Request where
  | start (noRetransmit : Bool) (failsAt : List Nat)
  | configure (filters : List Filter)
  | send (frames : List Frame) (inTime : Nat)
  | close
  deriving DecidableEq

/-- The reply to a request. -/
inductive Reply where
  | done
  | sent (count : Nat)
  | refused (fault : Fault)
  | handlerFailed
  deriving DecidableEq

/-- The fault of a refusal. -/
def Reply.fault? : Reply → Option Fault
  | .refused fault => some fault
  | _ => none

theorem Reply.fault?_eq_some_iff {reply : Reply} {fault : Fault} :
    reply.fault? = some fault ↔ reply = .refused fault := by
  cases reply <;> simp [fault?]

/-- The reply to a transmission. -/
def Reply.ofOutcome : Outcome Nat → Reply
  | .done count => .sent count
  | .refused fault => .refused fault
  | .handlerFailed => .handlerFailed

theorem Reply.ofOutcome_eq_handlerFailed {outcome : Outcome Nat} (h : ofOutcome outcome = .handlerFailed) :
    outcome = .handlerFailed := by
  cases outcome with
  | handlerFailed => rfl
  | done count => cases h
  | refused fault => cases h

theorem Reply.ofOutcome_eq_refused {outcome : Outcome Nat} {fault : Fault} (h : ofOutcome outcome = .refused fault) :
    outcome = .refused fault := by
  cases outcome with
  | refused met =>
    cases h
    rfl
  | done count => cases h
  | handlerFailed => cases h

/-- The reply to a request that was refused with a fault or else done. -/
def Reply.ofFault? : Option Fault → Reply
  | none => .done
  | some fault => .refused fault

end CanBus
