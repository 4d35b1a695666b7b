import CanBus.Fault

/-!
# Phases — created, started, closed

Each step is taken at most once; an operation outside its phase gives `Fault.closed`.
-/

namespace CanBus

/-- The phase of an adapter. -/
inductive Phase where
  | created
  | started
  | closed
  deriving DecidableEq, Repr

namespace Phase

def label : Phase → String
  | .created => "Created"
  | .started => "Started"
  | .closed => "Closed"

/-- The phase after starting. -/
def start : Phase → Except Fault Phase
  | .created => .ok .started
  | _ => .error .closed

/-- Refuses any phase but `created`. -/
def requireCreated : Phase → Except Fault Unit
  | .created => .ok ()
  | _ => .error .closed

/-- Refuses any phase but `started`. -/
def requireStarted : Phase → Except Fault Unit
  | .started => .ok ()
  | _ => .error .closed

/-- The phase after closing, allowed once. -/
def close : Phase → Except Fault Phase
  | .closed => .error .closed
  | _ => .ok .closed

theorem start_eq_ok_iff {phase phase' : Phase} :
    phase.start = .ok phase' ↔ phase = .created ∧ phase' = .started := by
  cases phase <;> simp [start, eq_comm]

theorem start_of_ne {phase : Phase} (h : phase ≠ .created) : phase.start = .error .closed := by
  cases phase with
  | created => exact absurd rfl h
  | started => rfl
  | closed => rfl

theorem requireCreated_of_ne {phase : Phase} (h : phase ≠ .created) : phase.requireCreated = .error .closed := by
  cases phase with
  | created => exact absurd rfl h
  | started => rfl
  | closed => rfl

theorem requireStarted_of_ne {phase : Phase} (h : phase ≠ .started) : phase.requireStarted = .error .closed := by
  cases phase with
  | created => rfl
  | started => exact absurd rfl h
  | closed => rfl

theorem requireStarted_eq_ok_iff {phase : Phase} : phase.requireStarted = .ok () ↔ phase = .started := by
  cases phase <;> simp [requireStarted]

theorem close_eq_ok_iff {phase phase' : Phase} :
    phase.close = .ok phase' ↔ phase ≠ .closed ∧ phase' = .closed := by
  cases phase <;> simp [close, eq_comm]

end Phase

end CanBus
