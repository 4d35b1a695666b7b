/-!
# Guarded values — values behind a lock that can be poisoned

Who fails while holding a lock poisons it.  From then on the lock gives its value inside an error, which says no more
than that somebody failed; the value is there as before.  `lock` takes it in either case: a handler that fails must not
wedge the bus.
-/

namespace CanBus

/-- A value behind a lock, and whether a holder of the lock has failed. -/
structure Guarded (α : Type) where
  value : α
  poisoned : Bool
  deriving DecidableEq, Repr

namespace Guarded

variable {α : Type}

/-- A value behind a lock that nobody has held yet. -/
def fresh (value : α) : Guarded α := ⟨value, false⟩

/-- What the lock gives. -/
def acquire (guarded : Guarded α) : Except α α :=
  if guarded.poisoned then .error guarded.value else .ok guarded.value

/-- The value, whether or not the lock is poisoned. -/
def lock (guarded : Guarded α) : α :=
  match guarded.acquire with
  | .ok value => value
  | .error value => value

/-- Replace the value.  A poisoned lock stays so. -/
def set (guarded : Guarded α) (value : α) : Guarded α := { guarded with value := value }

/-- A holder of the lock fails. -/
def poison (guarded : Guarded α) : Guarded α := { guarded with poisoned := true }

/-- Poison is ignored. -/
theorem lock_eq (guarded : Guarded α) : guarded.lock = guarded.value := by
  unfold lock acquire
  cases guarded.poisoned <;> rfl

@[simp] theorem lock_fresh (value : α) : (fresh value).lock = value := rfl

@[simp] theorem lock_set (guarded : Guarded α) (value : α) : (guarded.set value).lock = value := lock_eq _

@[simp] theorem lock_poison (guarded : Guarded α) : guarded.poison.lock = guarded.lock := by
  rw [lock_eq, lock_eq]
  rfl

/-- A poisoned lock gives its value inside an error. -/
theorem acquire_of_poisoned {guarded : Guarded α} (h : guarded.poisoned = true) :
    guarded.acquire = .error guarded.lock := by
  rw [acquire, if_pos h, lock_eq]

end Guarded

end CanBus
