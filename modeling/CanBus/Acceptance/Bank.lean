import CanBus.Acceptance.Filter

/-!
# Filter banks — a fixed number of slots, joined by "or"

Reconfiguring replaces every slot: slots without a filter of their own hold the dead filter, so no earlier
filter survives a shorter configuration.
-/

namespace CanBus

/-- Whether the frame passes some filter of the list. -/
def acceptedBy (filters : List Filter) (frame : Frame) : Bool := filters.any (·.accepts frame)

/-- A bank of acceptance filters. -/
structure Bank where
  slots : List Filter
  deriving DecidableEq, Repr

namespace Bank

/-- A bank in which every slot is dead. -/
def ofSize (size : Nat) : Bank := ⟨List.replicate size .dead⟩

def size (bank : Bank) : Nat := bank.slots.length

/-- Whether the frame passes some slot. -/
def accepts (bank : Bank) (frame : Frame) : Bool := acceptedBy bank.slots frame

/-- The bank with all slots replaced. -/
def reconfigure (bank : Bank) (filters : List Filter) : Except Fault Bank :=
  if filters.length ≤ bank.size then
    .ok ⟨filters ++ List.replicate (bank.size - filters.length) .dead⟩
  else .error (.contract .moreFiltersThanSlots)

@[simp] theorem accepts_tagged (bank : Bank) (frame : Frame) (b : Bool) :
    bank.accepts (frame.tagged b) = bank.accepts frame := by simp [accepts, acceptedBy]

/-- Dead filters behind others add nothing. -/
@[simp] theorem accepts_padded (filters : List Filter) (n : Nat) (frame : Frame) :
    (Bank.mk (filters ++ List.replicate n .dead)).accepts frame = acceptedBy filters frame := by
  simp [accepts, acceptedBy]

@[simp] theorem accepts_ofSize (n : Nat) (frame : Frame) : (ofSize n).accepts frame = false :=
  accepts_padded [] n frame

@[simp] theorem size_ofSize (n : Nat) : (ofSize n).size = n := by simp [ofSize, size]

theorem size_of_reconfigure {bank bank' : Bank} {filters : List Filter}
    (h : bank.reconfigure filters = .ok bank') : bank'.size = bank.size := by
  unfold reconfigure at h
  by_cases hlen : filters.length ≤ bank.size
  · rw [if_pos hlen] at h
    cases h
    simp [size] at hlen ⊢
    omega
  · simp [if_neg hlen] at h

theorem reconfigure_eq_error {bank : Bank} {filters : List Filter} {fault : Fault}
    (h : bank.reconfigure filters = .error fault) : fault = .contract .moreFiltersThanSlots := by
  unfold reconfigure at h
  by_cases hlen : filters.length ≤ bank.size
  · simp [if_pos hlen] at h
  · rw [if_neg hlen] at h
    exact (Except.error.inj h).symm

end Bank

end CanBus
