import CanBus.Acceptance.Bank
import Mathlib.Data.List.Induction

/-!
# Reconfiguration — a bank over many calls

Whatever calls are made of a bank, it holds the filters of the last call that succeeded and dead filters behind them
(`after_eq`).  So its acceptance is that of this one configuration (`after_accepts`): nothing of an earlier one is left,
and nothing comes of a call that failed.
-/

namespace CanBus.Bank

/-! ## One call -/

/-- The bank of a size that holds these filters. -/
def holding (size : Nat) (filters : List Filter) : Bank :=
  ⟨filters ++ List.replicate (size - filters.length) .dead⟩

theorem size_holding {size : Nat} {filters : List Filter} (h : filters.length ≤ size) :
    (holding size filters).size = size := by
  simp only [Bank.size, holding, List.length_append, List.length_replicate]
  omega

theorem accepts_holding (size : Nat) (filters : List Filter) (frame : Frame) :
    (holding size filters).accepts frame = acceptedBy filters frame := accepts_padded _ _ frame

/-- The slots behind the filters accept nothing. -/
theorem accepts_behind {size : Nat} {filters : List Filter} {slot : Filter}
    (h : slot ∈ (holding size filters).slots.drop filters.length) (frame : Frame) : slot.accepts frame = false := by
  rw [holding, List.drop_left] at h
  rw [List.eq_of_mem_replicate h, Filter.accepts_dead]

theorem reconfigure_of_le {bank : Bank} {filters : List Filter} (h : filters.length ≤ bank.size) :
    bank.reconfigure filters = .ok (holding bank.size filters) := if_pos h

theorem reconfigure_of_lt {bank : Bank} {filters : List Filter} (h : bank.size < filters.length) :
    bank.reconfigure filters = .error (.contract .moreFiltersThanSlots) := if_neg (Nat.not_le.2 h)

/-- The bank after a call, which a refused call leaves as it is. -/
def heed (bank : Bank) (filters : List Filter) : Bank := (bank.reconfigure filters).toOption.getD bank

theorem heed_of_le {bank : Bank} {filters : List Filter} (h : filters.length ≤ bank.size) :
    bank.heed filters = holding bank.size filters := by rw [heed, reconfigure_of_le h]; rfl

theorem heed_of_lt {bank : Bank} {filters : List Filter} (h : bank.size < filters.length) :
    bank.heed filters = bank := by rw [heed, reconfigure_of_lt h]; rfl

theorem size_heed (bank : Bank) (filters : List Filter) : (bank.heed filters).size = bank.size := by
  by_cases h : filters.length ≤ bank.size
  · rw [heed_of_le h, size_holding h]
  · rw [heed_of_lt (by omega)]

/-! ## Many calls -/

/-- The bank after calls, one after the other. -/
def after (bank : Bank) (calls : List (List Filter)) : Bank := calls.foldl heed bank

/-- The filters of the calls that succeed among calls, one after the other. -/
def successes (bank : Bank) : List (List Filter) → List (List Filter)
  | [] => []
  | filters :: calls =>
    match bank.reconfigure filters with
    | .ok bank => filters :: bank.successes calls
    | .error _ => bank.successes calls

/-- The filters of the last call that succeeded. -/
def installed? (bank : Bank) (calls : List (List Filter)) : Option (List Filter) := (bank.successes calls).getLast?

theorem after_concat (bank : Bank) (calls : List (List Filter)) (filters : List Filter) :
    bank.after (calls ++ [filters]) = (bank.after calls).heed filters := by simp [after]

theorem size_after (bank : Bank) (calls : List (List Filter)) : (bank.after calls).size = bank.size := by
  induction calls using List.reverseRecOn with
  | nil => rfl
  | append_singleton calls filters ih => rw [after_concat, size_heed, ih]

/-- A call succeeds if and only if the filters find room. -/
theorem successes_eq (bank : Bank) (calls : List (List Filter)) :
    bank.successes calls = calls.filter (·.length ≤ bank.size) := by
  induction calls generalizing bank with
  | nil => rfl
  | cons filters calls ih =>
    by_cases h : filters.length ≤ bank.size
    · rw [successes, reconfigure_of_le h]
      simp only [ih, size_holding h]
      rw [List.filter_cons_of_pos (by simpa using h)]
    · rw [successes, reconfigure_of_lt (by omega)]
      simp only [ih]
      rw [List.filter_cons_of_neg (by simpa using h)]

theorem installed?_concat (bank : Bank) (calls : List (List Filter)) (filters : List Filter) :
    bank.installed? (calls ++ [filters]) =
      if filters.length ≤ bank.size then some filters else bank.installed? calls := by
  simp only [installed?, successes_eq, List.filter_append]
  by_cases h : filters.length ≤ bank.size
  · simp [h]
  · simp [h]

/-- **The bank holds the last success.** -/
theorem after_eq (size : Nat) (calls : List (List Filter)) :
    (ofSize size).after calls = holding size (((ofSize size).installed? calls).getD []) := by
  induction calls using List.reverseRecOn with
  | nil => rfl
  | append_singleton calls filters ih =>
    have hsize : ((ofSize size).after calls).size = size := by rw [size_after, size_ofSize]
    rw [after_concat, installed?_concat, size_ofSize]
    by_cases h : filters.length ≤ size
    · rw [if_pos h, heed_of_le (hsize.symm ▸ h), hsize]
      rfl
    · rw [if_neg h, heed_of_lt (by omega), ih]

/-- **A bank over many calls.**  It keeps its size, and it accepts a frame if and only if some filter of the last call
that succeeded does; so nothing is accepted before a success or after an empty configuration, nor by any slot behind the
filters of that call.  A call succeeds if and only if there is a slot for each of its filters, and a call that fails
leaves the slots as they were.  Of the calls before the last success nothing is left. -/
theorem after_accepts (size : Nat) (calls : List (List Filter)) :
    let bank := (ofSize size).after calls
    let installed? := (ofSize size).installed? calls
    bank.size = size ∧
      (∀ frame, bank.accepts frame = true ↔
        ∃ filters, installed? = some filters ∧ ∃ filter ∈ filters, filter.accepts frame = true) ∧
      (installed? = none ∨ installed? = some [] → ∀ frame, bank.accepts frame = false) ∧
      (∀ slot ∈ bank.slots.drop (installed?.getD []).length, ∀ frame, slot.accepts frame = false) ∧
      (∀ filters, filters.length ≤ size → ∃ bank', bank.reconfigure filters = .ok bank') ∧
      (∀ filters, size < filters.length →
        bank.reconfigure filters = .error (.contract .moreFiltersThanSlots) ∧
          (bank.heed filters).slots = bank.slots) ∧
      ∀ calls', (ofSize size).installed? calls' = installed? → (ofSize size).after calls' = bank := by
  intro bank installed?
  have hbank : bank = holding size (installed?.getD []) := after_eq size calls
  have hsize : bank.size = size := by rw [size_after, size_ofSize]
  have haccepts : ∀ frame, bank.accepts frame = acceptedBy (installed?.getD []) frame := by
    intro frame
    rw [hbank, accepts_holding]
  refine ⟨hsize, fun frame => ?_, fun hnone frame => ?_, fun slot hslot frame => ?_, fun filters hle => ?_,
    fun filters hlt => ?_, fun calls' hcalls' => ?_⟩
  · rw [haccepts]
    cases installed? with
    | none => simp [acceptedBy]
    | some filters => simp [acceptedBy]
  · rw [haccepts]
    rcases hnone with hnone | hnone
    · rw [hnone]
      rfl
    · rw [hnone]
      rfl
  · rw [hbank] at hslot
    exact accepts_behind hslot frame
  · exact ⟨_, reconfigure_of_le (hsize.symm ▸ hle)⟩
  · have hroom : bank.size < filters.length := by omega
    exact ⟨reconfigure_of_lt hroom, by rw [heed_of_lt hroom]⟩
  · rw [after_eq, hcalls', hbank]

end CanBus.Bank
