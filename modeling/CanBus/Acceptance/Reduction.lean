import CanBus.Acceptance.Bank

/-!
# Reduction — fitting many filters into few slots

One step merges the pair of filters whose merge ranks highest, the first such pair in scan order.  The merge
takes the place of the pair's first member and the second member is removed.  `shrink` steps on while the list is
too long, and ends because each step takes one filter off the list.
-/

namespace CanBus.Reduction

/-- A pair of positions and the merge of the filters there. -/
structure Candidate where
  keep : Nat
  drop : Nat
  merged : Filter
  deriving DecidableEq, Repr

/-- Every ordered pair of different positions, in the order of the scan. -/
def candidates (filters : List Filter) : List Candidate :=
  filters.zipIdx.flatMap fun (a, i) =>
    filters.zipIdx.filterMap fun (b, j) => if i = j then none else some ⟨i, j, a.merge b⟩

/-- The earlier choice stands unless the new candidate ranks strictly higher. -/
def prefer (best : Option Candidate) (candidate : Candidate) : Option Candidate :=
  match best with
  | none => some candidate
  | some chosen => if chosen.merged.rank < candidate.merged.rank then some candidate else some chosen

/-- The first candidate of the highest rank. -/
def best? (filters : List Filter) : Option Candidate := (candidates filters).foldl prefer none

/-- The list with the candidate's merge in the place of its pair. -/
def Candidate.applyTo (candidate : Candidate) (filters : List Filter) : List Filter :=
  (filters.set candidate.keep candidate.merged).eraseIdx candidate.drop

theorem mem_candidates {filters : List Filter} {candidate : Candidate} :
    candidate ∈ candidates filters ↔
      ∃ a b, filters[candidate.keep]? = some a ∧ filters[candidate.drop]? = some b ∧
        candidate.keep ≠ candidate.drop ∧ candidate.merged = a.merge b := by
  obtain ⟨i, j, merged⟩ := candidate
  simp only [candidates, List.mem_flatMap, List.mem_filterMap, Prod.exists, List.mem_zipIdx_iff_getElem?]
  constructor
  · rintro ⟨a, i', ha, b, j', hb, h⟩
    by_cases hij : i' = j'
    · rw [if_pos hij] at h
      cases h
    · rw [if_neg hij] at h
      cases h
      exact ⟨a, b, ha, hb, hij, rfl⟩
  · rintro ⟨a, b, ha, hb, hij, rfl⟩
    exact ⟨a, i, ha, b, j, hb, if_neg hij⟩

theorem foldl_prefer_mem {cs : List Candidate} {best : Option Candidate} {candidate : Candidate}
    (h : cs.foldl prefer best = some candidate) : best = some candidate ∨ candidate ∈ cs := by
  induction cs generalizing best with
  | nil => exact .inl h
  | cons c cs ih =>
    rcases ih h with hbest | hmem
    · cases best with
      | none =>
        cases hbest
        exact .inr (List.mem_cons_self ..)
      | some chosen =>
        rw [prefer] at hbest
        by_cases hrank : chosen.merged.rank < c.merged.rank
        · rw [if_pos hrank] at hbest
          cases hbest
          exact .inr (List.mem_cons_self ..)
        · rw [if_neg hrank] at hbest
          exact .inl hbest
    · exact .inr (List.mem_cons_of_mem _ hmem)

theorem best?_mem {filters : List Filter} {candidate : Candidate} (h : best? filters = some candidate) :
    candidate ∈ candidates filters := by
  rcases foldl_prefer_mem h with hnone | hmem
  · cases hnone
  · exact hmem

/-- A candidate takes one filter off the list. -/
theorem length_applyTo {filters : List Filter} {candidate : Candidate} (h : candidate ∈ candidates filters) :
    (candidate.applyTo filters).length + 1 = filters.length := by
  obtain ⟨_, b, -, hb, -, -⟩ := mem_candidates.1 h
  have hdrop : candidate.drop < filters.length := (List.getElem?_eq_some_iff.1 hb).1
  rw [Candidate.applyTo, List.length_eraseIdx_of_lt (by simpa using hdrop), List.length_set]
  omega

/-- Merge greedily while the list is longer than `target`; a list without a pair stays as it is. -/
def shrink (filters : List Filter) (target : Nat) : List Filter :=
  if target < filters.length then
    match _chosen : best? filters with
    | none => filters
    | some candidate => shrink (candidate.applyTo filters) target
  else filters
termination_by filters.length
decreasing_by
  have := length_applyTo (best?_mem _chosen)
  omega

/-- At most `target` filters that accept everything the given ones accept. -/
def reduce (filters : List Filter) (target : Nat) : Except Fault (List Filter) :=
  if target < 1 then .error (.contract .targetNotPositive) else .ok (shrink filters target)

end CanBus.Reduction
