import CanBus.Proofs.Acceptance.Reduction
import Mathlib.Data.List.MinMax

/-!
# Steps of a reduction — which pair each step takes

`steps` lists what a reduction does: the list that each step starts from and the candidate that it takes
(`traces_steps`).  The scan goes through the pairs in lexicographic order and keeps the earlier of two candidates that
rank alike, so a step takes the lexicographically first candidate of the highest rank (`best?_eq_some_iff`).
-/

namespace CanBus.Reduction

/-! ## The steps -/

/-- One step: the list that it starts from and the candidate that it takes. -/
structure Step where
  filters : List Filter
  chosen : Candidate
  deriving DecidableEq, Repr

/-- The steps that reduce a list to the target. -/
def steps (filters : List Filter) (target : Nat) : List Step :=
  if target < filters.length then
    match _chosen : best? filters with
    | none => []
    | some candidate => ⟨filters, candidate⟩ :: steps (candidate.applyTo filters) target
  else []
termination_by filters.length
decreasing_by
  have := length_applyTo (best?_mem _chosen)
  omega

/-- The steps lead from one list to another, each from the list that the one before leaves. -/
def Traces : List Filter → List Step → List Filter → Prop
  | first, [], last => first = last
  | first, step :: rest, last => step.filters = first ∧ Traces (step.chosen.applyTo first) rest last

theorem steps_of_length_le {filters : List Filter} {target : Nat} (h : filters.length ≤ target) :
    steps filters target = [] := by
  rw [steps, if_neg (by omega)]

theorem steps_of_none {filters : List Filter} {target : Nat} (hbest : best? filters = none) :
    steps filters target = [] := by
  rw [steps]
  split
  · split
    · rfl
    · next hsome => simp [hbest] at hsome
  · rfl

theorem steps_of_best {filters : List Filter} {target : Nat} {candidate : Candidate} (hlt : target < filters.length)
    (hbest : best? filters = some candidate) :
    steps filters target = ⟨filters, candidate⟩ :: steps (candidate.applyTo filters) target := by
  rw [steps, if_pos hlt]
  split
  · next hnone => simp [hbest] at hnone
  · next chosen hchosen =>
    obtain rfl : candidate = chosen := by simpa [hbest] using hchosen
    rfl

theorem traces_steps (filters : List Filter) (target : Nat) :
    Traces filters (steps filters target) (shrink filters target) := by
  fun_induction shrink filters target with
  | case1 filters hlt hbest =>
    rw [steps_of_none hbest]
    rfl
  | case2 filters hlt candidate hbest ih =>
    rw [steps_of_best hlt hbest]
    exact ⟨rfl, ih⟩
  | case3 filters hle =>
    rw [steps_of_length_le (by omega)]
    rfl

/-- Every step is made by the scan of a list that is too long. -/
theorem best?_of_mem_steps {filters : List Filter} {target : Nat} {step : Step} (h : step ∈ steps filters target) :
    target < step.filters.length ∧ best? step.filters = some step.chosen := by
  fun_induction steps filters target with
  | case1 filters hlt hbest => simp at h
  | case2 filters hlt candidate hbest ih =>
    rcases List.mem_cons.1 h with rfl | hrest
    · exact ⟨hlt, hbest⟩
    · exact ih hrest
  | case3 filters hle => simp at h

/-! ## The order of the scan -/

/-- The scan comes to one pair before it comes to the other. -/
def Candidate.Before (c d : Candidate) : Prop := c.keep < d.keep ∨ c.keep = d.keep ∧ c.drop < d.drop

theorem Candidate.Before.asymm {c d : Candidate} (h : c.Before d) : ¬ d.Before c := by
  unfold Before at *
  omega

theorem zipIdx_pairwise (filters : List Filter) : filters.zipIdx.Pairwise fun p q => p.2 < q.2 := by
  have h : (filters.zipIdx.map (·.2)).Pairwise (· < ·) := by
    rw [List.zipIdx_map_snd]
    exact List.pairwise_lt_range' 1
  exact List.pairwise_map.1 h

theorem candidates_pairwise (filters : List Filter) : (candidates filters).Pairwise Candidate.Before := by
  refine List.pairwise_flatMap.2 ⟨fun p _ => ?_, ?_⟩
  · -- the pairs with one first member
    refine List.pairwise_filterMap.2 ((zipIdx_pairwise filters).imp fun {q r} hqr c hc d hd => ?_)
    simp only [Option.ite_none_left_eq_some, Option.some.injEq] at hc hd
    obtain ⟨-, rfl⟩ := hc
    obtain ⟨-, rfl⟩ := hd
    exact .inr ⟨rfl, hqr⟩
  · refine (zipIdx_pairwise filters).imp fun {p q} hpq c hc d hd => ?_
    simp only [List.mem_filterMap, Option.ite_none_left_eq_some, Option.some.injEq] at hc hd
    obtain ⟨_, -, -, rfl⟩ := hc
    obtain ⟨_, -, -, rfl⟩ := hd
    exact .inl hpq

/-- In a list that goes by this order, an earlier place means an earlier pair. -/
theorem idxOf_le_iff {cs : List Candidate} (hcs : cs.Pairwise Candidate.Before) {c d : Candidate} (hc : c ∈ cs)
    (hd : d ∈ cs) : cs.idxOf c ≤ cs.idxOf d ↔ d = c ∨ c.Before d := by
  have hbefore : ∀ {x y : Candidate}, x ∈ cs → y ∈ cs → cs.idxOf x < cs.idxOf y → x.Before y := by
    intro x y hx hy hlt
    have hpair := List.pairwise_iff_getElem.1 hcs _ _ (List.idxOf_lt_length_of_mem hx)
      (List.idxOf_lt_length_of_mem hy) hlt
    simpa using hpair
  constructor
  · intro hle
    rcases Nat.lt_or_eq_of_le hle with hlt | heq
    · exact .inr (hbefore hc hd hlt)
    · exact .inl ((List.idxOf_inj hc).1 heq).symm
  · rintro (rfl | h)
    · exact Nat.le_refl _
    · by_contra hlt
      exact h.asymm (hbefore hd hc (by omega))

/-! ## The choice -/

/-- No candidate ranks above the chosen one, and those that rank as high come behind it. -/
def Foremost (cs : List Candidate) (chosen : Candidate) : Prop :=
  chosen ∈ cs ∧ ∀ c ∈ cs, c.merged.rank ≤ chosen.merged.rank ∧
    (c.merged.rank = chosen.merged.rank → c = chosen ∨ chosen.Before c)

theorem foldl_prefer_eq_some_iff {cs : List Candidate} (hcs : cs.Pairwise Candidate.Before) {chosen : Candidate} :
    cs.foldl prefer none = some chosen ↔ Foremost cs chosen := by
  -- the scan keeps a maximum, and of several the one that it met first, as `argmax` does
  have hprefer : prefer = List.argAux fun c d : Candidate => d.merged.rank < c.merged.rank := by
    funext best c
    cases best with
    | none => rfl
    | some chosen => rfl
  have hargmax : cs.foldl prefer none = cs.argmax (·.merged.rank) := by rw [hprefer, List.argmax]
  rw [hargmax, List.argmax_eq_some_iff]
  constructor
  · rintro ⟨hmem, hle, hfirst⟩
    refine ⟨hmem, fun c hc => ⟨hle c hc, fun heq => ?_⟩⟩
    exact (idxOf_le_iff hcs hmem hc).1 (hfirst c hc heq.symm.le)
  · rintro ⟨hmem, hforemost⟩
    refine ⟨hmem, fun c hc => (hforemost c hc).1, fun c hc hge => ?_⟩
    obtain ⟨hle, hfirst⟩ := hforemost c hc
    exact (idxOf_le_iff hcs hmem hc).2 (hfirst (hle.antisymm hge))

theorem candidates_of_best?_eq_none {filters : List Filter} (h : best? filters = none) : candidates filters = [] := by
  by_contra hne
  have hsome : (best? filters).isSome := foldl_prefer_isSome (.inr hne)
  simp [h] at hsome

/-- **A step takes the first of the best pairs.** -/
theorem best?_eq_some_iff {filters : List Filter} {chosen : Candidate} :
    best? filters = some chosen ↔ Foremost (candidates filters) chosen :=
  foldl_prefer_eq_some_iff (candidates_pairwise filters)

end CanBus.Reduction
