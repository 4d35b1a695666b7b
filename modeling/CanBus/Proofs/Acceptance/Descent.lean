import CanBus.Proofs.Acceptance.Rank

/-!
# Descent — ranks fall from step to step

A merge demands no more than the filters that it is made of, so it ranks no higher than either (`rank_merge_le`).  Once
every pair of a list is capped by a rank, a step leaves it capped (`Capped.step`): the pairs that it leaves were there
before, or have the new merge in them.  So each step caps all that come behind it, and the ranks of a reduction never
rise (`ranks_descend`).
-/

namespace CanBus

/-! ## One merge -/

namespace Filter

/-- A bit of the mask of a merge is one of the mask of its first filter. -/
theorem mask_of_merge {a b : Filter} {i : Nat} (h : (a.merge b).mask.getLsbD i = true) : a.mask.getLsbD i = true := by
  rw [mask_merge_getLsbD a b (BitVec.lt_of_getLsbD h), Bool.and_eq_true, Bool.and_eq_true] at h
  exact h.1.1

theorem demands_merge_le {a b : Filter} (hwidth : (a.merge b).width = a.width) : (a.merge b).demands ≤ a.demands := by
  rw [demands, demands, hwidth]
  exact List.countP_mono_left fun i _ => mask_of_merge

theorem rank_merge_le_left (a b : Filter) : (a.merge b).rank ≤ a.rank := by
  by_cases hformat : (a.merge b).format = a.format
  · have hwidth : (a.merge b).width = a.width := by rw [width, width, hformat]
    exact (rank_le_iff_demands hformat).2 (demands_merge_le hwidth)
  · -- the formats are not the same, so the merge takes both and the first filter does not
    have hne : a.format ≠ b.format := fun h => hformat (by rw [format_merge, if_pos h])
    have hnone : (a.merge b).format = none := by rw [format_merge, if_neg hne]
    have hsome : a.format ≠ none := fun h => hformat (hnone.trans h.symm)
    exact (rank_nonpos hnone).trans (rank_nonneg hsome)

/-- **A merge ranks no higher than its filters**, whatever their fields are. -/
theorem rank_merge_le (a b : Filter) : (a.merge b).rank ≤ min a.rank b.rank := by
  refine le_min (rank_merge_le_left a b) ?_
  rw [merge_comm]
  exact rank_merge_le_left b a

end Filter

/-! ## One step -/

namespace Reduction

/-- No two filters of the list have a merge that ranks above `cap`. -/
def Capped (cap : Int) (filters : List Filter) : Prop := filters.Pairwise fun a b => (a.merge b).rank ≤ cap

variable {cap : Int} {filters : List Filter}

/-- In which order the filters stand makes no difference. -/
theorem Capped.perm {others : List Filter} (h : Capped cap filters) (hperm : filters.Perm others) :
    Capped cap others := by
  refine (hperm.pairwise_iff fun {a b} hab => ?_).1 h
  rwa [Filter.merge_comm]

theorem capped_iff : Capped cap filters ↔ ∀ c ∈ candidates filters, c.merged.rank ≤ cap := by
  constructor
  · intro h c hc
    obtain ⟨a, b, ha, hb, hne, hmerged⟩ := mem_candidates.1 hc
    obtain ⟨hi, rfl⟩ := List.getElem?_eq_some_iff.1 ha
    obtain ⟨hj, rfl⟩ := List.getElem?_eq_some_iff.1 hb
    rw [hmerged]
    rcases Nat.lt_or_gt_of_ne hne with hlt | hgt
    · exact List.pairwise_iff_getElem.1 h _ _ hi hj hlt
    · rw [Filter.merge_comm]
      exact List.pairwise_iff_getElem.1 h _ _ hj hi hgt
  · intro h
    refine List.pairwise_iff_getElem.2 fun i j hi hj hlt => ?_
    have hpair : (⟨i, j, filters[i].merge filters[j]⟩ : Candidate) ∈ candidates filters :=
      mem_candidates.2 ⟨_, _, List.getElem?_eq_getElem hi, List.getElem?_eq_getElem hj, hlt.ne, rfl⟩
    exact h _ hpair

/-- The pair of a step caps the list that it is chosen from. -/
theorem Foremost.capped {chosen : Candidate} (h : Foremost (candidates filters) chosen) :
    Capped chosen.merged.rank filters :=
  capped_iff.2 fun c hc => (h.2 c hc).1

/-- **A step keeps a cap.**  A pair that is left was there before, or the new merge is in it, which ranks no higher than
the cap itself. -/
theorem Capped.step (h : Capped cap filters) {candidate : Candidate} (hmem : candidate ∈ candidates filters) :
    Capped cap (candidate.applyTo filters) := by
  have hrank : candidate.merged.rank ≤ cap := capped_iff.1 h candidate hmem
  obtain ⟨_, _, ha, -, -, -⟩ := mem_candidates.1 hmem
  have hkeep : candidate.keep < filters.length := (List.getElem?_eq_some_iff.1 ha).1
  have hmerged : ∀ other, (candidate.merged.merge other).rank ≤ cap := fun other =>
    (Filter.rank_merge_le_left candidate.merged other).trans hrank
  have hfront : Capped cap (candidate.merged :: filters.eraseIdx candidate.keep) :=
    List.pairwise_cons.2 ⟨fun other _ => hmerged other, h.sublist (List.eraseIdx_sublist _ _)⟩
  have hset : Capped cap (filters.set candidate.keep candidate.merged) :=
    hfront.perm (List.set_perm_cons_eraseIdx hkeep candidate.merged).symm
  exact hset.sublist (List.eraseIdx_sublist _ _)

/-! ## All steps -/

/-- A cap holds throughout a reduction. -/
theorem Capped.steps (h : Capped cap filters) (target : Nat) :
    ∀ step ∈ steps filters target, step.chosen.merged.rank ≤ cap := by
  fun_induction Reduction.steps filters target with
  | case1 filters hlt hbest => simp
  | case2 filters hlt candidate hbest ih =>
    have hmem := best?_mem hbest
    exact List.forall_mem_cons.2 ⟨capped_iff.1 h candidate hmem, ih (h.step hmem)⟩
  | case3 filters hle => simp

theorem steps_descend (filters : List Filter) (target : Nat) :
    (steps filters target).Pairwise fun step later => later.chosen.merged.rank ≤ step.chosen.merged.rank := by
  fun_induction steps filters target with
  | case1 filters hlt hbest => exact .nil
  | case2 filters hlt candidate hbest ih =>
    have hcapped : Capped candidate.merged.rank (candidate.applyTo filters) :=
      (best?_eq_some_iff.1 hbest).capped.step (best?_mem hbest)
    exact List.pairwise_cons.2 ⟨hcapped.steps target, ih⟩
  | case3 filters hle => exact .nil

/-- **Greedy ranks never rise.**  A merge of filters with any fields ranks no higher than either of them.  A reduction
takes its steps one after the other, each with the pair that the scan of the list before it chooses, and no step takes a
merge that ranks higher than one taken before. -/
theorem ranks_descend :
    (∀ a b : Filter, (a.merge b).rank ≤ min a.rank b.rank) ∧
      ∀ (filters : List Filter) (target : Nat),
        (1 ≤ target → ∃ reduced, reduce filters target = .ok reduced ∧
          Traces filters (steps filters target) reduced) ∧
        (∀ step ∈ steps filters target, best? step.filters = some step.chosen) ∧
        ((steps filters target).map (·.chosen.merged.rank)).Pairwise (· ≥ ·) := by
  refine ⟨Filter.rank_merge_le, fun filters target => ⟨fun ht => ?_, fun step hstep => ?_, ?_⟩⟩
  · exact ⟨shrink filters target, if_neg (by omega), traces_steps filters target⟩
  · exact (best?_of_mem_steps hstep).2
  · exact List.pairwise_map.2 (steps_descend filters target)

/-- `ranks_descend` on filters of both formats for one slot: the first step stays in one format, the second does not. -/
theorem ranks_descend_neighbours :
    1 ≤ 1 ∧ (∃ reduced, reduce neighbours 1 = .ok reduced ∧ Traces neighbours (steps neighbours 1) reduced) ∧
      (steps neighbours 1).map (·.chosen.merged.rank) = [10, -24] ∧ ([10, -24] : List Int).Pairwise (· ≥ ·) := by
  have hfirst : best? neighbours = some ⟨0, 1, ⟨0x100, 0x7FE, some .base⟩⟩ := by decide
  have hsecond : best? ((⟨0, 1, ⟨0x100, 0x7FE, some .base⟩⟩ : Candidate).applyTo neighbours) =
      some ⟨0, 1, ⟨0, 0x4CA, none⟩⟩ := by decide
  have hranks : (steps neighbours 1).map (·.chosen.merged.rank) = [10, -24] := by
    rw [steps_of_best (by decide) hfirst, steps_of_best (by decide) hsecond, steps_of_length_le (by decide)]
    decide
  obtain ⟨hrun, -, hdescend⟩ := ranks_descend.2 neighbours 1
  rw [hranks] at hdescend
  exact ⟨by decide, hrun (by decide), hranks, hdescend⟩

end Reduction

end CanBus
