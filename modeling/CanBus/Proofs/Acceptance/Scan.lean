import CanBus.Proofs.Acceptance.Steps
import Mathlib.Data.List.Sort

/-!
# The scan — pairs looked at once, filters kept in order

Merging is commutative, so of a pair and its mirror image the scan keeps the one whose first member is the earlier
filter (`Foremost.keep_lt_drop`), and looking at each pair once reduces a list to the same filters
(`halfReduce_eq`).  A step therefore takes out the later filter of its pair: the filters of a reduced list stand in the
order of the earliest positions that they were merged from (`Stand.shrink`).
-/

namespace CanBus.Reduction

/-! ## The pair of a step -/

theorem mirror_mem {filters : List Filter} {c : Candidate} (h : c ∈ candidates filters) :
    (⟨c.drop, c.keep, c.merged⟩ : Candidate) ∈ candidates filters := by
  obtain ⟨a, b, ha, hb, hne, hmerged⟩ := mem_candidates.1 h
  exact mem_candidates.2 ⟨b, a, hb, ha, hne.symm, by rw [Filter.merge_comm, hmerged]⟩

/-- The earlier filter of the pair is kept. -/
theorem Foremost.keep_lt_drop {filters : List Filter} {chosen : Candidate}
    (h : Foremost (candidates filters) chosen) : chosen.keep < chosen.drop := by
  obtain ⟨hmem, hforemost⟩ := h
  obtain ⟨_, _, _, _, hne, _⟩ := mem_candidates.1 hmem
  rcases (hforemost _ (mirror_mem hmem)).2 rfl with hsame | hbefore
  · have hkeep : chosen.drop = chosen.keep := congrArg Candidate.keep hsame
    omega
  · simp only [Candidate.Before] at hbefore
    omega

/-! ## Each pair once -/

/-- Every pair of positions, the earlier one first, in the order of the scan. -/
def halfCandidates (filters : List Filter) : List Candidate :=
  filters.zipIdx.flatMap fun (a, i) => (filters.zipIdx.drop (i + 1)).map fun (b, j) => ⟨i, j, a.merge b⟩

/-- The first of these candidates of the highest rank. -/
def halfBest? (filters : List Filter) : Option Candidate := (halfCandidates filters).foldl prefer none

theorem mem_drop_zipIdx {filters : List Filter} {i j : Nat} {b : Filter} :
    (b, j) ∈ filters.zipIdx.drop (i + 1) ↔ filters[j]? = some b ∧ i < j := by
  simp only [List.mem_iff_getElem?, List.getElem?_drop, List.getElem?_zipIdx, Option.map_eq_some_iff, Prod.mk.injEq]
  constructor
  · rintro ⟨n, b', hb, rfl, rfl⟩
    rw [Nat.zero_add]
    exact ⟨hb, by omega⟩
  · rintro ⟨hb, hlt⟩
    refine ⟨j - (i + 1), b, ?_, rfl, by omega⟩
    rw [show i + 1 + (j - (i + 1)) = j by omega]
    exact hb

theorem mem_halfCandidates {filters : List Filter} {c : Candidate} :
    c ∈ halfCandidates filters ↔ c ∈ candidates filters ∧ c.keep < c.drop := by
  obtain ⟨i, j, merged⟩ := c
  simp only [halfCandidates, List.mem_flatMap, List.mem_map, Prod.exists, mem_drop_zipIdx, mem_candidates,
    List.mem_zipIdx_iff_getElem?, Candidate.mk.injEq]
  constructor
  · rintro ⟨a, i, ha, b, j, ⟨hb, hlt⟩, rfl, rfl, rfl⟩
    exact ⟨⟨a, b, ha, hb, by omega, rfl⟩, hlt⟩
  · rintro ⟨⟨a, b, ha, hb, -, rfl⟩, hlt⟩
    exact ⟨a, i, ha, b, j, ⟨hb, hlt⟩, rfl, rfl, rfl⟩

theorem halfCandidates_pairwise (filters : List Filter) : (halfCandidates filters).Pairwise Candidate.Before := by
  refine List.pairwise_flatMap.2 ⟨fun p _ => ?_, ?_⟩
  · refine List.pairwise_map.2 (((zipIdx_pairwise filters).drop).imp fun hqr => ?_)
    exact .inr ⟨rfl, hqr⟩
  · refine (zipIdx_pairwise filters).imp fun {p q} hpq c hc d hd => ?_
    simp only [List.mem_map] at hc hd
    obtain ⟨_, -, rfl⟩ := hc
    obtain ⟨_, -, rfl⟩ := hd
    exact .inl hpq

/-- **Looking at each pair once makes the same choice.** -/
theorem halfBest?_eq (filters : List Filter) : halfBest? filters = best? filters := by
  cases hbest : best? filters with
  | none =>
    have hnil : halfCandidates filters = [] := by
      refine List.eq_nil_iff_forall_not_mem.2 fun c hc => ?_
      have hmem := (mem_halfCandidates.1 hc).1
      simp [candidates_of_best?_eq_none hbest] at hmem
    rw [halfBest?, hnil]
    rfl
  | some chosen =>
    have hforemost := best?_eq_some_iff.1 hbest
    refine (foldl_prefer_eq_some_iff (halfCandidates_pairwise filters)).2 ⟨?_, fun c hc => ?_⟩
    · exact mem_halfCandidates.2 ⟨hforemost.1, hforemost.keep_lt_drop⟩
    · exact hforemost.2 c (mem_halfCandidates.1 hc).1

/-- Merge greedily as `shrink` does, looking at each pair once. -/
def halfShrink (filters : List Filter) (target : Nat) : List Filter :=
  if target < filters.length then
    match _chosen : halfBest? filters with
    | none => filters
    | some candidate => halfShrink (candidate.applyTo filters) target
  else filters
termination_by filters.length
decreasing_by
  have := length_applyTo (best?_mem ((halfBest?_eq filters).symm.trans _chosen))
  omega

/-- At most `target` filters, each pair being looked at once. -/
def halfReduce (filters : List Filter) (target : Nat) : Except Fault (List Filter) :=
  if target < 1 then .error (.contract .targetNotPositive) else .ok (halfShrink filters target)

theorem halfShrink_eq (filters : List Filter) (target : Nat) : halfShrink filters target = shrink filters target := by
  fun_induction halfShrink filters target with
  | case1 filters hlt hbest =>
    rw [halfBest?_eq] at hbest
    rw [shrink_of_none hbest]
  | case2 filters hlt candidate hbest ih =>
    rw [halfBest?_eq] at hbest
    rw [ih, shrink_of_best hlt hbest]
  | case3 filters hle => rw [shrink_of_length_le (by omega)]

theorem halfReduce_eq (filters : List Filter) (target : Nat) : halfReduce filters target = reduce filters target := by
  rw [halfReduce, reduce, halfShrink_eq]

/-! ## Places -/

namespace Block

/-- The earliest position. -/
def first (block : Block) : Nat := ((block.positions.map (·.2)).min?).getD 0

/-- The position of a block that has no other. -/
def alone? (block : Block) : Option (Filter × Nat) :=
  match block.positions with
  | [position] => some position
  | _ => none

variable {block : Block}

theorem first_eq {i : Nat} (hmem : i ∈ block.positions.map (·.2)) (hle : ∀ j ∈ block.positions.map (·.2), i ≤ j) :
    block.first = i := by
  rw [first, List.min?_eq_some_iff.2 ⟨hmem, hle⟩]
  rfl

theorem first_spec (h : block.positions ≠ []) :
    block.first ∈ block.positions.map (·.2) ∧ ∀ j ∈ block.positions.map (·.2), block.first ≤ j := by
  cases hmin : (block.positions.map (·.2)).min? with
  | none => simp [h] at hmin
  | some i =>
    have hspec := List.min?_eq_some_iff.1 hmin
    rwa [first, hmin]

/-- Joined to a block that starts later, a block starts where it did. -/
theorem first_join {x y : Block} (hx : x.positions ≠ []) (hy : y.positions ≠ []) (h : x.first < y.first) :
    (x.join y).first = x.first := by
  obtain ⟨hmem, hlex⟩ := first_spec hx
  have hley := (first_spec hy).2
  have hjoin : (x.join y).positions.map (·.2) = x.positions.map (·.2) ++ y.positions.map (·.2) := List.map_append
  refine first_eq ?_ fun j hj => ?_
  · rw [hjoin]
    exact List.mem_append_left _ hmem
  · rw [hjoin] at hj
    rcases List.mem_append.1 hj with hj | hj
    · exact hlex j hj
    · have := hley j hj
      omega

theorem alone?_eq_some_iff {position : Filter × Nat} :
    block.alone? = some position ↔ block.positions = [position] := by
  unfold alone?
  split
  · next one h => simp [h]
  · next hnot =>
    refine ⟨by simp, fun h => ?_⟩
    exact absurd h (hnot position)

theorem first_of_alone {position : Filter × Nat} (h : block.alone? = some position) : block.first = position.2 := by
  rw [alone?_eq_some_iff] at h
  exact first_eq (by simp [h]) (by simp [h])

end Block

/-- Blocks for the filters of a list that was reduced, in the order of their earliest positions. -/
structure Stand (input current : List Filter) (blocks : List Block) : Prop where
  results : blocks.map (·.result) = current
  positions : (blocks.flatMap (·.positions)).Perm input.zipIdx
  merged : ∀ block ∈ blocks, block.Merged
  in_order : (blocks.map Block.first).Pairwise (· < ·)

/-- Every position as a block of its own. -/
def apart (filters : List Filter) : List Block := filters.zipIdx.map fun position => ⟨[position], position.1⟩

/-- What the steps of a reduction have merged, each time joining the blocks of the pair. -/
def blocksOf (filters : List Filter) (target : Nat) : List Block :=
  (steps filters target).foldl (fun blocks step => step.chosen.joinIn blocks) (apart filters)

namespace Stand

variable {input current : List Filter} {blocks : List Block}

theorem apart (filters : List Filter) : Stand filters filters (apart filters) := by
  refine ⟨?_, ?_, ?_, ?_⟩
  · rw [Reduction.apart, List.map_map]
    exact List.zipIdx_map_fst 0 filters
  · rw [Reduction.apart, List.flatMap_map, List.flatMap_singleton']
  · intro block hblock
    obtain ⟨position, -, rfl⟩ := List.mem_map.1 hblock
    rfl
  · rw [Reduction.apart, List.map_map, List.pairwise_map]
    exact zipIdx_pairwise filters

/-- A step that keeps the earlier filter of its pair keeps the order. -/
theorem step {candidate : Candidate} (h : Stand input current blocks) (hmem : candidate ∈ candidates current)
    (hlt : candidate.keep < candidate.drop) : Stand input (candidate.applyTo current) (candidate.joinIn blocks) := by
  obtain ⟨rfl, hpositions, hmerged, horder⟩ := h
  obtain ⟨hresults, hperm, hblocks⟩ := joinIn_partitions hmerged hmem
  refine ⟨hresults, hperm.trans hpositions, hblocks, ?_⟩
  obtain ⟨_, _, ha, hb, -, -⟩ := mem_candidates.1 hmem
  have hkeep : candidate.keep < blocks.length := by simpa using (List.getElem?_eq_some_iff.1 ha).1
  have hdrop : candidate.drop < blocks.length := by simpa using (List.getElem?_eq_some_iff.1 hb).1
  have hfirst : (blocks[candidate.keep]).first < (blocks[candidate.drop]).first := by
    have hpair := List.pairwise_iff_getElem.1 horder candidate.keep candidate.drop (by simpa using hkeep)
      (by simpa using hdrop) hlt
    simpa using hpair
  have hjoin := Block.first_join (hmerged _ (List.getElem_mem hkeep)).positions_ne_nil
    (hmerged _ (List.getElem_mem hdrop)).positions_ne_nil hfirst
  -- the joined block starts where the kept one did, so all that happens to the places is that one goes
  have hset : (blocks.set candidate.keep (blocks[candidate.keep].join blocks[candidate.drop])).map Block.first =
      blocks.map Block.first := by
    rw [List.map_set, hjoin, ← List.getElem_map Block.first (h := by simpa using hkeep), List.set_getElem_self]
  rw [joinIn_eq (List.getElem?_eq_getElem hkeep) (List.getElem?_eq_getElem hdrop), ← List.eraseIdx_map, hset]
  exact horder.sublist (List.eraseIdx_sublist _ _)

theorem shrink (h : Stand input current blocks) (target : Nat) :
    Stand input (shrink current target)
      ((steps current target).foldl (fun blocks step => step.chosen.joinIn blocks) blocks) := by
  fun_induction Reduction.shrink current target generalizing blocks with
  | case1 current hlt hbest =>
    rw [steps_of_none hbest]
    exact h
  | case2 current hlt candidate hbest ih =>
    have hforemost := best?_eq_some_iff.1 hbest
    rw [steps_of_best hlt hbest]
    exact ih (h.step hforemost.1 hforemost.keep_lt_drop)
  | case3 current hle =>
    rw [steps_of_length_le (by omega)]
    exact h

/-- The filters that were not merged come from the input, in its order. -/
theorem alone_sublist_input (h : Stand input current blocks) :
    (blocks.filterMap Block.alone?).Sublist input.zipIdx := by
  have hantisymm : Std.Antisymm fun p q : Filter × Nat => p.2 < q.2 := ⟨fun p q hpq hqp => by omega⟩
  have hirrefl : Std.Irrefl fun p q : Filter × Nat => p.2 < q.2 := ⟨fun p => Nat.lt_irrefl p.2⟩
  have hpairwise : (blocks.filterMap Block.alone?).Pairwise fun p q => p.2 < q.2 := by
    refine List.pairwise_filterMap.2 ((List.pairwise_map.1 h.in_order).imp fun hxy p hp q hq => ?_)
    rwa [Block.first_of_alone hp, Block.first_of_alone hq] at hxy
  have hsubset : blocks.filterMap Block.alone? ⊆ input.zipIdx := by
    intro p hp
    obtain ⟨block, hblock, halone⟩ := List.mem_filterMap.1 hp
    refine h.positions.mem_iff.1 (List.mem_flatMap.2 ⟨block, hblock, ?_⟩)
    simp [Block.alone?_eq_some_iff.1 halone]
  exact List.sublist_of_subperm_of_pairwise (List.subperm_of_subset hpairwise.nodup hsubset) hpairwise
    (zipIdx_pairwise input)

/-- They stand in the reduced list as they are, in the same order. -/
theorem alone_sublist_results (h : Stand input current blocks) :
    ((blocks.filterMap Block.alone?).map (·.1)).Sublist current := by
  obtain ⟨rfl, -, hmerged, -⟩ := h
  induction blocks with
  | nil => exact .slnil
  | cons block blocks ih =>
    have hrest := ih fun other hother => hmerged other (List.mem_cons_of_mem _ hother)
    cases halone : block.alone? with
    | none =>
      rw [List.filterMap_cons_none halone]
      exact hrest.cons _
    | some position =>
      have hresult := (hmerged block List.mem_cons_self).result_of_single (Block.alone?_eq_some_iff.1 halone)
      rw [List.filterMap_cons_some halone, List.map_cons, List.map_cons, hresult]
      exact hrest.cons_cons _

end Stand

/-- **Ordered pairs and pairs looked at once.**  Each step takes the lexicographically first pair whose merge ranks
highest of all, and its first member is the earlier filter; so looking at each pair once reduces a list to the same
filters.  The reduced list stands in the order of the earliest positions that its filters were merged from, and the
filters that were not merged keep their order in it. -/
theorem reduce_scan (filters : List Filter) {target : Nat} (ht : 1 ≤ target) :
    (∀ step ∈ steps filters target, step.chosen.keep < step.chosen.drop ∧
      Foremost (candidates step.filters) step.chosen) ∧
      halfReduce filters target = reduce filters target ∧
      ∃ reduced, reduce filters target = .ok reduced ∧ Traces filters (steps filters target) reduced ∧
        Stand filters reduced (blocksOf filters target) ∧
        ((blocksOf filters target).filterMap Block.alone?).Sublist filters.zipIdx ∧
        (((blocksOf filters target).filterMap Block.alone?).map (·.1)).Sublist reduced := by
  have hstand : Stand filters (shrink filters target) (blocksOf filters target) := (Stand.apart filters).shrink target
  refine ⟨fun step hstep => ?_, halfReduce_eq filters target, shrink filters target, if_neg (by omega),
    traces_steps filters target, hstand, hstand.alone_sublist_input, hstand.alone_sublist_results⟩
  have hforemost := best?_eq_some_iff.1 (best?_of_mem_steps hstep).2
  exact ⟨hforemost.keep_lt_drop, hforemost⟩

/-- Two base filters for neighbouring identifiers, with filters before, between and behind them. -/
def interleaved : List Filter :=
  [⟨0x200, 0x7FF, some .base⟩, ⟨0x100, 0x7FF, some .base⟩, ⟨0x1234, 0x1FFFFFFF, some .extended⟩,
    ⟨0x101, 0x7FF, some .base⟩, ⟨0x010, 0x7F0, none⟩]

/-- `reduce_scan` on five filters for four slots: the neighbours share the place of the first, the others stay in
order. -/
theorem reduce_scan_interleaved :
    1 ≤ 4 ∧
      halfReduce interleaved 4 = .ok [⟨0x200, 0x7FF, some .base⟩, ⟨0x100, 0x7FE, some .base⟩,
        ⟨0x1234, 0x1FFFFFFF, some .extended⟩, ⟨0x010, 0x7F0, none⟩] ∧
      Stand interleaved [⟨0x200, 0x7FF, some .base⟩, ⟨0x100, 0x7FE, some .base⟩,
        ⟨0x1234, 0x1FFFFFFF, some .extended⟩, ⟨0x010, 0x7F0, none⟩] (blocksOf interleaved 4) := by
  have hbest : best? interleaved = some ⟨1, 3, ⟨0x100, 0x7FE, some .base⟩⟩ := by decide
  have hreduce : reduce interleaved 4 = .ok [⟨0x200, 0x7FF, some .base⟩, ⟨0x100, 0x7FE, some .base⟩,
      ⟨0x1234, 0x1FFFFFFF, some .extended⟩, ⟨0x010, 0x7F0, none⟩] := by
    rw [reduce, if_neg (by decide), shrink_of_best (by decide) hbest, shrink_of_length_le (by decide)]
    rfl
  obtain ⟨-, hhalf, reduced, hreduced, -, hstand, -, -⟩ := reduce_scan interleaved (show 1 ≤ 4 by decide)
  rw [hreduce] at hhalf hreduced
  obtain rfl := Except.ok.inj hreduced
  exact ⟨by decide, hhalf, hstand⟩

end CanBus.Reduction
