import CanBus.Acceptance.Reduction
import CanBus.Proofs.Acceptance.Merge
import Mathlib.Data.List.InsertIdx

/-!
# Blocks of a reduction — which input filters each output filter stands for

Every filter of a list that is being reduced stands for a block of positions of the input, and the blocks use each
position once (`Partitioned`).  A step joins two blocks, so the invariant holds for the list that `shrink` returns,
and what a block stands for does not depend on the order in which its filters were merged.
-/

namespace CanBus.Reduction

open CanBus.Filter (mergeAll? mergeAll?_append mergeAll?_perm accepts_of_mergeAll?)

/-! ## The length -/

theorem foldl_prefer_isSome {cs : List Candidate} {best : Option Candidate} (h : best.isSome ∨ cs ≠ []) :
    (cs.foldl prefer best).isSome := by
  induction cs generalizing best with
  | nil =>
    rcases h with hbest | hnil
    · exact hbest
    · exact absurd rfl hnil
  | cons c cs ih =>
    refine ih (.inl ?_)
    cases best with
    | none => rfl
    | some chosen =>
      rw [prefer]
      by_cases hrank : chosen.merged.rank < c.merged.rank
      · rw [if_pos hrank]
        rfl
      · rw [if_neg hrank]
        rfl

/-- Two filters have a merge. -/
theorem best?_isSome {filters : List Filter} (h : 2 ≤ filters.length) : (best? filters).isSome := by
  refine foldl_prefer_isSome (.inr fun hnil => ?_)
  have hmem : (⟨0, 1, filters[0].merge filters[1]⟩ : Candidate) ∈ candidates filters :=
    mem_candidates.2 ⟨filters[0], filters[1], List.getElem?_eq_getElem _, List.getElem?_eq_getElem _,
      Nat.zero_ne_one, rfl⟩
  rw [hnil] at hmem
  cases hmem

theorem shrink_of_length_le {filters : List Filter} {target : Nat} (h : filters.length ≤ target) :
    shrink filters target = filters := by
  rw [shrink, if_neg (by omega)]

theorem shrink_of_none {filters : List Filter} {target : Nat} (hbest : best? filters = none) :
    shrink filters target = filters := by
  rw [shrink]
  split
  · split
    · rfl
    · next hsome => simp [hbest] at hsome
  · rfl

theorem shrink_of_best {filters : List Filter} {target : Nat} {candidate : Candidate} (hlt : target < filters.length)
    (hbest : best? filters = some candidate) : shrink filters target = shrink (candidate.applyTo filters) target := by
  rw [shrink, if_pos hlt]
  split
  · next hnone =>
    rw [hnone] at hbest
    cases hbest
  · next chosen hchosen =>
    rw [hchosen] at hbest
    cases hbest
    rfl

theorem length_shrink (filters : List Filter) {target : Nat} (ht : 1 ≤ target) :
    (shrink filters target).length = min filters.length target := by
  fun_induction shrink filters target with
  | case1 filters hlt hbest =>
    have hsome : (best? filters).isSome := best?_isSome (by omega)
    rw [hbest] at hsome
    cases hsome
  | case2 filters hlt candidate hbest ih =>
    have hlen := length_applyTo (best?_mem hbest)
    rw [ih]
    omega
  | case3 filters hle => omega

/-! ## The filters -/

/-- What merging keeps holds of every filter after a step. -/
theorem applyTo_forall {P : Filter → Prop} (hmerge : ∀ a b, P a → P b → P (a.merge b)) {filters : List Filter}
    (h : ∀ filter ∈ filters, P filter) {candidate : Candidate} (hmem : candidate ∈ candidates filters) :
    ∀ filter ∈ candidate.applyTo filters, P filter := by
  intro filter hfilter
  obtain ⟨a, b, ha, hb, -, hmerged⟩ := mem_candidates.1 hmem
  rcases List.mem_or_eq_of_mem_set (List.mem_of_mem_eraseIdx hfilter) with hold | rfl
  · exact h filter hold
  · rw [hmerged]
    exact hmerge a b (h a (List.mem_of_getElem? ha)) (h b (List.mem_of_getElem? hb))

/-- What merging keeps holds of every filter of a list that was reduced. -/
theorem shrink_forall {P : Filter → Prop} (hmerge : ∀ a b, P a → P b → P (a.merge b)) {filters : List Filter}
    (h : ∀ filter ∈ filters, P filter) (target : Nat) : ∀ filter ∈ shrink filters target, P filter := by
  fun_induction shrink filters target with
  | case1 filters hlt hbest => exact h
  | case2 filters hlt candidate hbest ih => exact ih (applyTo_forall hmerge h (best?_mem hbest))
  | case3 filters hle => exact h

/-! ## The blocks -/

/-- Positions of the input, each with its filter, and the filter that stands for them. -/
structure Block where
  positions : List (Filter × Nat)
  result : Filter

/-- The result is the merge of the filters at the positions. -/
def Block.Merged (block : Block) : Prop := mergeAll? (block.positions.map (·.1)) = some block.result

/-- Each filter of the current list stands for a block, and the blocks use every input position once. -/
def Partitioned (input current : List Filter) : Prop :=
  ∃ blocks : List Block, blocks.map (·.result) = current ∧
    (blocks.flatMap (·.positions)).Perm input.zipIdx ∧ ∀ block ∈ blocks, block.Merged

namespace Block

variable {block : Block}

theorem Merged.positions_ne_nil (h : block.Merged) : block.positions ≠ [] := by
  intro hnil
  rw [Merged, hnil] at h
  cases h

theorem Merged.result_of_single (h : block.Merged) {filter : Filter} {i : Nat}
    (hone : block.positions = [(filter, i)]) : block.result = filter := by
  rw [Merged, hone] at h
  cases h
  rfl

theorem Merged.of_perm (h : block.Merged) {order : List (Filter × Nat)} (hperm : order.Perm block.positions) :
    mergeAll? (order.map (·.1)) = some block.result := by
  rw [mergeAll?_perm (hperm.map _)]
  exact h

/-- Two blocks as one. -/
def join (x y : Block) : Block := ⟨x.positions ++ y.positions, x.result.merge y.result⟩

theorem Merged.join {x y : Block} (hx : x.Merged) (hy : y.Merged) : (x.join y).Merged := by
  show mergeAll? ((x.positions ++ y.positions).map (·.1)) = some (x.result.merge y.result)
  rw [List.map_append]
  exact mergeAll?_append hx hy

end Block

/-- At the start every filter is a block of its own. -/
theorem Partitioned.refl (filters : List Filter) : Partitioned filters filters := by
  refine ⟨filters.zipIdx.map fun position => ⟨[position], position.1⟩, ?_, ?_, ?_⟩
  · rw [List.map_map]
    exact List.zipIdx_map_fst 0 filters
  · rw [List.flatMap_map, List.flatMap_singleton']
  · intro block hmem
    obtain ⟨position, -, rfl⟩ := List.mem_map.1 hmem
    rfl

/-- Putting `x.join y` in the place of `x` and taking `y` out keeps the positions. -/
theorem flatMap_positions_perm {blocks : List Block} {i j : Nat} {x y : Block} (hx : blocks[i]? = some x)
    (hy : blocks[j]? = some y) (hij : i ≠ j) :
    (((blocks.set i (x.join y)).eraseIdx j).flatMap (·.positions)).Perm (blocks.flatMap (·.positions)) := by
  obtain ⟨hi, rfl⟩ := List.getElem?_eq_some_iff.1 hx
  obtain ⟨hj, rfl⟩ := List.getElem?_eq_some_iff.1 hy
  let joined := blocks[i].join blocks[j]
  -- `rest` holds the blocks other than the two that are joined
  obtain ⟨rest, hrest⟩ : ∃ rest, (blocks.eraseIdx i).Perm (blocks[j] :: rest) := by
    have hmem : blocks[j] ∈ blocks.eraseIdx i := List.mem_eraseIdx_iff_getElem.2 ⟨j, hj, hij.symm, rfl⟩
    obtain ⟨before, behind, hsplit⟩ := List.append_of_mem hmem
    exact ⟨before ++ behind, hsplit ▸ List.perm_middle⟩
  have hold : blocks.Perm (blocks[i] :: blocks[j] :: rest) :=
    (List.getElem_cons_eraseIdx_perm hi).symm.trans (hrest.cons _)
  have hset : (blocks.set i joined).Perm (blocks[j] :: joined :: rest) :=
    ((List.set_perm_cons_eraseIdx hi joined).trans (hrest.cons _)).trans (.swap _ _ _)
  have hj' : j < (blocks.set i joined).length := by
    rw [List.length_set]
    exact hj
  have hget : (blocks.set i joined)[j] = blocks[j] := List.getElem_set_ne hij _
  have hnew : ((blocks.set i joined).eraseIdx j).Perm (joined :: rest) := by
    have h := (List.getElem_cons_eraseIdx_perm hj').trans hset
    rw [hget] at h
    exact h.cons_inv
  have hflat : (joined :: rest).flatMap (·.positions) = (blocks[i] :: blocks[j] :: rest).flatMap (·.positions) := by
    show (blocks[i].positions ++ blocks[j].positions) ++ rest.flatMap _ = _
    rw [List.append_assoc]
    rfl
  exact (hnew.flatMap_right _).trans (hflat ▸ (hold.flatMap_right _).symm)

/-- The blocks with those of the candidate's pair joined, in the place of the one that is kept. -/
def Candidate.joinIn (candidate : Candidate) (blocks : List Block) : List Block :=
  match blocks[candidate.keep]?, blocks[candidate.drop]? with
  | some x, some y => (blocks.set candidate.keep (x.join y)).eraseIdx candidate.drop
  | _, _ => blocks

theorem joinIn_eq {candidate : Candidate} {blocks : List Block} {x y : Block}
    (hx : blocks[candidate.keep]? = some x) (hy : blocks[candidate.drop]? = some y) :
    candidate.joinIn blocks = (blocks.set candidate.keep (x.join y)).eraseIdx candidate.drop := by
  simp only [Candidate.joinIn, hx, hy]

/-- A step joins two blocks: they still stand for the list, for the same positions and for the merges of these. -/
theorem joinIn_partitions {blocks : List Block} {candidate : Candidate} (hmerged : ∀ block ∈ blocks, block.Merged)
    (hmem : candidate ∈ candidates (blocks.map (·.result))) :
    (candidate.joinIn blocks).map (·.result) = candidate.applyTo (blocks.map (·.result)) ∧
      ((candidate.joinIn blocks).flatMap (·.positions)).Perm (blocks.flatMap (·.positions)) ∧
      ∀ block ∈ candidate.joinIn blocks, block.Merged := by
  obtain ⟨a, b, ha, hb, hne, hcandidate⟩ := mem_candidates.1 hmem
  rw [List.getElem?_map, Option.map_eq_some_iff] at ha hb
  obtain ⟨x, hx, rfl⟩ := ha
  obtain ⟨y, hy, rfl⟩ := hb
  rw [joinIn_eq hx hy]
  refine ⟨?_, flatMap_positions_perm hx hy hne, ?_⟩
  · rw [Candidate.applyTo, hcandidate, ← List.eraseIdx_map, List.map_set]
    rfl
  · intro block hblock
    rcases List.mem_or_eq_of_mem_set (List.mem_of_mem_eraseIdx hblock) with hold | rfl
    · exact hmerged block hold
    · exact (hmerged x (List.mem_of_getElem? hx)).join (hmerged y (List.mem_of_getElem? hy))

theorem Partitioned.step {input current : List Filter} {candidate : Candidate} (h : Partitioned input current)
    (hmem : candidate ∈ candidates current) : Partitioned input (candidate.applyTo current) := by
  obtain ⟨blocks, rfl, hperm, hmerged⟩ := h
  obtain ⟨hresults, hpositions, hblocks⟩ := joinIn_partitions hmerged hmem
  exact ⟨candidate.joinIn blocks, hresults, hpositions.trans hperm, hblocks⟩

theorem Partitioned.shrink {input current : List Filter} (h : Partitioned input current) (target : Nat) :
    Partitioned input (shrink current target) := by
  fun_induction Reduction.shrink current target with
  | case1 current hlt hbest => exact h
  | case2 current hlt candidate hbest ih => exact ih (h.step (best?_mem hbest))
  | case3 current hle => exact h

/-! ## What the blocks give -/

theorem Partitioned.acceptedBy {input current : List Filter} (h : Partitioned input current) {frame : Frame}
    (haccepted : acceptedBy input frame = true) : acceptedBy current frame = true := by
  obtain ⟨blocks, rfl, hperm, hmerged⟩ := h
  obtain ⟨filter, hfilter, haccepts⟩ := List.any_eq_true.1 haccepted
  obtain ⟨i, hi⟩ := List.mem_iff_getElem?.1 hfilter
  have hposition : (filter, i) ∈ blocks.flatMap (·.positions) :=
    hperm.mem_iff.2 (List.mem_zipIdx_iff_getElem?.2 hi)
  obtain ⟨block, hblock, hin⟩ := List.mem_flatMap.1 hposition
  exact List.any_eq_true.2 ⟨block.result, List.mem_map_of_mem hblock,
    accepts_of_mergeAll? (hmerged block hblock) (List.mem_map_of_mem hin) haccepts⟩

/-- One block for everything: the merge of the whole input. -/
theorem Partitioned.eq_mergeAll? {input current : List Filter} (h : Partitioned input current)
    (hone : current.length ≤ 1) : current = (mergeAll? input).toList := by
  obtain ⟨blocks, rfl, hperm, hmerged⟩ := h
  have hinput : (input.zipIdx.map (·.1)) = input := List.zipIdx_map_fst 0 input
  match blocks with
  | [] =>
    have hnil : input = [] := by
      rw [← hinput, ← hperm.nil_eq]
      rfl
    rw [hnil]
    rfl
  | [block] =>
    rw [List.flatMap_singleton] at hperm
    have hall := (hmerged block (List.mem_singleton_self _)).of_perm hperm.symm
    rw [hinput] at hall
    rw [hall]
    rfl
  | _ :: _ :: _ => simp at hone

theorem shrink_one (filters : List Filter) : shrink filters 1 = (mergeAll? filters).toList := by
  refine ((Partitioned.refl filters).shrink 1).eq_mergeAll? ?_
  rw [length_shrink filters (Nat.le_refl 1)]
  exact Nat.min_le_right ..

/-- **Reducing keeps the shape.**  The result has `min` of the length and the target many filters; the input
positions fall into that many blocks, and each filter is the merge of its block in any order, which is the filter
itself when the block is a single position.  So nothing that was accepted is lost, a list that fits stays as it is,
and a reduction to one filter does not depend on the order of the input. -/
theorem reduce_blocks (filters : List Filter) {target : Nat} (ht : 1 ≤ target) :
    ∃ reduced, reduce filters target = .ok reduced ∧ reduced.length = min filters.length target ∧
      (∃ blocks : List Block, blocks.map (·.result) = reduced ∧
        (blocks.flatMap (·.positions)).Perm filters.zipIdx ∧
        ∀ block ∈ blocks, block.positions ≠ [] ∧
          (∀ filter i, block.positions = [(filter, i)] → block.result = filter) ∧
          ∀ order : List (Filter × Nat), order.Perm block.positions → mergeAll? (order.map (·.1)) = some block.result) ∧
      (∀ frame, acceptedBy filters frame = true → acceptedBy reduced frame = true) ∧
      (filters.length ≤ target → reduced = filters) ∧
      ∀ other : List Filter, other.Perm filters → reduce other 1 = reduce filters 1 := by
  have hpart := (Partitioned.refl filters).shrink target
  refine ⟨shrink filters target, if_neg (by omega), length_shrink filters ht, ?_, fun _ => hpart.acceptedBy,
    shrink_of_length_le, fun other hperm => ?_⟩
  · obtain ⟨blocks, hresults, hpositions, hmerged⟩ := hpart
    refine ⟨blocks, hresults, hpositions, fun block hblock => ?_⟩
    have h := hmerged block hblock
    exact ⟨h.positions_ne_nil, fun _ _ => h.result_of_single, fun _ => h.of_perm⟩
  · show Except.ok (shrink other 1) = Except.ok (shrink filters 1)
    rw [shrink_one, shrink_one, mergeAll?_perm hperm]

/-- Two neighbouring identifiers and a block of sixteen. -/
def sensors : List Filter := [⟨0x100, 0x7FF, some .base⟩, ⟨0x101, 0x7FF, some .base⟩, ⟨0x200, 0x7F0, some .base⟩]

/-- `reduce_blocks` on three filters for two slots: the neighbours share a slot. -/
theorem reduce_blocks_sensors :
    1 ≤ 2 ∧ reduce sensors 2 = .ok [⟨0x100, 0x7FE, some .base⟩, ⟨0x200, 0x7F0, some .base⟩] ∧
      ∀ frame, acceptedBy sensors frame = true →
        acceptedBy [⟨0x100, 0x7FE, some .base⟩, ⟨0x200, 0x7F0, some .base⟩] frame = true := by
  have hbest : best? sensors = some ⟨0, 1, ⟨0x100, 0x7FE, some .base⟩⟩ := by decide
  have hshrink : shrink sensors 2 = [⟨0x100, 0x7FE, some .base⟩, ⟨0x200, 0x7F0, some .base⟩] := by
    rw [shrink_of_best (by decide) hbest]
    exact shrink_of_length_le (by decide)
  obtain ⟨reduced, hreduce, -, -, haccepts, -, -⟩ := reduce_blocks sensors (show 1 ≤ 2 by decide)
  have hreduced : reduced = [⟨0x100, 0x7FE, some .base⟩, ⟨0x200, 0x7F0, some .base⟩] := by
    rw [reduce, if_neg (by decide), hshrink] at hreduce
    cases hreduce
    rfl
  subst hreduced
  exact ⟨by decide, hreduce, haccepts⟩

end CanBus.Reduction
