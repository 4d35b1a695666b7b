import CanBus.Proofs.Acceptance.Steps

/-!
# Stages — a reduction goes on where one with more slots stops

The target only says when to stop, and each step is chosen by the list it finds.  So the steps to a smaller target begin
with the steps to a larger one (`steps_append`), and a list that was reduced already reduces as if it had not been
(`shrink_shrink`): with fewer slots a reduction accepts as much or more (`reduce_in_stages`).
-/

namespace CanBus.Reduction

/-- The steps to the smaller target are those to the larger one and the steps from there on. -/
theorem steps_append (filters : List Filter) {wide narrow : Nat} (hle : narrow ≤ wide) :
    steps filters narrow = steps filters wide ++ steps (shrink filters wide) narrow := by
  fun_induction shrink filters wide with
  | case1 filters hlt hbest => rw [steps_of_none hbest, steps_of_none hbest, List.append_nil]
  | case2 filters hlt candidate hbest ih =>
    rw [steps_of_best hlt hbest, steps_of_best (by omega) hbest, ih, List.cons_append]
  | case3 filters hfits => rw [steps_of_length_le (Nat.not_lt.1 hfits), List.nil_append]

theorem shrink_shrink (filters : List Filter) {wide narrow : Nat} (hle : narrow ≤ wide) :
    shrink (shrink filters wide) narrow = shrink filters narrow := by
  fun_induction shrink filters wide with
  | case1 filters hlt hbest => rfl
  | case2 filters hlt candidate hbest ih => rw [ih, shrink_of_best (by omega) hbest]
  | case3 filters hfits => rfl

/-- A reduction loses nothing that was accepted. -/
theorem acceptedBy_shrink {filters : List Filter} {frame : Frame} (h : acceptedBy filters frame = true)
    (target : Nat) : acceptedBy (shrink filters target) frame = true :=
  ((Partitioned.refl filters).shrink target).acceptedBy h

/-- **Reducing in stages is reducing at once.**  A list that was reduced to a larger target reduces to a smaller one as
the list itself does, by the steps that were left.  So whatever is accepted with more slots is accepted with fewer. -/
theorem reduce_in_stages (filters : List Filter) {wide narrow : Nat} (hnarrow : 1 ≤ narrow) (hle : narrow ≤ wide) :
    ∃ many few, reduce filters wide = .ok many ∧ reduce many narrow = .ok few ∧ reduce filters narrow = .ok few ∧
      steps filters narrow = steps filters wide ++ steps many narrow ∧
      ∀ frame, acceptedBy many frame = true → acceptedBy few frame = true := by
  have hstaged := shrink_shrink filters hle
  refine ⟨shrink filters wide, shrink filters narrow, if_neg (by omega), ?_, if_neg (by omega),
    steps_append filters hle, fun frame h => ?_⟩
  · rw [reduce, if_neg (by omega), hstaged]
  · rw [← hstaged]
    exact acceptedBy_shrink h narrow

/-- `reduce_in_stages` on three filters, for two slots and then for one: frame `0x300` passes the last filter only. -/
theorem reduce_in_stages_sensors :
    1 ≤ 1 ∧ 1 ≤ 2 ∧ reduce sensors 2 = .ok [⟨0x100, 0x7FE, some .base⟩, ⟨0x200, 0x7F0, some .base⟩] ∧
      reduce [⟨0x100, 0x7FE, some .base⟩, ⟨0x200, 0x7F0, some .base⟩] 1 = .ok [⟨0, 0x4F0, some .base⟩] ∧
      reduce sensors 1 = .ok [⟨0, 0x4F0, some .base⟩] := by
  have hbest : best? sensors = some ⟨0, 1, ⟨0x100, 0x7FE, some .base⟩⟩ := by decide
  have hmany : reduce sensors 2 = .ok [⟨0x100, 0x7FE, some .base⟩, ⟨0x200, 0x7F0, some .base⟩] := by
    rw [reduce, if_neg (by decide), shrink_of_best (by decide) hbest, shrink_of_length_le (by decide)]
    rfl
  have hfew : reduce sensors 1 = .ok [⟨0, 0x4F0, some .base⟩] := by
    rw [reduce, if_neg (by decide), shrink_one]
    rfl
  obtain ⟨many, few, hwide, hnarrow, honce, -, -⟩ :=
    reduce_in_stages sensors (show 1 ≤ 1 by decide) (show 1 ≤ 2 by decide)
  rw [hmany] at hwide
  rw [hfew] at honce
  obtain rfl := Except.ok.inj hwide
  obtain rfl := Except.ok.inj honce
  exact ⟨by decide, by decide, hmany, hnarrow, hfew⟩

end CanBus.Reduction
