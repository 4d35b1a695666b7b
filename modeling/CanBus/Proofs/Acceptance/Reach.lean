import CanBus.Proofs.Acceptance.Covering
import CanBus.Proofs.Acceptance.Rank
import Mathlib.Data.Nat.Count

/-!
# Reach — how many identifiers a filter takes

Each demanded bit halves the identifiers that pass (`count_agreeing`), so the rank of a checked filter tells how many
there are (`ownReach_eq`).  Of two filters with the same format the one of higher rank takes fewer (`ownReach_le_iff`),
and no pair of the list has a merge in the format of the chosen one that takes fewer than that
(`rank_measures_reach`).
-/

namespace CanBus

/-! ## Words that agree on bits -/

/-- The number has the bits of the word at all positions below `w` that are marked. -/
def Agreeing (marked word : Nat → Bool) (w n : Nat) : Prop := ∀ i < w, marked i = true → n.testBit i = word i

instance (marked word : Nat → Bool) (w : Nat) : DecidablePred (Agreeing marked word w) :=
  fun _ => inferInstanceAs (Decidable (∀ i < w, _))

section Agreeing

variable {marked word : Nat → Bool} {w n : Nat}

theorem agreeing_succ_iff {b : Bool} {m : Nat} (hlow : ∀ i < w, m.testBit i = n.testBit i) (htop : m.testBit w = b) :
    Agreeing marked word (w + 1) m ↔ Agreeing marked word w n ∧ (marked w = true → word w = b) := by
  constructor
  · intro h
    refine ⟨fun i hi hmarked => ?_, fun hmarked => ?_⟩
    · rw [← hlow i hi, h i (by omega) hmarked]
    · rw [← h w (by omega) hmarked, htop]
  · rintro ⟨hrest, hlast⟩ i hi hmarked
    rcases Nat.lt_succ_iff_lt_or_eq.1 hi with hlt | rfl
    · rw [hlow i hlt, hrest i hlt hmarked]
    · rw [htop, hlast hmarked]

/-- Below `2 ^ w` the bit at `w` is clear. -/
theorem agreeing_lower (hn : n < 2 ^ w) :
    Agreeing marked word (w + 1) n ↔ Agreeing marked word w n ∧ (marked w = true → word w = false) :=
  agreeing_succ_iff (fun _ _ => rfl) (Nat.testBit_lt_two_pow hn)

/-- In the half above it is set. -/
theorem agreeing_upper (hn : n < 2 ^ w) :
    Agreeing marked word (w + 1) (2 ^ w + n) ↔ Agreeing marked word w n ∧ (marked w = true → word w = true) := by
  refine agreeing_succ_iff (fun i hi => Nat.testBit_two_pow_add_gt hi n) ?_
  rw [Nat.testBit_two_pow_add_eq, Nat.testBit_lt_two_pow hn, Bool.not_false]

end Agreeing

/-- A count looks at the numbers below its bound only. -/
theorem count_congr {p q : Nat → Prop} [DecidablePred p] [DecidablePred q] {k : Nat} (h : ∀ n < k, p n ↔ q n) :
    Nat.count p k = Nat.count q k :=
  Nat.le_antisymm (Nat.count_mono_left fun n hn => (h n hn).1) (Nat.count_mono_left fun n hn => (h n hn).2)

/-- **Each marked bit halves the count.** -/
theorem count_agreeing (marked word : Nat → Bool) (w : Nat) :
    Nat.count (Agreeing marked word w) (2 ^ w) = 2 ^ (List.range w).countP fun i => !marked i := by
  induction w with
  | zero =>
    have hall : Agreeing marked word 0 0 := fun i hi => absurd hi (Nat.not_lt_zero i)
    simp [Nat.count_one, hall]
  | succ w ih =>
    have hlower : Nat.count (Agreeing marked word (w + 1)) (2 ^ w) =
        Nat.count (fun n => Agreeing marked word w n ∧ (marked w = true → word w = false)) (2 ^ w) :=
      count_congr fun n hn => agreeing_lower hn
    have hupper : Nat.count (fun n => Agreeing marked word (w + 1) (2 ^ w + n)) (2 ^ w) =
        Nat.count (fun n => Agreeing marked word w n ∧ (marked w = true → word w = true)) (2 ^ w) :=
      count_congr fun n hn => agreeing_upper hn
    rw [Nat.pow_succ, Nat.mul_two, Nat.count_add, hlower, hupper, List.range_succ, List.countP_append,
      List.countP_singleton]
    cases hmarked : marked w with
    | false => simp [ih, Nat.pow_succ, Nat.mul_two]
    | true =>
      -- one half is as before, the other is empty
      cases hword : word w <;> simp [ih]

/-! ## Identifiers that pass -/

namespace Filter

/-- The filter takes frames of the format with this identifier. -/
def Takes (filter : Filter) (format : IdFormat) (id : Nat) : Prop :=
  ∃ frame : Frame, frame.format = format ∧ frame.id.toNat = id ∧ filter.accepts frame = true

theorem takes_iff {filter : Filter} {format : IdFormat} {id : Nat} :
    filter.Takes format id ↔ id ≤ format.maxId ∧ Agreeing filter.mask.getLsbD filter.id.getLsbD 32 id ∧
      (filter.format = none ∨ filter.format = some format) := by
  constructor
  · rintro ⟨frame, rfl, rfl, haccepts⟩
    obtain ⟨hbits, hformat⟩ := accepts_iff.1 haccepts
    refine ⟨frame.id_le, hbits, ?_⟩
    cases hown : filter.format with
    | none => exact .inl rfl
    | some own => exact .inr (congrArg some (hformat own hown))
  · rintro ⟨hle, hbits, hformat⟩
    have hmax : format.maxId < 2 ^ 32 := by cases format <;> decide
    have hid : (BitVec.ofNat 32 id).toNat = id := by
      rw [BitVec.toNat_ofNat, Nat.mod_eq_of_lt (Nat.lt_of_le_of_lt hle hmax)]
    refine ⟨⟨BitVec.ofNat 32 id, [], format, false, hid.symm ▸ hle, Nat.zero_le _⟩, rfl, hid,
      accepts_iff.2 ⟨fun i hi hmask => ?_, fun own hown => ?_⟩⟩
    · rw [BitVec.getLsbD, hid]
      exact hbits i hi hmask
    · rcases hformat with hnone | hsome
      · simp [hnone] at hown
      · simpa [hsome] using hown.symm

instance (filter : Filter) (format : IdFormat) : DecidablePred (filter.Takes format) :=
  fun _ => decidable_of_iff _ takes_iff.symm

/-- The number of identifiers of the format that pass. -/
def reach (filter : Filter) (format : IdFormat) : Nat := Nat.count (filter.Takes format) (format.maxId + 1)

/-- The number of identifiers that pass, of the filter's own format, or extended ones if it takes both. -/
def ownReach (filter : Filter) : Nat := filter.reach (filter.format.getD .extended)

section Checked

variable {a b filter : Filter}

theorem demands_add_free (filter : Filter) :
    filter.demands + (List.range filter.width).countP (fun i => !filter.mask.getLsbD i) = filter.width := by
  have hsplit := List.length_eq_countP_add_countP (l := List.range filter.width) fun i => filter.mask.getLsbD i
  simp only [List.length_range, Bool.not_eq_true, Bool.decide_eq_false] at hsplit
  exact hsplit.symm

theorem maxId_own (filter : Filter) : (filter.format.getD .extended).maxId + 1 = 2 ^ filter.width := by
  rw [IdFormat.maxId, Nat.one_shiftLeft, ← width]
  exact Nat.sub_add_cancel (Nat.two_pow_pos _)

/-- A checked filter demands no bit beyond its width, so only the bits of an identifier of its format matter. -/
theorem takes_own_iff (h : filter.InWidth) {n : Nat} (hn : n < 2 ^ filter.width) :
    filter.Takes (filter.format.getD .extended) n ↔
      Agreeing filter.mask.getLsbD filter.id.getLsbD filter.width n := by
  have hmax := filter.maxId_own
  rw [takes_iff]
  constructor
  · rintro ⟨-, hbits, -⟩ i hi
    have hwidth : filter.width ≤ 29 := filter.width_le
    exact hbits i (by omega)
  · intro hbits
    refine ⟨by omega, fun i _ hmask => ?_, by cases filter.format <;> simp⟩
    by_cases hi : i < filter.width
    · exact hbits i hi hmask
    · simp [h.mask_bit (Nat.not_lt.1 hi)] at hmask

/-- **The count of a checked filter**: every bit that it does not demand doubles it. -/
theorem ownReach_eq (h : filter.InWidth) : filter.ownReach = 2 ^ (filter.width - filter.demands) := by
  have hfree := filter.demands_add_free
  rw [ownReach, reach, maxId_own, count_congr fun n => takes_own_iff h, count_agreeing]
  congr 1
  omega

theorem reach_of_format (h : filter.InWidth) {format : IdFormat} (hformat : filter.format = some format) :
    0 ≤ filter.rank ∧ filter.rank ≤ format.width ∧
      filter.reach format = 2 ^ ((format.width : Int) - filter.rank).toNat := by
  have hwidth : filter.width = format.width := by rw [width, hformat]; rfl
  have hown : filter.ownReach = filter.reach format := by rw [ownReach, hformat]; rfl
  have hle := filter.demands_le_width
  rw [← hown, ownReach_eq h, rank_of_format (by simp [hformat]), ← hwidth]
  refine ⟨by omega, by omega, ?_⟩
  congr 1
  omega

theorem reach_of_agnostic (h : filter.InWidth) (hformat : filter.format = none) :
    filter.rank ≤ 0 ∧ filter.reach .extended = 2 ^ (-filter.rank).toNat := by
  have hown : filter.ownReach = filter.reach .extended := by rw [ownReach, hformat]; rfl
  have hle := filter.demands_le_width
  rw [← hown, ownReach_eq h, rank_of_agnostic hformat]
  refine ⟨by omega, ?_⟩
  congr 1
  omega

/-- **Rank orders by reach**, among filters with the same format. -/
theorem ownReach_le_iff (ha : a.InWidth) (hb : b.InWidth) (hformat : a.format = b.format) :
    b.ownReach ≤ a.ownReach ↔ a.rank ≤ b.rank := by
  have hwidth : a.width = b.width := by rw [width, width, hformat]
  have hlea := a.demands_le_width
  have hleb := b.demands_le_width
  rw [ownReach_eq ha, ownReach_eq hb, Nat.pow_le_pow_iff_right (by decide), rank_le_iff_demands hformat]
  omega

end Checked

end Filter

/-! ## The choice of a step -/

namespace Reduction

/-- What merging keeps holds of every filter that a step finds. -/
theorem steps_forall {P : Filter → Prop} (hmerge : ∀ a b, P a → P b → P (a.merge b)) {filters : List Filter}
    (h : ∀ filter ∈ filters, P filter) {target : Nat} {step : Step} (hstep : step ∈ steps filters target) :
    ∀ filter ∈ step.filters, P filter := by
  fun_induction steps filters target with
  | case1 filters hlt hbest => simp at hstep
  | case2 filters hlt candidate hbest ih =>
    rcases List.mem_cons.1 hstep with rfl | hrest
    · exact h
    · exact ih (applyTo_forall hmerge h (best?_mem hbest)) hrest
  | case3 filters hle => simp at hstep

/-- **Rank measures reach.**  A checked filter of one format takes `2 ^ (width - rank)` identifiers of it, and one for
both formats takes `2 ^ (-rank)` extended identifiers.  So of two filters with the same format the one of higher rank
takes fewer, and no two filters that a step finds have a merge in the format of the chosen one that takes fewer than
that. -/
theorem rank_measures_reach (filters : List Filter)
    (hmade : ∀ filter ∈ filters, Filter.make filter.id filter.mask filter.format = .ok filter) :
    (∀ filter ∈ filters,
      (∀ format, filter.format = some format → 0 ≤ filter.rank ∧ filter.rank ≤ format.width ∧
        filter.reach format = 2 ^ ((format.width : Int) - filter.rank).toNat) ∧
      (filter.format = none → filter.rank ≤ 0 ∧ filter.reach .extended = 2 ^ (-filter.rank).toNat)) ∧
      (∀ a ∈ filters, ∀ b ∈ filters, a.format = b.format → (a.rank < b.rank ↔ b.ownReach < a.ownReach)) ∧
      ∀ target, ∀ step ∈ steps filters target, ∀ (i j : Nat) (a b : Filter), i ≠ j →
        step.filters[i]? = some a → step.filters[j]? = some b → (a.merge b).format = step.chosen.merged.format →
          step.chosen.merged.ownReach ≤ (a.merge b).ownReach := by
  have hchecked : ∀ filter ∈ filters, filter.InWidth := fun filter h => Filter.make_own_iff.1 (hmade filter h)
  refine ⟨fun filter hfilter => ?_, fun a ha b hb hformat => ?_, ?_⟩
  · have hwidth := hchecked filter hfilter
    exact ⟨fun format => Filter.reach_of_format hwidth, Filter.reach_of_agnostic hwidth⟩
  · have hle := Filter.ownReach_le_iff (hchecked b hb) (hchecked a ha) hformat.symm
    rw [← Int.not_le, ← hle, Nat.not_le]
  · intro target step hstep i j a b hij ha hb hformat
    -- the chosen merge and the other one are both merges of checked filters
    have hfound := steps_forall (fun a b ha _ => ha.merge b) hchecked hstep
    have hforemost := best?_eq_some_iff.1 (best?_of_mem_steps hstep).2
    obtain ⟨x, y, hx, -, -, hchosen⟩ := mem_candidates.1 hforemost.1
    have hchosenWidth : step.chosen.merged.InWidth := hchosen ▸ (hfound x (List.mem_of_getElem? hx)).merge y
    have hotherWidth : (a.merge b).InWidth := (hfound a (List.mem_of_getElem? ha)).merge b
    have hother : (⟨i, j, a.merge b⟩ : Candidate) ∈ candidates step.filters :=
      mem_candidates.2 ⟨a, b, ha, hb, hij, rfl⟩
    exact (Filter.ownReach_le_iff hotherWidth hchosenWidth hformat).2 (hforemost.2 _ hother).1

/-- Two base filters for neighbouring identifiers, one for sixteen, and one for both formats. -/
def assorted : List Filter :=
  [⟨0x100, 0x7FF, some .base⟩, ⟨0x101, 0x7FF, some .base⟩, ⟨0x110, 0x7F0, some .base⟩, ⟨0x1000, 0x1FFFF000, none⟩]

/-- `rank_measures_reach` where a step could merge another pair of its format, too. -/
theorem rank_measures_reach_assorted :
    (∀ filter ∈ assorted, Filter.make filter.id filter.mask filter.format = .ok filter) ∧
      Filter.reach ⟨0x110, 0x7F0, some .base⟩ .base = 2 ^ 4 ∧
      Filter.reach ⟨0x1000, 0x1FFFF000, none⟩ .extended = 2 ^ 12 ∧
      Filter.ownReach ⟨0x100, 0x7FF, some .base⟩ < Filter.ownReach ⟨0x110, 0x7F0, some .base⟩ ∧
      (⟨assorted, ⟨0, 1, ⟨0x100, 0x7FE, some .base⟩⟩⟩ : Step) ∈ steps assorted 3 ∧
      Filter.ownReach ⟨0x100, 0x7FE, some .base⟩ ≤ Filter.ownReach ⟨0x100, 0x7E0, some .base⟩ := by
  have hmade : ∀ filter ∈ assorted, Filter.make filter.id filter.mask filter.format = .ok filter := by decide
  have hstep : (⟨assorted, ⟨0, 1, ⟨0x100, 0x7FE, some .base⟩⟩⟩ : Step) ∈ steps assorted 3 := by
    rw [steps_of_best (by decide) (show best? assorted = some ⟨0, 1, ⟨0x100, 0x7FE, some .base⟩⟩ by decide)]
    exact List.mem_cons_self
  obtain ⟨hreach, horder, hchoice⟩ := rank_measures_reach assorted hmade
  refine ⟨hmade, ?_, ?_, ?_, hstep, ?_⟩
  · have hcount := ((hreach ⟨0x110, 0x7F0, some .base⟩ (by decide)).1 .base rfl).2.2
    rwa [show Filter.rank ⟨0x110, 0x7F0, some .base⟩ = 7 by decide] at hcount
  · have hcount := ((hreach ⟨0x1000, 0x1FFFF000, none⟩ (by decide)).2 rfl).2
    rwa [show Filter.rank ⟨0x1000, 0x1FFFF000, none⟩ = -12 by decide] at hcount
  · exact (horder ⟨0x110, 0x7F0, some .base⟩ (by decide) ⟨0x100, 0x7FF, some .base⟩ (by decide) rfl).1 (by decide)
  · have hother := hchoice 3 _ hstep 0 2 ⟨0x100, 0x7FF, some .base⟩ ⟨0x110, 0x7F0, some .base⟩ (by decide) rfl rfl rfl
    have hmerge : Filter.merge ⟨0x100, 0x7FF, some .base⟩ ⟨0x110, 0x7F0, some .base⟩ = ⟨0x100, 0x7E0, some .base⟩ := by
      decide
    rwa [hmerge] at hother

end Reduction

end CanBus
