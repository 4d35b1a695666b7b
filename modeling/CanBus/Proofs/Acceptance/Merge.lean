import CanBus.Acceptance.Bank
import Mathlib.Data.List.Perm.Basic

/-!
# Merging — the demands that filters share

Merging is commutative and associative bit by bit, so the merge of several filters depends neither on their order
nor on the grouping (`mergeAll?_perm`, `mergeAll?_append`), and it accepts what any of them accepts
(`accepts_of_mergeAll?`).  `merge_semilattice` puts the laws together.
-/

namespace CanBus.Filter

/-! ## Bits -/

theorem mask_merge_getLsbD (a b : Filter) {i : Nat} (hi : i < 32) :
    (a.merge b).mask.getLsbD i =
      (a.mask.getLsbD i && b.mask.getLsbD i && (a.id.getLsbD i == b.id.getLsbD i)) := by
  simp only [merge, BitVec.getLsbD_and, BitVec.getLsbD_not, BitVec.getLsbD_xor, hi, decide_true, Bool.true_and]
  cases a.id.getLsbD i <;> cases b.id.getLsbD i <;> rfl

theorem id_merge_getLsbD (a b : Filter) (i : Nat) :
    (a.merge b).id.getLsbD i = (a.id.getLsbD i && (a.merge b).mask.getLsbD i) := BitVec.getLsbD_and

theorem format_merge (a b : Filter) : (a.merge b).format = if a.format = b.format then a.format else none := rfl

theorem format_merge_of_eq {a b : Filter} {format : IdFormat} (ha : a.format = some format)
    (hb : b.format = some format) : (a.merge b).format = some format := by
  rw [format_merge, ha, hb, if_pos rfl]

/-- Acceptance, bit by bit. -/
theorem accepts_iff {filter : Filter} {frame : Frame} :
    filter.accepts frame = true ↔
      (∀ i < 32, filter.mask.getLsbD i = true → frame.id.getLsbD i = filter.id.getLsbD i) ∧
        ∀ format, filter.format = some format → format = frame.format := by
  have hbits : frame.id &&& filter.mask = filter.id &&& filter.mask ↔
      ∀ i < 32, filter.mask.getLsbD i = true → frame.id.getLsbD i = filter.id.getLsbD i := by
    constructor
    · intro h i hi hmask
      have hbit := congrArg (·.getLsbD i) h
      simpa [hmask] using hbit
    · intro h
      refine BitVec.eq_of_getLsbD_eq fun i hi => ?_
      rw [BitVec.getLsbD_and, BitVec.getLsbD_and]
      cases hmask : filter.mask.getLsbD i with
      | false => rw [Bool.and_false, Bool.and_false]
      | true => rw [h i hi hmask]
  unfold accepts
  rw [Bool.and_eq_true, beq_iff_eq, hbits]
  cases filter.format <;> simp

/-! ## Widths -/

theorem width_le (filter : Filter) : filter.width ≤ IdFormat.extended.width := by
  rw [width]
  cases filter.format.getD .extended <;> decide

/-- A merge is as wide as the filters or wider. -/
theorem width_le_merge (a b : Filter) : a.width ≤ (a.merge b).width := by
  by_cases h : a.format = b.format
  · have hmerge : (a.merge b).width = a.width := by rw [width, format_merge, if_pos h, width]
    exact Nat.le_of_eq hmerge.symm
  · have hmerge : (a.merge b).width = IdFormat.extended.width := by
      rw [width, format_merge, if_neg h]
      rfl
    rw [hmerge]
    exact a.width_le

theorem InWidth.merge {a : Filter} (h : a.InWidth) (b : Filter) : (a.merge b).InWidth := by
  have hwidth : 1 <<< a.width ≤ 1 <<< (a.merge b).width := by
    rw [Nat.one_shiftLeft, Nat.one_shiftLeft]
    exact Nat.pow_le_pow_right (by decide) (width_le_merge a b)
  have hid : (a.merge b).id.toNat ≤ a.id.toNat := by
    show (a.id &&& _).toNat ≤ _
    rw [BitVec.toNat_and]
    exact Nat.and_le_left
  have hmask : (a.merge b).mask.toNat ≤ a.mask.toNat := by
    show (a.mask &&& b.mask &&& _).toNat ≤ _
    rw [BitVec.toNat_and, BitVec.toNat_and]
    exact Nat.le_trans Nat.and_le_left Nat.and_le_left
  exact ⟨Nat.lt_of_lt_of_le (Nat.lt_of_le_of_lt hid h.1) hwidth,
    Nat.lt_of_lt_of_le (Nat.lt_of_le_of_lt hmask h.2) hwidth⟩

/-! ## Order and grouping -/

theorem merge_comm (a b : Filter) : a.merge b = b.merge a := by
  have hmask : ∀ i < 32, (a.merge b).mask.getLsbD i = (b.merge a).mask.getLsbD i := by
    intro i hi
    rw [mask_merge_getLsbD a b hi, mask_merge_getLsbD b a hi]
    cases a.mask.getLsbD i <;> cases b.mask.getLsbD i <;> cases a.id.getLsbD i <;> cases b.id.getLsbD i <;> rfl
  refine Filter.ext ?_ (BitVec.eq_of_getLsbD_eq hmask) ?_
  · refine BitVec.eq_of_getLsbD_eq fun i hi => ?_
    rw [id_merge_getLsbD a b i, id_merge_getLsbD b a i, mask_merge_getLsbD a b hi, mask_merge_getLsbD b a hi]
    cases a.mask.getLsbD i <;> cases b.mask.getLsbD i <;> cases a.id.getLsbD i <;> cases b.id.getLsbD i <;> rfl
  · rw [format_merge, format_merge]
    by_cases h : a.format = b.format
    · rw [if_pos h, if_pos h.symm, h]
    · rw [if_neg h, if_neg (Ne.symm h)]

theorem format_assoc (f g h : Option IdFormat) :
    (if (if f = g then f else none) = h then if f = g then f else none else none) =
      if f = if g = h then g else none then f else none := by
  by_cases hfg : f = g
  · subst hfg
    by_cases hfh : f = h
    · simp [hfh]
    · cases f <;> simp [hfh]
  · by_cases hgh : g = h
    · subst hgh
      cases g <;> simp [hfg]
    · cases f <;> cases h <;> simp [hfg, hgh]

theorem merge_assoc (a b c : Filter) : (a.merge b).merge c = a.merge (b.merge c) := by
  refine Filter.ext ?_ ?_ ?_
  · refine BitVec.eq_of_getLsbD_eq fun i hi => ?_
    simp only [id_merge_getLsbD _ _ i, mask_merge_getLsbD _ _ hi]
    cases a.mask.getLsbD i <;> cases b.mask.getLsbD i <;> cases c.mask.getLsbD i <;>
      cases a.id.getLsbD i <;> cases b.id.getLsbD i <;> cases c.id.getLsbD i <;> rfl
  · refine BitVec.eq_of_getLsbD_eq fun i hi => ?_
    simp only [id_merge_getLsbD _ _ i, mask_merge_getLsbD _ _ hi]
    cases a.mask.getLsbD i <;> cases b.mask.getLsbD i <;> cases c.mask.getLsbD i <;>
      cases a.id.getLsbD i <;> cases b.id.getLsbD i <;> cases c.id.getLsbD i <;> rfl
  · exact format_assoc a.format b.format c.format

instance : Std.Associative merge := ⟨merge_assoc⟩

/-- Merged with itself, a filter keeps its demands and loses the identifier bits that it does not demand. -/
theorem merge_self (a : Filter) : a.merge a = ⟨a.id &&& a.mask, a.mask, a.format⟩ := by
  have hmask : (a.merge a).mask = a.mask := by
    refine BitVec.eq_of_getLsbD_eq fun i hi => ?_
    rw [mask_merge_getLsbD a a hi]
    simp
  refine Filter.ext ?_ hmask ?_
  · show a.id &&& (a.merge a).mask = a.id &&& a.mask
    rw [hmask]
  · rw [format_merge, if_pos rfl]

/-- A merge keeps no identifier bit that it does not demand. -/
theorem id_merge_and_mask (a b : Filter) : (a.merge b).id &&& (a.merge b).mask = (a.merge b).id := by
  show (a.id &&& (a.merge b).mask) &&& (a.merge b).mask = a.id &&& (a.merge b).mask
  rw [BitVec.and_assoc, BitVec.and_self]

theorem merge_self_of_merge (a b : Filter) : (a.merge b).merge (a.merge b) = a.merge b := by
  rw [merge_self, id_merge_and_mask]

/-! ## Acceptance -/

theorem accepts_merge_left {a b : Filter} {frame : Frame} (h : a.accepts frame = true) :
    (a.merge b).accepts frame = true := by
  obtain ⟨hbits, hformat⟩ := accepts_iff.1 h
  refine accepts_iff.2 ⟨fun i hi hmask => ?_, fun format hmerged => ?_⟩
  · have ha : a.mask.getLsbD i = true := by
      rw [mask_merge_getLsbD a b hi, Bool.and_eq_true, Bool.and_eq_true] at hmask
      exact hmask.1.1
    rw [id_merge_getLsbD a b i, hmask, Bool.and_true, hbits i hi ha]
  · rw [format_merge] at hmerged
    by_cases heq : a.format = b.format
    · rw [if_pos heq] at hmerged
      exact hformat format hmerged
    · rw [if_neg heq] at hmerged
      cases hmerged

theorem accepts_merge_right {a b : Filter} {frame : Frame} (h : b.accepts frame = true) :
    (a.merge b).accepts frame = true := by
  rw [merge_comm]
  exact accepts_merge_left h

theorem accepts_merge_self (a : Filter) (frame : Frame) : (a.merge a).accepts frame = a.accepts frame := by
  rw [merge_self]
  simp only [accepts, BitVec.and_assoc, BitVec.and_self]

/-- **Merging is a semilattice operation.**  For filters with any fields it is commutative and associative; a filter
merged with itself accepts what it accepted, and is the same filter if it is a merge already.  The merge of two checked
filters is a checked filter. -/
theorem merge_semilattice (a b c : Filter) :
    a.merge b = b.merge a ∧ (a.merge b).merge c = a.merge (b.merge c) ∧
      (∀ frame, (a.merge a).accepts frame = a.accepts frame) ∧
      (a.merge b).merge (a.merge b) = a.merge b ∧
      (make a.id a.mask a.format = .ok a → make b.id b.mask b.format = .ok b →
        make (a.merge b).id (a.merge b).mask (a.merge b).format = .ok (a.merge b)) := by
  refine ⟨merge_comm a b, merge_assoc a b c, accepts_merge_self a, merge_self_of_merge a b, fun ha _ => ?_⟩
  rw [make_own_iff] at ha ⊢
  exact ha.merge b

/-- `merge_semilattice` across the formats: the merge of two checked filters is checked by the wider format. -/
theorem merge_semilattice_crossing :
    make 0x123 0x7FF (some .base) = .ok ⟨0x123, 0x7FF, some .base⟩ ∧
      make 0x1FFFF123 0x1FFFFFF0 (some .extended) = .ok ⟨0x1FFFF123, 0x1FFFFFF0, some .extended⟩ ∧
      make 0x120 0x7F0 none = .ok ⟨0x120, 0x7F0, none⟩ := by
  have hbase : make 0x123 0x7FF (some .base) = .ok ⟨0x123, 0x7FF, some .base⟩ := by decide
  have hextended :
      make 0x1FFFF123 0x1FFFFFF0 (some .extended) = .ok ⟨0x1FFFF123, 0x1FFFFFF0, some .extended⟩ := by decide
  obtain ⟨-, -, -, -, hchecked⟩ :=
    merge_semilattice ⟨0x123, 0x7FF, some .base⟩ ⟨0x1FFFF123, 0x1FFFFFF0, some .extended⟩ dead
  exact ⟨hbase, hextended, hchecked hbase hextended⟩

/-! ## Several filters -/

/-- The filters of a list folded with `merge`; a filter alone stays as it is. -/
def mergeAll? : List Filter → Option Filter
  | [] => none
  | filter :: rest => some (rest.foldl merge filter)

theorem mergeAll?_append {xs ys : List Filter} {a b : Filter} (hxs : mergeAll? xs = some a)
    (hys : mergeAll? ys = some b) : mergeAll? (xs ++ ys) = some (a.merge b) := by
  cases xs with
  | nil => cases hxs
  | cons x xs =>
    cases ys with
    | nil => cases hys
    | cons y ys =>
      cases hxs
      cases hys
      rw [List.cons_append, mergeAll?, List.foldl_append, List.foldl_cons, List.foldl_assoc]

theorem mergeAll?_perm {xs ys : List Filter} (h : xs.Perm ys) : mergeAll? xs = mergeAll? ys := by
  induction h with
  | nil => rfl
  | cons x h _ =>
    have hcomm : ∀ y z acc : Filter, (acc.merge y).merge z = (acc.merge z).merge y := by
      intro y z acc
      rw [merge_assoc, merge_comm y z, merge_assoc]
    exact congrArg some (h.foldl_eq' (fun y _ z _ acc => hcomm y z acc) x)
  | swap x y xs =>
    rw [mergeAll?, mergeAll?, List.foldl_cons, List.foldl_cons, merge_comm]
  | trans _ _ ih ih' => exact ih.trans ih'

/-- The merge of several filters accepts what any of them accepts. -/
theorem accepts_of_mergeAll? {xs : List Filter} {filter merged : Filter} (hmerged : mergeAll? xs = some merged)
    (hmem : filter ∈ xs) {frame : Frame} (h : filter.accepts frame = true) : merged.accepts frame = true := by
  obtain ⟨rest, hperm⟩ : ∃ rest, xs.Perm (filter :: rest) := ⟨_, List.perm_cons_erase hmem⟩
  rw [mergeAll?_perm hperm] at hmerged
  cases hmerged
  clear hmem hperm
  induction rest generalizing filter with
  | nil => exact h
  | cons next rest ih => exact ih (accepts_merge_left h)

end CanBus.Filter
