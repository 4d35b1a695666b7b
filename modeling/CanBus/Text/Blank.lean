/-!
# Blank — the characters that trimming removes

The table is the Unicode property `White_Space`.
-/

namespace CanBus.Text

/-- The characters with the Unicode property `White_Space`. -/
def isBlank (c : Char) : Bool :=
  let n := c.toNat
  (9 ≤ n && n ≤ 13) || n == 0x20 || n == 0x85 || n == 0xA0 || n == 0x1680 || (0x2000 ≤ n && n ≤ 0x200A) ||
    n == 0x2028 || n == 0x2029 || n == 0x202F || n == 0x205F || n == 0x3000

/-- The text without the blanks at its two ends. -/
def trim (cs : List Char) : List Char :=
  ((cs.dropWhile isBlank).reverse.dropWhile isBlank).reverse

/-- Every blank of the ASCII range is in the table. -/
theorem isBlank_of_isWhitespace {c : Char} (h : c.isWhitespace = true) : isBlank c = true := by
  simp only [Char.isWhitespace, Bool.or_eq_true, decide_eq_true_eq] at h
  rcases h with ((rfl | rfl) | rfl) | rfl <;> decide

@[simp] theorem trim_nil : trim [] = [] := rfl

/-- A text without blanks stays as it is. -/
theorem trim_of_forall {cs : List Char} (h : ∀ c ∈ cs, isBlank c = false) : trim cs = cs := by
  have hdrop : ∀ {cs : List Char}, (∀ c ∈ cs, isBlank c = false) → cs.dropWhile isBlank = cs := by
    intro cs h
    cases cs with
    | nil => rfl
    | cons c cs => rw [List.dropWhile_cons_of_neg (by simp [h c])]
  rw [trim, hdrop h, hdrop fun c hc => h c (List.mem_reverse.1 hc), List.reverse_reverse]

/-- A text that opens with another character than a blank is not blank. -/
theorem trim_cons_ne_nil {c : Char} (h : isBlank c = false) (cs : List Char) : trim (c :: cs) ≠ [] := by
  intro hnil
  rw [trim, List.dropWhile_cons_of_neg (by simp [h]), List.reverse_eq_nil_iff] at hnil
  have hsplit := List.takeWhile_append_dropWhile (p := isBlank) (l := (c :: cs).reverse)
  rw [hnil, List.append_nil] at hsplit
  have hblank : (c :: cs).reverse.all isBlank = true := hsplit ▸ List.all_takeWhile
  have hc := List.all_eq_true.1 hblank c (by simp)
  rw [h] at hc
  cases hc

end CanBus.Text
