import CanBus.Capture.Record
import CanBus.Proofs.Text.Numeral
import Mathlib.Data.List.DropRight

/-!
# Words — numbers with blanks and a mark around them

A number may have blanks around it and one mark before it (`Dressed`).  Trimming and taking off the mark leave a number
as it is, and they leave no number of another text (`signed_stripped_iff`), so a text is read as a word exactly if it is
such a number that fits (`word?_eq_some_iff`).
-/

namespace CanBus

/-! ## Blanks -/

namespace Text

theorem trim_append_of_blank {front : List Char} (h : ∀ c ∈ front, isBlank c = true) (cs : List Char) :
    trim (front ++ cs) = trim cs := by
  rw [trim, List.dropWhile_append_of_pos h, ← trim]

theorem trim_append_blank {back : List Char} (h : ∀ c ∈ back, isBlank c = true) (cs : List Char) :
    trim (cs ++ back) = trim cs := by
  have hback : back.dropWhile isBlank = [] := List.dropWhile_eq_nil_iff.2 h
  have hreverse : ∀ c ∈ back.reverse, isBlank c = true := fun c hc => h c (List.mem_reverse.1 hc)
  rw [trim, trim, List.dropWhile_append, hback]
  cases hcs : cs.dropWhile isBlank with
  | nil => rfl
  | cons c rest =>
    rw [List.isEmpty_cons, if_neg (by simp), List.reverse_append, List.dropWhile_append_of_pos hreverse]

/-- What trimming removes is blank. -/
theorem exists_trim (cs : List Char) :
    ∃ front back, cs = front ++ trim cs ++ back ∧ (∀ c ∈ front, isBlank c = true) ∧ ∀ c ∈ back, isBlank c = true := by
  refine ⟨cs.takeWhile isBlank, (cs.dropWhile isBlank).rtakeWhile isBlank, ?_, fun c => List.mem_takeWhile_imp,
    fun c => List.mem_rtakeWhile_imp⟩
  have htrim : trim cs = (cs.dropWhile isBlank).rdropWhile isBlank := rfl
  rw [htrim, List.append_assoc, List.rdropWhile_append_rtakeWhile, List.takeWhile_append_dropWhile]

end Text

/-! ## Numerals -/

namespace Hex

theorem isBlank_of_digitValue? {c : Char} {d : Nat} (h : digitValue? c = some d) : Text.isBlank c = false := by
  have hascii : ∀ n < 128, (digitValue? (Char.ofNat n)).isSome = true → Text.isBlank (Char.ofNat n) = false := by decide
  have hc := hascii c.toNat (digitValue?_bounds h).2
  rw [Char.ofNat_toNat, h] at hc
  exact hc rfl

theorem Signed.isBlank {cs : List Char} {n : Nat} (h : Signed cs n) {c : Char} (hc : c ∈ cs) :
    Text.isBlank c = false := by
  rcases h.mem hc with rfl | ⟨d, hd⟩
  · decide
  · exact isBlank_of_digitValue? hd

theorem Signed.x_notMem {cs : List Char} {n : Nat} (h : Signed cs n) : 'x' ∉ cs := by
  intro hmem
  rcases h.mem hmem with hx | ⟨d, hd⟩
  · cases hx
  · cases hd

end Hex

namespace Capture

/-- The text is the numeral with blanks around it and at most one mark before it. -/
def Dressed (text numeral : List Char) : Prop :=
  ∃ front mark back, text = front ++ (mark ++ numeral) ++ back ∧ (mark = [] ∨ mark = ['0', 'x']) ∧
    (∀ c ∈ front, Text.isBlank c = true) ∧ ∀ c ∈ back, Text.isBlank c = true

theorem exists_mark (cs : List Char) : ∃ mark, cs = mark ++ withoutMark cs ∧ (mark = [] ∨ mark = ['0', 'x']) := by
  fun_cases withoutMark cs
  · exact ⟨['0', 'x'], rfl, .inr rfl⟩
  · exact ⟨[], rfl, .inl rfl⟩

/-- A number has no mark of its own. -/
theorem withoutMark_append {mark numeral : List Char} {n : Nat} (hmark : mark = [] ∨ mark = ['0', 'x'])
    (h : Hex.Signed numeral n) : withoutMark (mark ++ numeral) = numeral := by
  rcases hmark with rfl | rfl
  · rw [List.nil_append]
    fun_cases withoutMark numeral with
    | case1 cs => exact absurd (by simp) h.x_notMem
    | case2 => rfl
  · rfl

theorem trim_of_dressed {front mark numeral back : List Char} {n : Nat} (hmark : mark = [] ∨ mark = ['0', 'x'])
    (hfront : ∀ c ∈ front, Text.isBlank c = true) (hback : ∀ c ∈ back, Text.isBlank c = true)
    (h : Hex.Signed numeral n) : Text.trim (front ++ (mark ++ numeral) ++ back) = mark ++ numeral := by
  have hblank : ∀ c ∈ mark ++ numeral, Text.isBlank c = false := by
    intro c hc
    rcases List.mem_append.1 hc with hc | hc
    · rcases hmark with rfl | rfl
      · cases hc
      · obtain rfl | rfl : c = '0' ∨ c = 'x' := by simpa using hc
        all_goals rfl
    · exact h.isBlank hc
  rw [Text.trim_append_blank hback, Text.trim_append_of_blank hfront, Text.trim_of_forall hblank]

/-- A number with blanks around it and at most one mark before it. -/
def Numeric (text : List Char) (n : Nat) : Prop := ∃ numeral, Dressed text numeral ∧ Hex.Signed numeral n

/-- A text is left as a number when blanks and mark are taken off if and only if it is made of one in this way. -/
theorem signed_stripped_iff {text : List Char} {n : Nat} :
    Hex.Signed (withoutMark (Text.trim text)) n ↔ Numeric text n := by
  constructor
  · intro h
    obtain ⟨front, back, htext, hfront, hback⟩ := Text.exists_trim text
    obtain ⟨mark, hcore, hmark⟩ := exists_mark (Text.trim text)
    exact ⟨_, ⟨front, mark, back, hcore ▸ htext, hmark, hfront, hback⟩, h⟩
  · rintro ⟨numeral, ⟨front, mark, back, rfl, hmark, hfront, hback⟩, h⟩
    rwa [trim_of_dressed hmark hfront hback h, withoutMark_append hmark h]

/-- What is no blank, no digit, no sign and no part of the mark for hexadecimal is not in a number. -/
theorem Numeric.notMem {text : List Char} {n : Nat} (h : Numeric text n) {c : Char}
    (hblank : Text.isBlank c = false) (hdigit : Hex.digitValue? c = none) (hmark : c ∉ ['+', '0', 'x']) : c ∉ text := by
  obtain ⟨numeral, ⟨front, mark, back, rfl, hdressed, hfront, hback⟩, hsigned⟩ := h
  have hplus : c ≠ '+' := fun hc => hmark (by simp [hc])
  have hnumeral : c ∉ numeral := by
    intro hc
    rcases hsigned.mem hc with hc | ⟨d, hd⟩
    · exact hplus hc
    · rw [hdigit] at hd
      cases hd
  have hprefix : c ∉ mark := by
    rcases hdressed with rfl | rfl
    · exact List.not_mem_nil
    · exact fun hc => hmark (List.mem_cons_of_mem _ hc)
  have hspaces : ∀ blanks : List Char, (∀ b ∈ blanks, Text.isBlank b = true) → c ∉ blanks := by
    intro blanks hblanks hc
    rw [hblanks c hc] at hblank
    cases hblank
  simp only [List.mem_append, not_or]
  exact ⟨⟨hspaces front hfront, hprefix, hnumeral⟩, hspaces back hback⟩

/-- **What is read as a word.**  Blanks, at most one mark, and a number that fits the word. -/
theorem word?_eq_some_iff {text : List Char} {word : BitVec 32} : word? text = some word ↔ Numeric text word.toNat := by
  rw [← signed_stripped_iff, ← Hex.readWord_eq_ok_iff, word?]
  cases Hex.readWord (withoutMark (Text.trim text)) <;> simp [Except.toOption]

/-! ## Printed numbers -/

theorem dressed_self (numeral : List Char) : Dressed numeral numeral :=
  ⟨[], [], [], by simp, .inl rfl, nofun, nofun⟩

theorem dressed_marked (numeral : List Char) : Dressed ('0' :: 'x' :: numeral) numeral :=
  ⟨[], ['0', 'x'], [], by simp, .inr rfl, nofun, nofun⟩

/-- A printed identifier is read as a word. -/
theorem word?_idText (frame : Frame) : word? frame.idText = some frame.id :=
  word?_eq_some_iff.2 ⟨_, dressed_marked _, (Hex.spells_upper frame.format.one_le_digits frame.id_lt).signed⟩

end Capture

end CanBus
