import CanBus.Proofs.Text.Digits
import Mathlib.Data.List.Forall2
import Mathlib.Data.Nat.Digits.Defs

/-!
# Numerals — which texts are read as numbers

`Spells` says of digits which number they stand for, without regard to how they are read; what is printed for a number
stands for it (`spells_upper`, `spells_lower`).  Reading within a bound takes exactly the digits of a number within the
bound, and a plus sign in front of them is passed over (`read_eq_ok_iff`, `Signed`).  So a printed number reads back
(`read_upper`).
-/

namespace CanBus.Hex

/-- The digits have these values, one for one. -/
def Valued (digits : List Char) (values : List Nat) : Prop :=
  List.Forall₂ (fun c d => digitValue? c = some d) digits values

/-- Digits that stand for a number, the most significant first. -/
def Spells (digits : List Char) (n : Nat) : Prop :=
  digits ≠ [] ∧ ∃ values, Valued digits values ∧ n = Nat.ofDigits 16 values.reverse

/-! ## Digits -/

theorem digitValue?_bounds {c : Char} {d : Nat} (h : digitValue? c = some d) : d < 16 ∧ c.toNat < 128 := by
  have hle : ∀ {a b : Char}, a ≤ b → a.toNat ≤ b.toNat := fun hab => UInt32.le_iff_toNat_le.1 hab
  have hnine : '9'.toNat = 57 := rfl
  have hzero : '0'.toNat = 48 := rfl
  have hlower : 'a'.toNat = 97 ∧ 'f'.toNat = 102 := ⟨rfl, rfl⟩
  have hupper : 'A'.toNat = 65 ∧ 'F'.toNat = 70 := ⟨rfl, rfl⟩
  unfold digitValue? at h
  split_ifs at h with hdigit hsmall hcapital
  · have := hle hdigit.2
    simp only [Option.some.injEq] at h
    omega
  · have := hle hsmall.2
    simp only [Option.some.injEq] at h
    omega
  · have := hle hcapital.2
    simp only [Option.some.injEq] at h
    omega

theorem Valued.lt {digits : List Char} {values : List Nat} (h : Valued digits values) : ∀ d ∈ values, d < 16 := by
  induction h with
  | nil => simp
  | cons hdigit _ ih => simpa using ⟨(digitValue?_bounds hdigit).1, ih⟩

theorem digitValue?_plus : digitValue? '+' = none := rfl

/-- What is no digit is not among digits. -/
theorem Valued.notMem {digits : List Char} {values : List Nat} (h : Valued digits values) {c : Char}
    (hc : digitValue? c = none) : c ∉ digits := by
  induction h with
  | nil => simp
  | @cons digit d _ _ hdigit _ ih =>
    have hne : c ≠ digit := by
      rintro rfl
      simp [hc] at hdigit
    simpa using ⟨hne, ih⟩

/-- The first of several digits counts for most. -/
theorem ofDigits_reverse_cons (d : Nat) (values : List Nat) :
    Nat.ofDigits 16 (d :: values).reverse = d * 16 ^ values.length + Nat.ofDigits 16 values.reverse := by
  rw [List.reverse_cons, Nat.ofDigits_append, Nat.ofDigits_singleton, List.length_reverse]
  ring

theorem Spells.lt {digits : List Char} {n : Nat} (h : Spells digits n) : n < 16 ^ digits.length := by
  obtain ⟨-, values, hvalues, rfl⟩ := h
  have hlt := Nat.ofDigits_lt_base_pow_length (b := 16) (l := values.reverse) (by decide) fun d hd =>
    hvalues.lt d (List.mem_reverse.1 hd)
  rwa [List.length_reverse, ← hvalues.length_eq] at hlt

/-! ## Printing -/

/-- The last `width` digits of a number that has no more stand for it. -/
theorem valued_fixed {digit : Nat → Char} (hdigit : ∀ d < 16, digitValue? (digit d) = some d) {width n : Nat}
    (hn : n < 16 ^ width) :
    ∃ values, Valued (fixed digit width n) values ∧ n = Nat.ofDigits 16 values.reverse := by
  induction width generalizing n with
  | zero =>
    obtain rfl : n = 0 := by simpa using hn
    exact ⟨[], .nil, rfl⟩
  | succ width ih =>
    rw [Nat.pow_succ] at hn
    obtain ⟨values, hvalues, hfront⟩ := ih (n := n / 16) (by omega)
    have hlast : Valued [digit (n % 16)] [n % 16] := .cons (hdigit _ (Nat.mod_lt n (by decide))) .nil
    refine ⟨values ++ [n % 16], List.rel_append hvalues hlast, ?_⟩
    rw [List.reverse_concat, Nat.ofDigits_cons, ← hfront]
    omega

theorem spells_fixed {digit : Nat → Char} (hdigit : ∀ d < 16, digitValue? (digit d) = some d) {width n : Nat}
    (hwidth : 1 ≤ width) (hn : n < 16 ^ width) : Spells (fixed digit width n) n := by
  have hne : fixed digit width n ≠ [] := by
    intro hnil
    have hlength := length_fixed digit width n
    rw [hnil, List.length_nil] at hlength
    omega
  exact ⟨hne, valued_fixed hdigit hn⟩

/-- A number printed in upper-case digits is spelled. -/
theorem spells_upper {width n : Nat} (hwidth : 1 ≤ width) (hn : n < 16 ^ width) : Spells (upper width n) n := by
  rw [upper_of_lt hwidth hn]
  exact spells_fixed (fun _ => digitValue?_upperDigit) hwidth hn

theorem spells_byte (b : UInt8) : Spells (byte b) b.toNat := spells_upper (by decide) (byte_lt b)

/-- A number printed in lower-case digits is spelled. -/
theorem spells_lower {width n : Nat} (hwidth : 1 ≤ width) (hn : n < 16 ^ width) : Spells (lower width n) n := by
  rw [lower_of_lt hwidth hn]
  exact spells_fixed (fun _ => digitValue?_lowerDigit) hwidth hn

/-! ## Reading -/

/-- A text that does not open with a sign is read digit by digit. -/
theorem read_of_ne_plus {limit : Nat} {c : Char} {cs : List Char} (h : c ≠ '+') :
    read limit (c :: cs) = readDigits limit 0 (c :: cs) := by
  rw [read]
  · exact List.cons_ne_nil c cs
  · exact fun hplus => h (List.cons.inj hplus).1
  · exact fun _ hplus => h (List.cons.inj hplus).1

/-- Digits after digits of value `v` are read as what all of them stand for, as long as that is within the bound. -/
theorem readDigits_eq_ok_iff {limit v n : Nat} {digits : List Char} (hv : v ≤ limit) :
    readDigits limit v digits = .ok n ↔
      ∃ values, Valued digits values ∧ n = v * 16 ^ digits.length + Nat.ofDigits 16 values.reverse ∧ n ≤ limit := by
  induction digits generalizing v with
  | nil =>
    constructor
    · intro h
      cases h
      exact ⟨[], .nil, by simp, hv⟩
    · rintro ⟨_, hvalues, hn, -⟩
      cases hvalues
      rw [readDigits, hn]
      simp
  | cons c cs ih =>
    cases hdigit : digitValue? c with
    | none =>
      rw [readDigits, hdigit]
      constructor
      · intro h
        cases h
      · rintro ⟨_, hvalues, -⟩
        obtain ⟨d, _, hd, -, -⟩ := List.forall₂_cons_left_iff.1 hvalues
        simp [hdigit] at hd
    | some d =>
      have hstep : ∀ values : List Nat, values.length = cs.length →
          v * 16 ^ (c :: cs).length + Nat.ofDigits 16 (d :: values).reverse =
            (v * 16 + d) * 16 ^ cs.length + Nat.ofDigits 16 values.reverse := by
        intro values hlength
        rw [ofDigits_reverse_cons, hlength, List.length_cons]
        ring
      have hcons : (∃ values, Valued (c :: cs) values ∧
            n = v * 16 ^ (c :: cs).length + Nat.ofDigits 16 values.reverse ∧ n ≤ limit) ↔
          ∃ values, Valued cs values ∧
            n = (v * 16 + d) * 16 ^ cs.length + Nat.ofDigits 16 values.reverse ∧ n ≤ limit := by
        constructor
        · rintro ⟨_, hvalues, hn, hle⟩
          obtain ⟨d', values, hd', hrest, rfl⟩ := List.forall₂_cons_left_iff.1 hvalues
          obtain rfl : d = d' := by simpa [hdigit] using hd'
          exact ⟨values, hrest, hn.trans (hstep values hrest.length_eq.symm), hle⟩
        · rintro ⟨values, hrest, hn, hle⟩
          exact ⟨d :: values, .cons hdigit hrest, hn.trans (hstep values hrest.length_eq.symm).symm, hle⟩
      rw [hcons, readDigits, hdigit]
      by_cases hlimit : v * 16 + d ≤ limit
      · simp only [if_pos hlimit]
        exact ih hlimit
      · simp only [if_neg hlimit]
        constructor
        · intro h
          cases h
        · rintro ⟨values, -, hn, hle⟩
          -- each digit more makes the number no smaller
          have hgrow : v * 16 + d ≤ (v * 16 + d) * 16 ^ cs.length := Nat.le_mul_of_pos_right _ (by positivity)
          omega

theorem readDigits_zero_eq_ok_iff {limit n : Nat} {digits : List Char} (hne : digits ≠ []) :
    readDigits limit 0 digits = .ok n ↔ Spells digits n ∧ n ≤ limit := by
  simp only [readDigits_eq_ok_iff (Nat.zero_le limit), Nat.zero_mul, Nat.zero_add, Spells, hne, ne_eq,
    not_false_eq_true, true_and]
  constructor
  · rintro ⟨values, hvalues, hn, hle⟩
    exact ⟨⟨values, hvalues, hn⟩, hle⟩
  · rintro ⟨⟨values, hvalues, hn⟩, hle⟩
    exact ⟨values, hvalues, hn, hle⟩

/-! ## Signs -/

/-- Digits that stand for a number, or a plus sign and such digits. -/
def Signed (cs : List Char) (n : Nat) : Prop := ∃ digits, (cs = digits ∨ cs = '+' :: digits) ∧ Spells digits n

theorem Spells.signed {cs : List Char} {n : Nat} (h : Spells cs n) : Signed cs n := ⟨cs, .inl rfl, h⟩

theorem Spells.notMem {cs : List Char} {n : Nat} (h : Spells cs n) {c : Char} (hc : digitValue? c = none) : c ∉ cs := by
  obtain ⟨-, values, hvalues, -⟩ := h
  exact hvalues.notMem hc

theorem Spells.plus_notMem {cs : List Char} {n : Nat} (h : Spells cs n) : '+' ∉ cs := h.notMem digitValue?_plus

theorem Signed.spells {cs : List Char} {n : Nat} (h : Signed cs n) (hplus : '+' ∉ cs) : Spells cs n := by
  obtain ⟨digits, rfl | rfl, hspells⟩ := h
  · exact hspells
  · exact absurd List.mem_cons_self hplus

/-- A signed number has no other characters than digits and the sign. -/
theorem Signed.mem {cs : List Char} {n : Nat} (h : Signed cs n) {c : Char} (hc : c ∈ cs) :
    c = '+' ∨ ∃ d, digitValue? c = some d := by
  obtain ⟨digits, hcs, -, values, hvalues, -⟩ := h
  have hdigits : ∀ c ∈ digits, ∃ d, digitValue? c = some d := by
    intro c hc
    obtain ⟨i, hi, rfl⟩ := List.mem_iff_getElem.1 hc
    exact ⟨_, List.Forall₂.get hvalues hi (hvalues.length_eq ▸ hi)⟩
  rcases hcs with rfl | rfl
  · exact .inr (hdigits c hc)
  · rcases List.mem_cons.1 hc with rfl | hc
    · exact .inl rfl
    · exact .inr (hdigits c hc)

theorem Signed.ascii {cs : List Char} {n : Nat} (h : Signed cs n) {c : Char} (hc : c ∈ cs) : c.toNat < 128 := by
  rcases h.mem hc with rfl | ⟨d, hd⟩
  · decide
  · exact (digitValue?_bounds hd).2

/-- With the sign a number has no more places than without it. -/
theorem Signed.lt {cs : List Char} {n : Nat} (h : Signed cs n) : n < 16 ^ cs.length := by
  obtain ⟨digits, hcs, hspells⟩ := h
  have hle : digits.length ≤ cs.length := by
    rcases hcs with rfl | rfl <;> simp
  exact Nat.lt_of_lt_of_le hspells.lt (Nat.pow_le_pow_right (by decide) hle)

/-- **What is read as a number.**  Digits of a number within the bound, with or without one plus sign before them. -/
theorem read_eq_ok_iff {limit n : Nat} {cs : List Char} : read limit cs = .ok n ↔ Signed cs n ∧ n ≤ limit := by
  constructor
  · intro h
    cases cs with
    | nil => cases h
    | cons c cs =>
      by_cases hplus : c = '+'
      · subst hplus
        cases cs with
        | nil => cases h
        | cons d ds =>
          obtain ⟨hspells, hle⟩ := (readDigits_zero_eq_ok_iff (List.cons_ne_nil d ds)).1 h
          exact ⟨⟨d :: ds, .inr rfl, hspells⟩, hle⟩
      · rw [read_of_ne_plus hplus] at h
        obtain ⟨hspells, hle⟩ := (readDigits_zero_eq_ok_iff (List.cons_ne_nil c cs)).1 h
        exact ⟨hspells.signed, hle⟩
  · rintro ⟨⟨digits, rfl | rfl, hspells⟩, hle⟩
    · obtain ⟨c, cs, rfl⟩ := List.exists_cons_of_ne_nil hspells.1
      have hplus : c ≠ '+' := by
        rintro rfl
        exact hspells.plus_notMem List.mem_cons_self
      rw [read_of_ne_plus hplus]
      exact (readDigits_zero_eq_ok_iff hspells.1).2 ⟨hspells, hle⟩
    · obtain ⟨d, ds, rfl⟩ := List.exists_cons_of_ne_nil hspells.1
      exact (readDigits_zero_eq_ok_iff hspells.1).2 ⟨hspells, hle⟩

/-- A printed number reads back. -/
theorem read_upper {limit width n : Nat} (hwidth : 1 ≤ width) (hn : n < 16 ^ width) (hlimit : n ≤ limit) :
    read limit (upper width n) = .ok n :=
  read_eq_ok_iff.2 ⟨(spells_upper hwidth hn).signed, hlimit⟩

theorem map_eq_ok_iff {ε α β : Type} {x : Except ε α} {f : α → β} {b : β} :
    x.map f = .ok b ↔ ∃ a, x = .ok a ∧ f a = b := by
  cases x <;> simp [Except.map]

theorem mapError_eq_ok_iff {ε ε' α : Type} {x : Except ε α} {f : ε → ε'} {a : α} :
    x.mapError f = .ok a ↔ x = .ok a := by
  cases x <;> simp [Except.mapError]

/-- A word is read from a number that fits it. -/
theorem readWord_eq_ok_iff {cs : List Char} {word : BitVec 32} : readWord cs = .ok word ↔ Signed cs word.toNat := by
  have hlimit : ∀ n, n ≤ UInt32.size - 1 ↔ n < 2 ^ 32 := fun n => by
    rw [show UInt32.size = 2 ^ 32 from rfl]
    omega
  simp only [readWord, map_eq_ok_iff, read_eq_ok_iff, hlimit]
  constructor
  · rintro ⟨n, ⟨hsigned, hlt⟩, rfl⟩
    rwa [BitVec.toNat_ofNat, Nat.mod_eq_of_lt hlt]
  · exact fun h => ⟨word.toNat, ⟨h, word.isLt⟩, by rw [BitVec.ofNat_toNat, BitVec.setWidth_eq]⟩

/-- A byte is read from a number that fits it. -/
theorem readByte_eq_ok_iff {cs : List Char} {byte : UInt8} : readByte cs = .ok byte ↔ Signed cs byte.toNat := by
  simp only [readByte, map_eq_ok_iff, read_eq_ok_iff]
  constructor
  · rintro ⟨n, ⟨hsigned, hle⟩, rfl⟩
    rwa [UInt8.toNat_ofNat', Nat.mod_eq_of_lt (by omega)]
  · exact fun h => ⟨byte.toNat, ⟨h, Nat.le_of_lt_succ byte.toNat_lt⟩, UInt8.ofNat_toNat⟩

end CanBus.Hex
