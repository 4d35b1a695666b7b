import CanBus.Frame
import Mathlib.Algebra.Group.Nat.Defs

/-!
# Digits — how numbers are printed

A printed number is a string of hexadecimal digits (`mem_upper`), `width` of them as long as the number fits
(`upper_of_lt`, `lower_of_lt`).  The digits of a format are enough for the identifiers of its frames.
-/

namespace CanBus.Hex

/-! ## One digit -/

theorem digitValue?_upperDigit {d : Nat} (h : d < 16) : digitValue? (upperDigit d) = some d := by
  revert d
  decide

theorem digitValue?_lowerDigit {d : Nat} (h : d < 16) : digitValue? (lowerDigit d) = some d := by
  revert d
  decide

theorem upperDigit_toNat_lt {d : Nat} (h : d < 16) : (upperDigit d).toNat < 128 := by
  revert d
  decide

theorem mem_fixed {digit : Nat → Char} {width n : Nat} {c : Char} (h : c ∈ fixed digit width n) :
    ∃ d < 16, c = digit d := by
  induction width generalizing n with
  | zero => cases h
  | succ width ih =>
    rcases List.mem_append.1 h with hfront | hlast
    · exact ih hfront
    · exact ⟨n % 16, Nat.mod_lt n (by decide), List.mem_singleton.1 hlast⟩

theorem mem_upper {width n : Nat} {c : Char} (h : c ∈ upper width n) : ∃ d < 16, c = upperDigit d := mem_fixed h

/-! ## The width -/

theorem digitCount_le {width n : Nat} (hwidth : 1 ≤ width) (h : n < 16 ^ width) : digitCount n ≤ width := by
  unfold digitCount
  by_cases hn : n = 0
  · subst hn
    simpa using hwidth
  · have hpow : (16 : Nat) ^ width = 2 ^ (4 * width) := by rw [Nat.pow_mul]
    have hlog : Nat.log2 n < 4 * width := (Nat.log2_lt hn).2 (hpow ▸ h)
    omega

/-- A number that fits is padded to the width exactly. -/
theorem upper_of_lt {width n : Nat} (hwidth : 1 ≤ width) (h : n < 16 ^ width) :
    upper width n = fixed upperDigit width n := by
  rw [upper, Nat.max_eq_left (digitCount_le hwidth h)]

theorem lower_of_lt {width n : Nat} (hwidth : 1 ≤ width) (h : n < 16 ^ width) :
    lower width n = fixed lowerDigit width n := by
  rw [lower, Nat.max_eq_left (digitCount_le hwidth h)]

theorem length_upper_of_lt {width n : Nat} (hwidth : 1 ≤ width) (h : n < 16 ^ width) :
    (upper width n).length = width := by
  rw [upper_of_lt hwidth h, length_fixed]

theorem byte_lt (b : UInt8) : b.toNat < 16 ^ 2 := b.toNat_lt

theorem length_byte (b : UInt8) : (byte b).length = 2 := length_upper_of_lt (by decide) (byte_lt b)

theorem length_bytes (payload : List UInt8) : (bytes payload).length = 2 * payload.length := by
  induction payload with
  | nil => rfl
  | cons b payload ih =>
    rw [bytes, List.flatMap_cons, List.length_append, length_byte, ← bytes, ih, List.length_cons]
    omega

end CanBus.Hex

namespace CanBus.Frame

/-- The digits of the format are enough for the identifier. -/
theorem id_lt (frame : Frame) : frame.id.toNat < 16 ^ frame.format.digits := by
  have hid := frame.id_le
  cases hformat : frame.format with
  | base =>
    rw [hformat] at hid
    exact Nat.lt_of_le_of_lt hid (by decide)
  | extended =>
    rw [hformat] at hid
    exact Nat.lt_of_le_of_lt hid (by decide)

end CanBus.Frame
