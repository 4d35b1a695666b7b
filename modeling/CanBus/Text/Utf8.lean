/-!
# UTF-8 — which byte strings spell characters

A lead byte says how many bytes follow it and in which ranges they lie; the ranges leave out longer spellings
than needed, surrogates and everything above `10FFFF`.
-/

namespace CanBus.Utf8

/-- The ranges in which the bytes after a lead byte lie, in order; `none` for a byte that leads nothing. -/
def followers? (lead : UInt8) : Option (List (UInt8 × UInt8)) :=
  if lead < 0x80 then some []
  else if lead < 0xC2 then none
  else if lead < 0xE0 then some [(0x80, 0xBF)]
  else if lead = 0xE0 then some [(0xA0, 0xBF), (0x80, 0xBF)]
  else if lead = 0xED then some [(0x80, 0x9F), (0x80, 0xBF)]
  else if lead < 0xF0 then some [(0x80, 0xBF), (0x80, 0xBF)]
  else if lead = 0xF0 then some [(0x90, 0xBF), (0x80, 0xBF), (0x80, 0xBF)]
  else if lead < 0xF4 then some [(0x80, 0xBF), (0x80, 0xBF), (0x80, 0xBF)]
  else if lead = 0xF4 then some [(0x80, 0x8F), (0x80, 0xBF), (0x80, 0xBF)]
  else none

/-- Whether bytes in the ranges `expected`, and then whole characters, make up the list. -/
def spells : List (UInt8 × UInt8) → List UInt8 → Bool
  | [], [] => true
  | _ :: _, [] => false
  | [], b :: bs =>
    match followers? b with
    | some expected => spells expected bs
    | none => false
  | (least, greatest) :: expected, b :: bs => least ≤ b && b ≤ greatest && spells expected bs

/-- Whether the bytes spell a text. -/
def wellFormed (bs : List UInt8) : Bool := spells [] bs

/-- ASCII bytes spell a text. -/
theorem wellFormed_of_ascii {bs : List UInt8} (h : ∀ b ∈ bs, b < 0x80) : wellFormed bs = true := by
  induction bs with
  | nil => rfl
  | cons b bs ih =>
    have hb : followers? b = some [] := by rw [followers?, if_pos (h b (by simp))]
    simp only [wellFormed, spells, hb] at ih ⊢
    exact ih fun c hc => h c (by simp [hc])

end CanBus.Utf8
