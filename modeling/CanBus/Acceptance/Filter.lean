import CanBus.Frame

/-!
# Acceptance filters — the mask rule, rank and merging

A frame passes a filter when identifier and filter agree on every bit of the mask, and the formats agree (a
filter without a format takes both).  `rank` counts the bits that the filter demands within its width, and
`merge` keeps the demands that two filters share.
-/

namespace CanBus

/-- An acceptance filter.  The fields are unchecked words; `Filter.make` builds the checked ones. -/
@[ext] structure Filter where
  id : BitVec 32
  mask : BitVec 32
  format : Option IdFormat
  deriving DecidableEq, Repr

namespace Filter

/-- The identifier width the filter works on, 29 bits when it takes both formats. -/
def width (filter : Filter) : Nat := (filter.format.getD .extended).width

/-- Identifier and mask lie within the width. -/
def InWidth (filter : Filter) : Prop :=
  filter.id.toNat < 1 <<< filter.width ∧ filter.mask.toNat < 1 <<< filter.width

instance (filter : Filter) : Decidable filter.InWidth :=
  inferInstanceAs (Decidable (_ ∧ _))

/-- The filter with these parts; the identifier is checked before the mask. -/
def make (id mask : BitVec 32) (format : Option IdFormat) : Except Fault Filter :=
  let filter : Filter := ⟨id, mask, format⟩
  if id.toNat < 1 <<< filter.width then
    if mask.toNat < 1 <<< filter.width then .ok filter
    else .error (.invalidFrame .filterMaskTooWide)
  else .error (.invalidFrame .filterIdentifierTooWide)

/-- Takes every frame of a format, or every frame. -/
def promiscuous (format : Option IdFormat) : Filter := ⟨0, 0, format⟩

/-- Takes no frame: it demands bit 11 of a base identifier, which has eleven bits. -/
def dead : Filter := ⟨0x800, 0xFFF, some .base⟩

/-- Whether the frame passes. -/
def accepts (filter : Filter) (frame : Frame) : Bool :=
  (frame.id &&& filter.mask == filter.id &&& filter.mask) && filter.format.all (· == frame.format)

/-- The number of mask bits within the width. -/
def demands (filter : Filter) : Nat := (List.range filter.width).countP fun i => filter.mask.getLsbD i

/-- How specific the filter is.  One that takes both formats ranks at most zero, and so below every filter of one
format that demands a bit. -/
def rank (filter : Filter) : Int :=
  if filter.format.isNone then (filter.demands : Int) - filter.width else filter.demands

/-- The demands that two filters share: mask bits of both on which their identifiers agree. -/
def merge (a b : Filter) : Filter :=
  let mask := a.mask &&& b.mask &&& ~~~(a.id ^^^ b.id)
  ⟨a.id &&& mask, mask, if a.format = b.format then a.format else none⟩

/-- The printed form: identifier, mask and format. -/
def render (filter : Filter) : String :=
  String.ofList (Hex.lower 8 filter.id.toNat) ++ "/" ++ String.ofList (Hex.lower 8 filter.mask.toNat) ++ " " ++
    (match filter.format with
      | some format => format.label
      | none => "any")

/-- The loopback flag takes no part in acceptance. -/
@[simp] theorem accepts_tagged (filter : Filter) (frame : Frame) (b : Bool) :
    filter.accepts (frame.tagged b) = filter.accepts frame := rfl

/-- The dead filter takes nothing: a base identifier lacks the bit that it demands. -/
@[simp] theorem accepts_dead (frame : Frame) : dead.accepts frame = false := by
  cases hformat : frame.format with
  | extended => simp [accepts, dead, hformat]
  | base =>
    have hbit : frame.id.getLsbD 11 = false := frame.getLsbD_id (by rw [hformat]; decide)
    have hne : frame.id &&& dead.mask ≠ dead.id &&& dead.mask := by
      intro h
      have heq : (frame.id &&& dead.mask).getLsbD 11 = (dead.id &&& dead.mask).getLsbD 11 := by rw [h]
      rw [BitVec.getLsbD_and, hbit] at heq
      exact absurd heq (by decide)
    rw [accepts, beq_eq_false_iff_ne.2 hne, Bool.false_and]

@[simp] theorem accepts_promiscuous (frame : Frame) : (promiscuous none).accepts frame = true := by
  simp [accepts, promiscuous]

theorem make_eq_ok_iff {id mask : BitVec 32} {format : Option IdFormat} {filter : Filter} :
    make id mask format = .ok filter ↔ filter = ⟨id, mask, format⟩ ∧ filter.InWidth := by
  unfold make
  by_cases hid : id.toNat < 1 <<< width ⟨id, mask, format⟩
  · by_cases hmask : mask.toNat < 1 <<< width ⟨id, mask, format⟩
    · simp only [hid, hmask, if_true, Except.ok.injEq]
      constructor
      · rintro rfl
        exact ⟨rfl, hid, hmask⟩
      · exact fun h => h.1.symm
    · simp only [hid, hmask, if_true, if_false, reduceCtorEq, false_iff, not_and]
      rintro rfl h
      exact hmask h.2
  · simp only [hid, if_false, reduceCtorEq, false_iff, not_and]
    rintro rfl h
    exact hid h.1

/-- A filter is made of its own parts if and only if they lie within its width. -/
theorem make_own_iff {filter : Filter} : make filter.id filter.mask filter.format = .ok filter ↔ filter.InWidth := by
  simp [make_eq_ok_iff]

end Filter

end CanBus
