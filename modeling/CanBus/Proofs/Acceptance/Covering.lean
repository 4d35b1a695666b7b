import CanBus.Proofs.Acceptance.Merge

/-!
# Covering — when a merge is the smallest filter

One filter covers another if it accepts all that the other accepts.  What matters to a filter that covers is which bits
all accepted frames share, and whether they share a format (`covers_iff`); of a checked filter both are read off its
fields (`pins_iff`, `only_base_iff`, `only_extended_iff`).  A merge covers both filters, but it looks at mask bits
alone: a base filter has none for the bits that base identifiers lack, though all its frames have zeros there.  `Tight`
says when this loses nothing, and then, but only then, no checked filter that covers both filters is smaller than the
merge (`merge_least_iff`).
-/

namespace CanBus.Filter

/-- `filter` accepts every frame that `other` accepts. -/
def Covers (filter other : Filter) : Prop := ∀ frame, other.accepts frame = true → filter.accepts frame = true

/-- All accepted frames have this value of the bit. -/
def Pins (filter : Filter) (i : Nat) (value : Bool) : Prop :=
  ∀ frame, filter.accepts frame = true → frame.id.getLsbD i = value

/-- All accepted frames are of the format. -/
def Only (filter : Filter) (format : IdFormat) : Prop :=
  ∀ frame, filter.accepts frame = true → frame.format = format

/-- The filter demands this value of a bit that no base identifier has. -/
def DemandsAbove (filter : Filter) (value : Bool) : Prop :=
  ∃ i < 32, IdFormat.base.width ≤ i ∧ filter.mask.getLsbD i = true ∧ filter.id.getLsbD i = value

instance (filter : Filter) (value : Bool) : Decidable (filter.DemandsAbove value) :=
  inferInstanceAs (Decidable (∃ i < 32, _))

/-- No base frame passes: the filter is of the other format, or it demands a bit that base identifiers lack. -/
def ExtendedOnly (filter : Filter) : Prop :=
  filter.format = some .extended ∨ filter.format = none ∧ filter.DemandsAbove true

instance (filter : Filter) : Decidable filter.ExtendedOnly := inferInstanceAs (Decidable (_ ∨ _))

/-- Merging loses nothing: base frames pass the merge only if they pass one of the filters, and a filter that is merged
with one for base frames demands no zero where these have zeros anyway. -/
structure Tight (a b : Filter) : Prop where
  formats : a.ExtendedOnly → b.ExtendedOnly → (a.merge b).ExtendedOnly
  left : a.format = some .base → b.format ≠ some .base → ¬ b.DemandsAbove false
  right : b.format = some .base → a.format ≠ some .base → ¬ a.DemandsAbove false

/-! ## What a covering filter asks -/

theorem covers_iff {filter other : Filter} :
    filter.Covers other ↔ (∀ i < 32, filter.mask.getLsbD i = true → other.Pins i (filter.id.getLsbD i)) ∧
      ∀ format, filter.format = some format → other.Only format := by
  constructor
  · intro h
    refine ⟨fun i hi hmask frame hframe => ?_, fun format hformat frame hframe => ?_⟩
    · exact (accepts_iff.1 (h frame hframe)).1 i hi hmask
    · exact ((accepts_iff.1 (h frame hframe)).2 format hformat).symm
  · rintro ⟨hpins, honly⟩ frame hframe
    refine accepts_iff.2 ⟨fun i hi hmask => ?_, fun format hformat => ?_⟩
    · exact hpins i hi hmask frame hframe
    · exact (honly format hformat frame hframe).symm

theorem covers_merge_left (a b : Filter) : (a.merge b).Covers a := fun _ h => accepts_merge_left h

theorem covers_merge_right (a b : Filter) : (a.merge b).Covers b := fun _ h => accepts_merge_right h

/-! ## Frames that pass -/

section Checked

variable {filter : Filter}

theorem InWidth.id_bit (h : filter.InWidth) {i : Nat} (hi : filter.width ≤ i) : filter.id.getLsbD i = false :=
  getLsbD_of_toNat_lt h.1 hi

theorem InWidth.mask_bit (h : filter.InWidth) {i : Nat} (hi : filter.width ≤ i) : filter.mask.getLsbD i = false :=
  getLsbD_of_toNat_lt h.2 hi

theorem InWidth.lt_extended (h : filter.InWidth) {i : Nat} (hmask : filter.mask.getLsbD i = true) :
    i < IdFormat.extended.width := by
  by_contra hi
  have hwidth := filter.width_le
  simp [h.mask_bit (i := i) (by omega)] at hmask

/-- A frame with this identifier, of the filter's format. -/
def sample (filter : Filter) (id : BitVec 32) (h : id.toNat < 1 <<< filter.width) : Frame :=
  ⟨id, [], filter.format.getD .extended, false, Nat.le_sub_one_of_lt h, Nat.zero_le _⟩

theorem accepts_sample {id : BitVec 32} (h : id.toNat < 1 <<< filter.width)
    (hbits : ∀ i < 32, filter.mask.getLsbD i = true → id.getLsbD i = filter.id.getLsbD i) :
    filter.accepts (filter.sample id h) = true := by
  refine accepts_iff.2 ⟨hbits, fun format hformat => ?_⟩
  simp [sample, hformat]

/-- The identifier of the filter itself passes. -/
theorem InWidth.accepts_own (h : filter.InWidth) : filter.accepts (filter.sample filter.id h.1) = true :=
  accepts_sample _ fun _ _ _ => rfl

theorem toNat_twoPow_lt {i width : Nat} (hi : i < width) (hwidth : width ≤ 32) :
    (BitVec.twoPow 32 i).toNat < 1 <<< width := by
  rw [BitVec.toNat_twoPow_of_lt (by omega), Nat.one_shiftLeft]
  exact Nat.pow_lt_pow_right (by decide) hi

/-- Where nothing is demanded, both values pass. -/
theorem InWidth.mask_of_pins (h : filter.InWidth) {i : Nat} (hi : i < filter.width) {value : Bool}
    (hpins : filter.Pins i value) : filter.mask.getLsbD i = true := by
  by_contra hmask
  have hwidth : filter.width ≤ 29 := filter.width_le
  have hflip : (filter.id ^^^ BitVec.twoPow 32 i).toNat < 1 <<< filter.width := by
    have hid := h.1
    have hpow := toNat_twoPow_lt hi (by omega)
    rw [Nat.one_shiftLeft] at hid hpow ⊢
    rw [BitVec.toNat_xor]
    exact Nat.xor_lt_two_pow hid hpow
  -- the identifier with this bit turned over meets all demands too
  have hbits : ∀ j < 32, filter.mask.getLsbD j = true →
      (filter.id ^^^ BitVec.twoPow 32 i).getLsbD j = filter.id.getLsbD j := by
    intro j hj hdemand
    have hne : i ≠ j := by
      rintro rfl
      exact hmask hdemand
    simp [hne]
  have hi32 : i < 32 := by omega
  have hown : filter.id.getLsbD i = value := hpins _ h.accepts_own
  have hturned : (filter.id ^^^ BitVec.twoPow 32 i).getLsbD i = value := hpins _ (accepts_sample hflip hbits)
  rw [BitVec.getLsbD_xor, hown] at hturned
  simp [hi32] at hturned

theorem pins_iff (h : filter.InWidth) {i : Nat} (hi : i < IdFormat.extended.width) {value : Bool} :
    filter.Pins i value ↔ (filter.mask.getLsbD i = true ∧ filter.id.getLsbD i = value) ∨
      (filter.format = some .base ∧ IdFormat.base.width ≤ i ∧ value = false) := by
  constructor
  · intro hpins
    have hown : filter.id.getLsbD i = value := hpins _ h.accepts_own
    by_cases hwidth : i < filter.width
    · exact .inl ⟨h.mask_of_pins hwidth hpins, hown⟩
    · -- only a base filter is narrower than an extended identifier
      have hbit := h.id_bit (i := i) (by omega)
      cases hformat : filter.format with
      | none => simp [width, hformat] at hwidth; omega
      | some format =>
        cases format with
        | base => exact .inr ⟨rfl, by simpa [width, hformat] using hwidth, by rw [← hown, hbit]⟩
        | extended => simp [width, hformat] at hwidth; omega
  · rintro (⟨hmask, rfl⟩ | ⟨hformat, hbase, rfl⟩) frame hframe
    · have hi32 : i < 32 := Nat.lt_trans hi (by decide)
      exact (accepts_iff.1 hframe).1 i hi32 hmask
    · have hsame := (accepts_iff.1 hframe).2 _ hformat
      exact frame.getLsbD_id (by rw [← hsame]; exact hbase)

/-- A filter without a format that demands no bit beyond base identifiers takes a base frame. -/
theorem exists_base (hformat : filter.format = none) (hdemands : ¬ filter.DemandsAbove true) :
    ∃ frame, filter.accepts frame = true ∧ frame.format = .base := by
  have hlow : (filter.id &&& BitVec.ofNat 32 (2 ^ 11 - 1)).toNat ≤ IdFormat.base.maxId := by
    rw [BitVec.toNat_and]
    exact Nat.and_le_right
  refine ⟨⟨_, [], .base, false, hlow, Nat.zero_le _⟩, accepts_iff.2 ⟨fun i hi hmask => ?_, by simp [hformat]⟩, rfl⟩
  by_cases hbase : i < 11
  · have hbit : (BitVec.ofNat 32 (2 ^ 11 - 1)).getLsbD i = true := by
      rw [BitVec.getLsbD_ofNat, Nat.testBit_two_pow_sub_one]
      simp [hi, hbase]
    rw [BitVec.getLsbD_and, hbit, Bool.and_true]
  · have hid : filter.id.getLsbD i = false := by
      by_contra hset
      exact hdemands ⟨i, hi, Nat.not_lt.1 hbase, hmask, by simpa using hset⟩
    rw [BitVec.getLsbD_and, hid, Bool.false_and]

theorem only_base_iff (h : filter.InWidth) : filter.Only .base ↔ filter.format = some .base := by
  constructor
  · intro honly
    have hown : filter.format.getD .extended = .base := honly _ h.accepts_own
    cases hformat : filter.format with
    | none => simp [hformat] at hown
    | some format => simpa [hformat] using hown
  · intro hformat frame hframe
    exact ((accepts_iff.1 hframe).2 _ hformat).symm

theorem only_extended_iff (h : filter.InWidth) : filter.Only .extended ↔ filter.ExtendedOnly := by
  constructor
  · intro honly
    have hown : filter.format.getD .extended = .extended := honly _ h.accepts_own
    cases hformat : filter.format with
    | some format => exact .inl (by simpa [hformat] using hown)
    | none =>
      refine .inr ⟨hformat, ?_⟩
      by_contra hdemands
      obtain ⟨frame, hframe, hbase⟩ := exists_base hformat hdemands
      simp [honly frame hframe] at hbase
  · rintro (hformat | ⟨hformat, i, hi, hbase, hmask, hset⟩) frame hframe
    · exact ((accepts_iff.1 hframe).2 _ hformat).symm
    · have hbit := (accepts_iff.1 hframe).1 i hi hmask
      cases hframeFormat : frame.format with
      | extended => rfl
      | base =>
        rw [frame.getLsbD_id (by rw [hframeFormat]; exact hbase), hset] at hbit
        simp at hbit

end Checked

/-! ## The least filter -/

/-- The filter that demands one bit and nothing else. -/
def demanding (i : Nat) (value : Bool) : Filter :=
  ⟨if value then BitVec.twoPow 32 i else 0, BitVec.twoPow 32 i, none⟩

theorem inWidth_demanding {i : Nat} (hi : i < IdFormat.extended.width) (value : Bool) :
    (demanding i value).InWidth := by
  have hpow : (BitVec.twoPow 32 i).toNat < 1 <<< 29 := toNat_twoPow_lt hi (by decide)
  refine ⟨?_, hpow⟩
  cases value with
  | false => exact (by decide : 0 < 1 <<< 29)
  | true => exact hpow

theorem demanding_covers_iff {i : Nat} (hi : i < IdFormat.extended.width) {value : Bool} {filter : Filter} :
    (demanding i value).Covers filter ↔ filter.Pins i value := by
  have hi32 : i < 32 := Nat.lt_trans hi (by decide)
  have hid : (demanding i value).id.getLsbD i = value := by cases value <;> simp [demanding, hi32]
  rw [covers_iff]
  constructor
  · intro h
    have hpins := h.1 i hi32 (by simp [demanding, hi32])
    rwa [hid] at hpins
  · intro hpins
    refine ⟨fun j hj hmask => ?_, by simp [demanding]⟩
    have hij : i = j := by simpa [demanding, hi32] using hmask
    subst hij
    rwa [hid]

theorem promiscuous_covers_iff {format : IdFormat} {filter : Filter} :
    (promiscuous (some format)).Covers filter ↔ filter.Only format := by
  simp [covers_iff, promiscuous]

/-- A filter lies below all checked filters that cover two others if it shares what those two share. -/
theorem least_iff {a b merged : Filter} :
    (∀ filter : Filter, filter.InWidth → filter.Covers a → filter.Covers b → filter.Covers merged) ↔
      (∀ i < IdFormat.extended.width, ∀ value, a.Pins i value → b.Pins i value → merged.Pins i value) ∧
        ∀ format, a.Only format → b.Only format → merged.Only format := by
  constructor
  · intro h
    refine ⟨fun i hi value ha hb => ?_, fun format ha hb => ?_⟩
    · rw [← demanding_covers_iff hi] at ha hb ⊢
      exact h _ (inWidth_demanding hi value) ha hb
    · rw [← promiscuous_covers_iff] at ha hb ⊢
      exact h _ (by cases format <;> decide) ha hb
  · rintro ⟨hpins, honly⟩ filter hwidth ha hb
    rw [covers_iff] at ha hb ⊢
    refine ⟨fun i hi hmask => ?_, fun format hformat => ?_⟩
    · exact hpins i (hwidth.lt_extended hmask) _ (ha.1 i hi hmask) (hb.1 i hi hmask)
    · exact honly format (ha.2 format hformat) (hb.2 format hformat)

/-! ## The merge -/

section Merged

variable {a b : Filter}

/-- A zero that only the other filter demands is lost, though base frames have it. -/
theorem not_demandsAbove (ha : a.InWidth) (hb : b.InWidth)
    (hpins : ∀ i < IdFormat.extended.width, ∀ value, a.Pins i value → b.Pins i value → (a.merge b).Pins i value)
    (hbase : a.format = some .base) (hother : b.format ≠ some .base) : ¬ b.DemandsAbove false := by
  rintro ⟨i, hi, hlow, hmask, hid⟩
  have hlt := hb.lt_extended hmask
  have hmerged := hpins i hlt false ((pins_iff ha hlt).2 (.inr ⟨hbase, hlow, rfl⟩))
    ((pins_iff hb hlt).2 (.inl ⟨hmask, hid⟩))
  rcases (pins_iff (ha.merge b) hlt).1 hmerged with ⟨hdemand, -⟩ | ⟨hformat, -, -⟩
  · have hclear : a.mask.getLsbD i = false := ha.mask_bit (by simpa [width, hbase] using hlow)
    rw [mask_merge_getLsbD a b hi, hclear] at hdemand
    simp at hdemand
  · rw [format_merge, hbase, if_neg hother.symm] at hformat
    simp at hformat

theorem Tight.pins (h : Tight a b) (ha : a.InWidth) (hb : b.InWidth) {i : Nat} (hi : i < IdFormat.extended.width)
    {value : Bool} (hpa : a.Pins i value) (hpb : b.Pins i value) : (a.merge b).Pins i value := by
  have hi32 : i < 32 := Nat.lt_trans hi (by decide)
  rw [pins_iff ha hi] at hpa
  rw [pins_iff hb hi] at hpb
  rw [pins_iff (ha.merge b) hi]
  rcases hpa with ⟨hma, hia⟩ | ⟨hfa, hlow, rfl⟩
  · rcases hpb with ⟨hmb, hib⟩ | ⟨hfb, hlow, rfl⟩
    · have hmask : (a.merge b).mask.getLsbD i = true := by
        rw [mask_merge_getLsbD a b hi32, hma, hmb, hia, hib]
        simp
      exact .inl ⟨hmask, by rw [id_merge_getLsbD, hmask, Bool.and_true, hia]⟩
    · by_cases hfa : a.format = some .base
      · have hclear := ha.mask_bit (i := i) (by simpa [width, hfa] using hlow)
        simp [hma] at hclear
      · exact absurd ⟨i, hi32, hlow, hma, hia⟩ (h.right hfb hfa)
  · rcases hpb with ⟨hmb, hib⟩ | ⟨hfb, -, -⟩
    · by_cases hfb : b.format = some .base
      · have hclear := hb.mask_bit (i := i) (by simpa [width, hfb] using hlow)
        simp [hmb] at hclear
      · exact absurd ⟨i, hi32, hlow, hmb, hib⟩ (h.left hfa hfb)
    · exact .inr ⟨format_merge_of_eq hfa hfb, hlow, rfl⟩

theorem Tight.only (h : Tight a b) (ha : a.InWidth) (hb : b.InWidth) (format : IdFormat) (hoa : a.Only format)
    (hob : b.Only format) : (a.merge b).Only format := by
  cases format with
  | base =>
    rw [only_base_iff ha] at hoa
    rw [only_base_iff hb] at hob
    exact (only_base_iff (ha.merge b)).2 (format_merge_of_eq hoa hob)
  | extended =>
    rw [only_extended_iff ha] at hoa
    rw [only_extended_iff hb] at hob
    rw [only_extended_iff (ha.merge b)]
    exact h.formats hoa hob

theorem least_iff_tight (ha : a.InWidth) (hb : b.InWidth) :
    (∀ filter : Filter, filter.InWidth → filter.Covers a → filter.Covers b → filter.Covers (a.merge b)) ↔
      Tight a b := by
  rw [least_iff]
  constructor
  · rintro ⟨hpins, honly⟩
    refine ⟨fun hea heb => ?_, not_demandsAbove ha hb hpins, not_demandsAbove hb ha fun i hi value hpb hpa => ?_⟩
    · rw [← only_extended_iff ha] at hea
      rw [← only_extended_iff hb] at heb
      exact (only_extended_iff (ha.merge b)).1 (honly _ hea heb)
    · rw [merge_comm]
      exact hpins i hi value hpa hpb
  · intro h
    exact ⟨fun i hi value hpa hpb => h.pins ha hb hi hpa hpb, h.only ha hb⟩

/-- Filters of one format always lie tight. -/
theorem tight_of_format_eq (h : a.format = b.format) (hne : a.format ≠ none) : Tight a b := by
  refine ⟨fun hea _ => ?_, fun hbase hother => ?_, fun hbase hother => ?_⟩
  · rcases hea with hformat | ⟨hnone, -⟩
    · exact .inl (format_merge_of_eq hformat (h ▸ hformat))
    · exact absurd hnone hne
  · exact absurd (h ▸ hbase) hother
  · exact absurd (h ▸ hbase) hother

end Merged

/-- **When a merge is the smallest filter.**  The merge of two checked filters accepts all that either accepts.  Every
checked filter that does so accepts all that the merge accepts if and only if the two lie tight, as any two filters of
one and the same format do. -/
theorem merge_least_iff {a b : Filter} (ha : make a.id a.mask a.format = .ok a)
    (hb : make b.id b.mask b.format = .ok b) :
    (a.merge b).Covers a ∧ (a.merge b).Covers b ∧
      ((∀ filter : Filter, make filter.id filter.mask filter.format = .ok filter →
        filter.Covers a → filter.Covers b → filter.Covers (a.merge b)) ↔ Tight a b) ∧
      (a.format = b.format → a.format ≠ none → Tight a b) := by
  refine ⟨covers_merge_left a b, covers_merge_right a b, ?_, tight_of_format_eq⟩
  rw [make_own_iff] at ha hb
  simp only [make_own_iff]
  exact least_iff_tight ha hb

/-- `merge_least_iff` across the formats, where the extended filter demands no bit beyond base identifiers. -/
theorem merge_least_iff_crossing :
    make 0x100 0x7FF (some .base) = .ok ⟨0x100, 0x7FF, some .base⟩ ∧
      make 0x100 0x70F (some .extended) = .ok ⟨0x100, 0x70F, some .extended⟩ ∧
      ∀ filter : Filter, make filter.id filter.mask filter.format = .ok filter →
        filter.Covers ⟨0x100, 0x7FF, some .base⟩ → filter.Covers ⟨0x100, 0x70F, some .extended⟩ →
          filter.Covers ⟨0x100, 0x70F, none⟩ := by
  have hbase : make 0x100 0x7FF (some .base) = .ok ⟨0x100, 0x7FF, some .base⟩ := by decide
  have hextended : make 0x100 0x70F (some .extended) = .ok ⟨0x100, 0x70F, some .extended⟩ := by decide
  have htight : Tight ⟨0x100, 0x7FF, some .base⟩ ⟨0x100, 0x70F, some .extended⟩ := by
    refine ⟨by decide, fun _ _ => ?_, by simp⟩
    decide
  exact ⟨hbase, hextended, (merge_least_iff hbase hextended).2.2.1.2 htight⟩

/-- One identifier in both formats: the filter that demands all of its bits accepts both frames, the merge others. -/
theorem merge_not_least :
    make 0x100 0x7FF (some .base) = .ok ⟨0x100, 0x7FF, some .base⟩ ∧
      make 0x100 0x1FFFFFFF (some .extended) = .ok ⟨0x100, 0x1FFFFFFF, some .extended⟩ ∧
      make 0x100 0x1FFFFFFF none = .ok ⟨0x100, 0x1FFFFFFF, none⟩ ∧
      Covers ⟨0x100, 0x1FFFFFFF, none⟩ ⟨0x100, 0x7FF, some .base⟩ ∧
      Covers ⟨0x100, 0x1FFFFFFF, none⟩ ⟨0x100, 0x1FFFFFFF, some .extended⟩ ∧
      ¬ Covers ⟨0x100, 0x1FFFFFFF, none⟩
        (merge ⟨0x100, 0x7FF, some .base⟩ ⟨0x100, 0x1FFFFFFF, some .extended⟩) := by
  refine ⟨by decide, by decide, by decide, covers_iff.2 ⟨fun i _ hmask => ?_, by simp⟩,
    covers_iff.2 ⟨fun i hi hmask frame hframe => ?_, by simp⟩, fun h => ?_⟩
  · have hwidth : InWidth ⟨0x100, 0x1FFFFFFF, none⟩ := by decide
    have hi := hwidth.lt_extended hmask
    refine (pins_iff (by decide) hi).2 ?_
    revert i
    decide
  · exact (accepts_iff.1 hframe).1 i hi hmask
  · have haccepts := h ⟨0x900, [], .extended, false, by decide, by decide⟩ (by decide)
    exact absurd haccepts (by decide)

end CanBus.Filter
