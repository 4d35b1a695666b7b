import CanBus.SocketCan.KernelFrame
import Mathlib.Algebra.Group.Nat.Defs

/-!
# Kernel frames — frames survive the way through a socket

Over every library of kernel frames that does what is documented of it, a frame has a kernel frame if and only if its
payload fits a classic frame, and that reads back as the frame without its loopback flag.  The other way round, every
kernel frame but error reports and remote frames has a data frame, of which only the bits that say nothing are lost.
`conversion_faithful` puts both ways together, and `KernelFrame.documented` says that the library at hand is such a one.
-/

namespace CanBus.SocketCan

/-! ## Libraries that do what is documented -/

namespace FrameLibrary

variable {Kernel : Type} {library : FrameLibrary Kernel} {frame : Frame} {kernel : Kernel}

/-- The identifier is that of the frame, in its format. -/
def Names (library : FrameLibrary Kernel) (frame : Frame) : EitherId library.Standard library.Extended → Prop
  | .standard id => frame.format = .base ∧ (library.standardRaw id).toNat = frame.id.toNat
  | .extended id => frame.format = .extended ∧ (library.extendedRaw id).toNat = frame.id.toNat

/-- Eleven bits survive in half a word. -/
theorem narrow?_of_lt {word : BitVec 32} (h : word.toNat < 1 <<< 11) :
    ∃ half, narrow? word = some half ∧ half.toNat = word.toNat := by
  have hhalf : word.toNat < 1 <<< 16 := Nat.lt_trans h (by decide)
  refine ⟨word.setWidth 16, if_pos hhalf, ?_⟩
  rw [BitVec.toNat_setWidth]
  exact Nat.mod_eq_of_lt hhalf

/-- The identifier of a frame is never refused: neither by the narrowing nor by a constructor of the library. -/
theorem Documented.exists_idOf? (h : library.Documented) (frame : Frame) :
    ∃ id, library.idOf? frame = some id ∧ library.Names frame id := by
  have hid := frame.id_le
  unfold idOf?
  cases hformat : frame.format with
  | base =>
    rw [hformat] at hid
    have hlt : frame.id.toNat < 1 <<< 11 := Nat.lt_of_le_of_lt hid (by decide)
    obtain ⟨half, hhalf, hsame⟩ := narrow?_of_lt hlt
    obtain ⟨id, hconstructed⟩ := (h.standard_iff half).2 (hsame ▸ hlt)
    refine ⟨.standard id, ?_, hformat, ?_⟩
    · simp only [hhalf, Option.bind_some, hconstructed, Option.map_some]
    · rw [h.standard_raw hconstructed, hsame]
  | extended =>
    rw [hformat] at hid
    obtain ⟨id, hconstructed⟩ := (h.extended_iff frame.id).2 (Nat.lt_of_le_of_lt hid (by decide))
    refine ⟨.extended id, ?_, hformat, ?_⟩
    · simp only [hconstructed, Option.map_some]
    · rw [h.extended_raw hconstructed]

theorem ofFrame_eq_ok_iff :
    library.ofFrame frame = .ok kernel ↔
      ∃ id, library.idOf? frame = some id ∧ library.frame? id frame.payload = some kernel := by
  unfold ofFrame
  cases library.idOf? frame with
  | none => exact ⟨nofun, fun ⟨id, hid, _⟩ => nomatch hid⟩
  | some id =>
    dsimp only
    cases hframe : library.frame? id frame.payload with
    | none =>
      refine ⟨nofun, fun ⟨other, hother, hsome⟩ => ?_⟩
      cases hother
      rw [hframe] at hsome
      cases hsome
    | some made =>
      constructor
      · intro hok
        cases hok
        exact ⟨id, rfl, hframe⟩
      · rintro ⟨other, hother, hsome⟩
        cases hother
        rw [hframe] at hsome
        cases hsome
        rfl

/-- A frame has a kernel frame if and only if its payload fits. -/
theorem Documented.exists_ofFrame_iff (h : library.Documented) :
    (∃ kernel, library.ofFrame frame = .ok kernel) ↔ frame.payload.length ≤ maxPayload := by
  obtain ⟨id, hid, -⟩ := h.exists_idOf? frame
  rw [← h.frame_iff id]
  constructor
  · rintro ⟨kernel, hkernel⟩
    obtain ⟨other, hother, hframe⟩ := ofFrame_eq_ok_iff.1 hkernel
    rw [hid] at hother
    cases hother
    exact ⟨kernel, hframe⟩
  · rintro ⟨kernel, hframe⟩
    exact ⟨kernel, ofFrame_eq_ok_iff.2 ⟨id, hid, hframe⟩⟩

/-- The kernel frame of a frame is a data frame with its identifier and its payload. -/
theorem Documented.parts_of_ofFrame (h : library.Documented) (hkernel : library.ofFrame frame = .ok kernel) :
    library.kind kernel = .data ∧ library.Names frame (library.id kernel) ∧ library.data kernel = frame.payload := by
  obtain ⟨id, hid, hframe⟩ := ofFrame_eq_ok_iff.1 hkernel
  obtain ⟨other, hother, hnames⟩ := h.exists_idOf? frame
  rw [hid] at hother
  cases hother
  exact ⟨h.frame_kind hframe, h.frame_id hframe ▸ hnames, h.frame_data hframe⟩

/-- A kernel frame with the identifier and the payload of a frame reads back as the frame. -/
theorem toFrame?_of_names (hkind : library.kind kernel = .data) (hnames : library.Names frame (library.id kernel))
    (hdata : library.data kernel = frame.payload) : library.toFrame? kernel = some (frame.tagged false) := by
  have hmake : ∀ {id : BitVec 32} {format : IdFormat}, format = frame.format → id.toNat = frame.id.toNat →
      (Frame.make id (library.data kernel) format false).toOption = some (frame.tagged false) := by
    rintro id format rfl hid
    obtain rfl : id = frame.id := BitVec.eq_of_toNat_eq hid
    rw [hdata]
    exact congrArg Except.toOption (frame.tagged false).make_eq_ok
  rw [toFrame?, if_pos hkind]
  cases hid : library.id kernel with
  | standard id =>
    rw [hid] at hnames
    refine hmake hnames.1.symm ?_
    rw [BitVec.toNat_setWidth, hnames.2]
    exact Nat.mod_eq_of_lt frame.id.isLt
  | extended id =>
    rw [hid] at hnames
    exact hmake hnames.1.symm hnames.2

/-- The identifier word of a data frame says the format and the identifier of the frame that it carries. -/
theorem Documented.word_of_names (h : library.Documented) (hkind : library.kind kernel = .data)
    (hnames : library.Names frame (library.id kernel)) :
    (library.word kernel).getLsbD 31 = decide (frame.format = .extended) ∧
      library.identifier kernel = frame.id.toNat := by
  unfold identifier
  cases hid : library.id kernel with
  | standard id =>
    rw [hid] at hnames
    obtain ⟨hflag, hlow⟩ := h.id_standard hkind hid
    rw [hflag, hnames.1, ← hnames.2, hlow]
    exact ⟨rfl, rfl⟩
  | extended id =>
    rw [hid] at hnames
    obtain ⟨hflag, hlow⟩ := h.id_extended hkind hid
    rw [hflag, hnames.1, ← hnames.2, hlow]
    exact ⟨rfl, rfl⟩

/-- Some frame has the identifier and the payload of a data frame. -/
theorem Documented.exists_names (h : library.Documented) (hlen : (library.data kernel).length ≤ maxPayload)
    (hkind : library.kind kernel = .data) :
    ∃ frame, library.Names frame (library.id kernel) ∧ library.data kernel = frame.payload := by
  have hshort : (library.data kernel).length ≤ CanBus.maxPayload := Nat.le_trans hlen (by decide)
  cases hid : library.id kernel with
  | standard id =>
    have hlow := (h.id_standard hkind hid).2
    have hlt : (library.standardRaw id).toNat < 1 <<< 11 := hlow ▸ Nat.mod_lt _ (by decide)
    have hwide : ((library.standardRaw id).setWidth 32).toNat = (library.standardRaw id).toNat := by
      rw [BitVec.toNat_setWidth, Nat.mod_eq_of_lt (Nat.lt_trans hlt (by decide))]
    exact ⟨⟨_, _, .base, false, Nat.le_of_lt_succ (hwide ▸ hlt), hshort⟩, ⟨rfl, hwide.symm⟩, rfl⟩
  | extended id =>
    have hlow := (h.id_extended hkind hid).2
    have hlt : (library.extendedRaw id).toNat < 1 <<< 29 := hlow ▸ Nat.mod_lt _ (by decide)
    exact ⟨⟨_, _, .extended, false, Nat.le_of_lt_succ hlt, hshort⟩, ⟨rfl, rfl⟩, rfl⟩

/-- A kernel frame is a data frame unless a flag of its word says otherwise. -/
theorem Documented.kind_ne_data_iff (h : library.Documented) :
    library.kind kernel ≠ .data ↔
      (library.word kernel).getLsbD 30 = true ∨ (library.word kernel).getLsbD 29 = true := by
  have herror := h.kind_error_iff kernel
  have hremote := h.kind_remote_iff kernel
  cases hkind : library.kind kernel with
  | data =>
    rw [hkind] at herror hremote
    refine iff_of_false (not_not_intro rfl) ?_
    rintro (hflag | hflag)
    · cases hfirst : (library.word kernel).getLsbD 29 with
      | true => cases herror.2 hfirst
      | false => cases hremote.2 ⟨hfirst, hflag⟩
    · cases herror.2 hflag
  | remote => exact iff_of_true nofun (.inl (hremote.1 hkind).2)
  | error => exact iff_of_true nofun (.inr (herror.1 hkind))

theorem Documented.toFrame?_eq_none_iff (h : library.Documented)
    (hlen : (library.data kernel).length ≤ maxPayload) :
    library.toFrame? kernel = none ↔
      (library.word kernel).getLsbD 30 = true ∨ (library.word kernel).getLsbD 29 = true := by
  rw [← h.kind_ne_data_iff]
  by_cases hkind : library.kind kernel = .data
  · obtain ⟨frame, hnames, hdata⟩ := h.exists_names hlen hkind
    rw [toFrame?_of_names hkind hnames hdata]
    exact iff_of_false nofun (not_not_intro hkind)
  · rw [toFrame?, if_neg hkind]
    exact iff_of_true rfl hkind

/-- What comes out of the kernel goes in again with flag, identifier and payload as they were. -/
theorem Documented.ofFrame_toFrame? (h : library.Documented) (hlen : (library.data kernel).length ≤ maxPayload)
    (hframe : library.toFrame? kernel = some frame) :
    ∃ back, library.ofFrame frame = .ok back ∧
      (library.word back).getLsbD 31 = (library.word kernel).getLsbD 31 ∧
      library.identifier back = library.identifier kernel ∧ library.data back = library.data kernel := by
  have hkind : library.kind kernel = .data := by
    by_cases hkind : library.kind kernel = .data
    · exact hkind
    · rw [toFrame?, if_neg hkind] at hframe
      cases hframe
  obtain ⟨found, hnames, hdata⟩ := h.exists_names hlen hkind
  rw [toFrame?_of_names hkind hnames hdata] at hframe
  cases hframe
  have hfits : (found.tagged false).payload.length ≤ maxPayload := hdata ▸ hlen
  obtain ⟨back, hback⟩ := h.exists_ofFrame_iff.2 hfits
  obtain ⟨hkind', hnames', hdata'⟩ := h.parts_of_ofFrame hback
  obtain ⟨hflag, hidentifier⟩ := h.word_of_names hkind hnames
  obtain ⟨hflag', hidentifier'⟩ := h.word_of_names hkind' hnames'
  exact ⟨back, hback, hflag'.trans hflag.symm, hidentifier'.trans hidentifier.symm, hdata'.trans hdata.symm⟩

/-- **Conversion is faithful both ways**, over every library that does what is documented.  A frame has a kernel frame
if and only if its payload has at most eight bytes, and it comes back without its loopback flag.  A kernel frame of that
size has a data frame unless its flags say that it is a remote frame or an error report, and the kernel frame of that
data frame has the same flag for an extended identifier, the same identifier and the same payload. -/
theorem conversion_faithful (h : library.Documented) :
    (∀ frame : Frame, ((∃ kernel, library.ofFrame frame = .ok kernel) ↔ frame.payload.length ≤ 8) ∧
      ∀ kernel, library.ofFrame frame = .ok kernel → library.toFrame? kernel = some (frame.tagged false)) ∧
    ∀ kernel : Kernel, (library.data kernel).length ≤ 8 →
      (library.toFrame? kernel = none ↔
        (library.word kernel).getLsbD 30 = true ∨ (library.word kernel).getLsbD 29 = true) ∧
      ∀ frame, library.toFrame? kernel = some frame → ∃ back, library.ofFrame frame = .ok back ∧
        (library.word back).getLsbD 31 = (library.word kernel).getLsbD 31 ∧
        library.identifier back = library.identifier kernel ∧ library.data back = library.data kernel := by
  refine ⟨fun frame => ⟨h.exists_ofFrame_iff, fun kernel hkernel => ?_⟩,
    fun kernel hlen => ⟨h.toFrame?_eq_none_iff hlen, fun frame hframe => h.ofFrame_toFrame? hlen hframe⟩⟩
  obtain ⟨hkind, hnames, hdata⟩ := h.parts_of_ofFrame hkernel
  exact toFrame?_of_names hkind hnames hdata

end FrameLibrary

/-! ## The library at hand -/

namespace KernelFrame

/-- A flag shows in a word if its bit is set. -/
theorem and_flag_bne (word : BitVec 32) {i : Nat} (hi : i < 32) :
    (word &&& BitVec.twoPow 32 i != 0) = word.getLsbD i := by
  rw [BitVec.and_twoPow]
  cases word.getLsbD i with
  | false => rfl
  | true =>
    rw [if_pos rfl, bne_iff_ne]
    intro hzero
    have hbit := congrArg (·.getLsbD i) hzero
    simp [hi] at hbit

theorem toNat_and_mask (word : BitVec 32) {k : Nat} (hk : k ≤ 32) :
    (word &&& BitVec.ofNat 32 (1 <<< k - 1)).toNat = word.toNat % 1 <<< k := by
  rw [Nat.one_shiftLeft]
  have hmask : 2 ^ k - 1 < 2 ^ 32 := by
    have hpow : 2 ^ k ≤ 2 ^ 32 := Nat.pow_le_pow_right (by decide) hk
    omega
  rw [BitVec.toNat_and, BitVec.toNat_ofNat, Nat.mod_eq_of_lt hmask, Nat.and_two_pow_sub_one_eq_mod]

theorem isError_eq (kernel : KernelFrame) : kernel.isError = kernel.idWord.getLsbD 29 :=
  and_flag_bne kernel.idWord (i := 29) (by decide)

theorem isRemote_eq (kernel : KernelFrame) : kernel.isRemote = kernel.idWord.getLsbD 30 :=
  and_flag_bne kernel.idWord (i := 30) (by decide)

theorem isExtended_eq (kernel : KernelFrame) : kernel.isExtended = kernel.idWord.getLsbD 31 :=
  and_flag_bne kernel.idWord (i := 31) (by decide)

/-- The word of an identifier has none of the flags for frames without data. -/
theorem isData_wordOf (id : EitherId StandardId ExtendedId) (data : List UInt8) :
    (⟨wordOf id, data⟩ : KernelFrame).isError = false ∧ (⟨wordOf id, data⟩ : KernelFrame).isRemote = false := by
  rw [isError_eq, isRemote_eq]
  cases id with
  | standard id =>
    have hclear : ∀ i, 16 ≤ i → (wordOf (.standard id)).getLsbD i = false := by
      intro i hi
      rw [wordOf, BitVec.getLsbD_setWidth, BitVec.getLsbD_of_ge _ _ hi, Bool.and_false]
    exact ⟨hclear 29 (by decide), hclear 30 (by decide)⟩
  | extended id =>
    have hclear : ∀ i, 29 ≤ i → id.val.getLsbD i = false := fun i hi =>
      getLsbD_of_toNat_lt (k := 29) id.property hi
    have hflag : ∀ i, i ≠ 31 → extendedFlag.getLsbD i = false := by
      intro i hi
      have htwo : extendedFlag = BitVec.twoPow 32 31 := by decide
      rw [htwo, BitVec.getLsbD_twoPow]
      simpa using Ne.symm hi
    have hbits : ∀ i, 29 ≤ i → i ≠ 31 → (wordOf (.extended id)).getLsbD i = false := by
      intro i hi hne
      rw [wordOf, BitVec.getLsbD_or, hclear i hi, hflag i hne, Bool.or_false]
    exact ⟨hbits 29 (by decide) (by decide), hbits 30 (by decide) (by decide)⟩

/-- The identifier is read back from its word. -/
theorem id_wordOf (id : EitherId StandardId ExtendedId) (data : List UInt8) :
    library.id ⟨wordOf id, data⟩ = id := by
  cases id with
  | standard id =>
    have hplain : (⟨wordOf (.standard id), data⟩ : KernelFrame).isExtended = false := by
      rw [isExtended_eq, wordOf, BitVec.getLsbD_setWidth, BitVec.getLsbD_of_ge _ _ (by decide), Bool.and_false]
    have hlow : (id.val.setWidth 32 &&& baseMask).setWidth 16 = id.val := by
      refine BitVec.eq_of_toNat_eq ?_
      have hid := id.property
      have hwide : (id.val.setWidth 32).toNat = id.val.toNat := by
        rw [BitVec.toNat_setWidth, Nat.mod_eq_of_lt (Nat.lt_trans hid (by decide))]
      have hmasked : (id.val.setWidth 32 &&& baseMask).toNat = id.val.toNat := by
        rw [show baseMask = BitVec.ofNat 32 (1 <<< 11 - 1) from rfl, toNat_and_mask _ (by decide), hwide,
          Nat.mod_eq_of_lt hid]
      rw [BitVec.toNat_setWidth, hmasked, Nat.mod_eq_of_lt (Nat.lt_trans hid (by decide))]
    have hread : library.id ⟨wordOf (.standard id), data⟩ = .standard ⟨_, low_lt _⟩ := if_neg (by simp [hplain])
    rw [hread]
    exact congrArg EitherId.standard (Subtype.ext hlow)
  | extended id =>
    have hflagged : (⟨wordOf (.extended id), data⟩ : KernelFrame).isExtended = true := by
      rw [isExtended_eq, wordOf, BitVec.getLsbD_or, show extendedFlag.getLsbD 31 = true by decide, Bool.or_true]
    have hmasked : (id.val ||| extendedFlag) &&& extendedMask = id.val := by
      refine BitVec.eq_of_toNat_eq ?_
      have hflag : extendedFlag.toNat % 2 ^ 29 = 0 := by decide
      rw [show extendedMask = BitVec.ofNat 32 (1 <<< 29 - 1) from rfl, toNat_and_mask _ (by decide), BitVec.toNat_or]
      show (id.val.toNat ||| extendedFlag.toNat) % 2 ^ 29 = _
      rw [Nat.or_mod_two_pow, hflag, Nat.or_zero]
      exact Nat.mod_eq_of_lt id.property
    have hread : library.id ⟨wordOf (.extended id), data⟩ = .extended ⟨_, masked_lt _⟩ := if_pos hflagged
    rw [hread]
    exact congrArg EitherId.extended (Subtype.ext hmasked)

/-- A number of so many bits, if this is one. -/
theorem checked_eq_some_iff {n k : Nat} {raw : BitVec n} {id : { raw : BitVec n // raw.toNat < 1 <<< k }} :
    (if h : raw.toNat < 1 <<< k then some ⟨raw, h⟩ else none) = some id ↔ raw = id.val := by
  by_cases h : raw.toNat < 1 <<< k
  · rw [dif_pos h, Option.some.injEq, Subtype.ext_iff]
  · rw [dif_neg h]
    exact iff_of_false nofun fun hraw => h (hraw ▸ id.property)

theorem exists_checked_iff {n k : Nat} {raw : BitVec n} :
    (∃ id : { raw : BitVec n // raw.toNat < 1 <<< k },
      (if h : raw.toNat < 1 <<< k then some ⟨raw, h⟩ else none) = some id) ↔ raw.toNat < 1 <<< k := by
  simp only [checked_eq_some_iff]
  exact ⟨fun ⟨id, hraw⟩ => hraw ▸ id.property, fun h => ⟨⟨raw, h⟩, rfl⟩⟩

theorem frame?_eq_some_iff {id : EitherId StandardId ExtendedId} {data : List UInt8} {kernel : KernelFrame} :
    library.frame? id data = some kernel ↔ data.length ≤ maxPayload ∧ kernel = ⟨wordOf id, data⟩ := by
  show (if data.length ≤ maxPayload then some (⟨wordOf id, data⟩ : KernelFrame) else none) = some kernel ↔ _
  by_cases h : data.length ≤ maxPayload
  · rw [if_pos h, Option.some.injEq]
    exact ⟨fun hkernel => ⟨h, hkernel.symm⟩, fun hkernel => hkernel.2.symm⟩
  · rw [if_neg h]
    exact iff_of_false nofun fun hkernel => h hkernel.1

theorem kind_eq (kernel : KernelFrame) :
    library.kind kernel =
      if kernel.idWord.getLsbD 29 then .error else if kernel.idWord.getLsbD 30 then .remote else .data := by
  rw [← isError_eq, ← isRemote_eq]
  rfl

theorem id_eq (kernel : KernelFrame) :
    library.id kernel =
      if kernel.idWord.getLsbD 31 then .extended ⟨_, masked_lt kernel.idWord⟩
      else .standard ⟨_, low_lt kernel.idWord⟩ := by
  rw [← isExtended_eq]
  rfl

/-- **The library at hand does what is documented.** -/
theorem documented : library.Documented where
  standard_iff _ := exists_checked_iff
  standard_raw hid := (checked_eq_some_iff.1 hid).symm
  extended_iff _ := exists_checked_iff
  extended_raw hid := (checked_eq_some_iff.1 hid).symm
  frame_iff _ _ :=
    ⟨fun ⟨_, hkernel⟩ => (frame?_eq_some_iff.1 hkernel).1, fun hfits => ⟨_, frame?_eq_some_iff.2 ⟨hfits, rfl⟩⟩⟩
  frame_kind {id data kernel} hkernel := by
    obtain ⟨-, rfl⟩ := frame?_eq_some_iff.1 hkernel
    obtain ⟨herror, hremote⟩ := isData_wordOf id data
    rw [isError_eq] at herror
    rw [isRemote_eq] at hremote
    rw [kind_eq, herror, hremote]
    rfl
  frame_id {id data kernel} hkernel := by
    obtain ⟨-, rfl⟩ := frame?_eq_some_iff.1 hkernel
    exact id_wordOf id data
  frame_data {id data kernel} hkernel := by
    obtain ⟨-, rfl⟩ := frame?_eq_some_iff.1 hkernel
    rfl
  kind_error_iff kernel := by
    rw [kind_eq]
    show _ ↔ kernel.idWord.getLsbD 29 = true
    cases kernel.idWord.getLsbD 29 <;> cases kernel.idWord.getLsbD 30 <;> decide
  kind_remote_iff kernel := by
    rw [kind_eq]
    show _ ↔ kernel.idWord.getLsbD 29 = false ∧ kernel.idWord.getLsbD 30 = true
    cases kernel.idWord.getLsbD 29 <;> cases kernel.idWord.getLsbD 30 <;> decide
  id_extended {kernel id} _ hid := by
    rw [id_eq] at hid
    cases hflag : kernel.idWord.getLsbD 31 with
    | false =>
      rw [hflag] at hid
      cases hid
    | true =>
      rw [hflag] at hid
      cases hid
      exact ⟨hflag, toNat_and_mask kernel.idWord (k := 29) (by decide)⟩
  id_standard {kernel id} _ hid := by
    rw [id_eq] at hid
    cases hflag : kernel.idWord.getLsbD 31 with
    | true =>
      rw [hflag] at hid
      cases hid
    | false =>
      rw [hflag] at hid
      cases hid
      refine ⟨hflag, ?_⟩
      have hlow : (kernel.idWord &&& baseMask).toNat = kernel.idWord.toNat % 1 <<< 11 :=
        toNat_and_mask kernel.idWord (k := 11) (by decide)
      have hhalf : kernel.idWord.toNat % 1 <<< 11 < 1 <<< 16 := Nat.lt_trans (Nat.mod_lt _ (by decide)) (by decide)
      show ((kernel.idWord &&& baseMask).setWidth 16).toNat = _
      rw [BitVec.toNat_setWidth, hlow]
      exact Nat.mod_eq_of_lt hhalf

/-- A kernel frame whose word has bits that an identifier of eleven bits does not have. -/
def strayBits : KernelFrame := ⟨0x1ABCD7E5, [0x3D]⟩

/-- `conversion_faithful` over this library: the stray bits are lost on the way, and nothing else. -/
theorem conversion_faithful_strayBits :
    library.Documented ∧ strayBits.data.length ≤ 8 ∧
      (library.toFrame? ⟨0x60000001, []⟩ = none ↔
        (0x60000001 : BitVec 32).getLsbD 30 = true ∨ (0x60000001 : BitVec 32).getLsbD 29 = true) ∧
      library.toFrame? strayBits = some ⟨0x7E5, [0x3D], .base, false, by decide, by decide⟩ ∧
      ∃ back, library.ofFrame ⟨0x7E5, [0x3D], .base, false, by decide, by decide⟩ = .ok back ∧
        back.idWord.getLsbD 31 = false ∧ library.identifier back = 0x7E5 ∧ back.data = [0x3D] := by
  have hlen : strayBits.data.length ≤ 8 := by decide
  have hread : library.toFrame? strayBits = some ⟨0x7E5, [0x3D], .base, false, by decide, by decide⟩ := by decide
  obtain ⟨-, hkernel⟩ := FrameLibrary.conversion_faithful documented
  obtain ⟨back, hback, hflag, hidentifier, hdata⟩ := (hkernel strayBits hlen).2 _ hread
  exact ⟨documented, hlen, (hkernel ⟨0x60000001, []⟩ (by decide)).1, hread, back, hback, hflag.trans (by decide),
    hidentifier.trans (by decide), hdata⟩

/-! ### Kernel frames of frames -/

/-- The kernel frame of a frame whose payload fits. -/
def ofFitting (frame : Frame) : KernelFrame :=
  match frame.format with
  | .base => ⟨frame.id, frame.payload⟩
  | .extended => ⟨frame.id ||| extendedFlag, frame.payload⟩

theorem ofFitting_of_names {frame : Frame} {id : EitherId StandardId ExtendedId} (h : library.Names frame id) :
    ofFitting frame = ⟨wordOf id, frame.payload⟩ := by
  unfold ofFitting
  cases id with
  | standard id =>
    have hword : id.val.setWidth 32 = frame.id := by
      refine BitVec.eq_of_toNat_eq ?_
      rw [BitVec.toNat_setWidth, Nat.mod_eq_of_lt (Nat.lt_trans id.property (by decide))]
      exact h.2
    rw [h.1, wordOf, hword]
  | extended id =>
    have hword : id.val = frame.id := BitVec.eq_of_toNat_eq h.2
    rw [h.1, wordOf, hword]

theorem ofFrame_eq_ok_iff {frame : Frame} {kernel : KernelFrame} :
    ofFrame frame = .ok kernel ↔ frame.payload.length ≤ maxPayload ∧ ofFitting frame = kernel := by
  obtain ⟨id, hid, hnames⟩ := documented.exists_idOf? frame
  rw [ofFrame, FrameLibrary.ofFrame_eq_ok_iff, ofFitting_of_names hnames]
  constructor
  · rintro ⟨other, hother, hframe⟩
    cases hid.symm.trans hother
    obtain ⟨hfits, rfl⟩ := frame?_eq_some_iff.1 hframe
    exact ⟨hfits, rfl⟩
  · rintro ⟨hfits, rfl⟩
    exact ⟨id, hid, frame?_eq_some_iff.2 ⟨hfits, rfl⟩⟩

theorem ofFrame_of_fits {frame : Frame} (h : frame.payload.length ≤ maxPayload) :
    ofFrame frame = .ok (ofFitting frame) := ofFrame_eq_ok_iff.2 ⟨h, rfl⟩

/-- The frame comes back. -/
theorem toFrame?_ofFitting {frame : Frame} (h : frame.payload.length ≤ maxPayload) :
    (ofFitting frame).toFrame? = some (frame.tagged false) := by
  obtain ⟨hkind, hnames, hdata⟩ := documented.parts_of_ofFrame (ofFrame_of_fits h)
  exact FrameLibrary.toFrame?_of_names hkind hnames hdata

end KernelFrame

end CanBus.SocketCan
