import CanBus.Proofs.Capture.Record

/-!
# The grammar of records — which texts name a frame

`Record.Spells` says how the texts of a record are made up that name a frame: an identifier with blanks around it and
one mark before it, and a pair of characters for each byte of payload.  It leaves open what counts as a number.  Records
are read with numbers that may have a plus sign (`Hex.Signed`); digits alone (`Hex.Spells`) are those without such a
sign.  The data of a record may be any characters, and no pair is taken from the middle of one (`octetsAt?`).
-/

namespace CanBus

namespace Capture

/-! ## Pairs -/

/-- Two characters that stand for a byte. -/
def Pair (Number : List Char → Nat → Prop) (pair : List Char) (byte : UInt8) : Prop :=
  pair.length = 2 ∧ Number pair byte.toNat

theorem octets?_eq_some_iff {cs : List Char} {payload : List UInt8} :
    octets? cs = some payload ↔ ∃ pairs, cs = pairs.flatten ∧ List.Forall₂ (Pair Hex.Signed) pairs payload := by
  constructor
  · intro h
    fun_induction octets? cs generalizing payload with
    | case1 =>
      cases h
      exact ⟨[], rfl, .nil⟩
    | case2 => cases h
    | case3 high low rest ih =>
      cases hbyte : Hex.readByte [high, low] with
      | error flaw => simp [hbyte, Except.toOption] at h
      | ok byte =>
        obtain ⟨more, hmore, rfl⟩ : ∃ more, octets? rest = some more ∧ payload = byte :: more := by
          cases hrest : octets? rest <;> simp_all [Except.toOption]
        obtain ⟨pairs, rfl, hpairs⟩ := ih hmore
        exact ⟨[high, low] :: pairs, rfl, .cons ⟨rfl, Hex.readByte_eq_ok_iff.1 hbyte⟩ hpairs⟩
  · rintro ⟨pairs, rfl, hpairs⟩
    induction hpairs with
    | nil => rfl
    | @cons pair byte _ _ hpair _ ih =>
      obtain ⟨high, low, rfl⟩ := List.length_eq_two.1 hpair.1
      rw [List.flatten_cons, List.cons_append, List.cons_append, List.nil_append, octets?,
        Hex.readByte_eq_ok_iff.2 hpair.2, ih]
      rfl

section Numbers

variable {Number Number' : List Char → Nat → Prop} {pairs : List (List Char)} {payload : List UInt8}

/-- Pairs of one kind of number that are of another kind one by one. -/
theorem pairs_imp (h : List.Forall₂ (Pair Number) pairs payload)
    (himp : ∀ pair ∈ pairs, ∀ n, Number pair n → Number' pair n) : List.Forall₂ (Pair Number') pairs payload := by
  induction h with
  | nil => exact .nil
  | cons hpair _ ih =>
    exact .cons ⟨hpair.1, himp _ List.mem_cons_self _ hpair.2⟩
      (ih fun pair hmem => himp pair (List.mem_cons_of_mem _ hmem))

theorem exists_number_of_mem (h : List.Forall₂ (Pair Number) pairs payload) {pair : List Char} (hpair : pair ∈ pairs) :
    ∃ n, Number pair n := by
  induction h with
  | nil => cases hpair
  | cons hfirst _ ih =>
    rcases List.mem_cons.1 hpair with rfl | hpair
    · exact ⟨_, hfirst.2⟩
    · exact ih hpair

end Numbers

/-! ## Positions -/

/-- The number of bytes in which a text is encoded. -/
def encodedLength (cs : List Char) : Nat := (cs.map Char.utf8Size).sum

/-- The text in the first `n` bytes; none if these do not end with a character. -/
def before? : Nat → List Char → Option (List Char)
  | 0, _ => some []
  | _ + 1, [] => none
  | n + 1, c :: cs => if c.utf8Size ≤ n + 1 then (before? (n + 1 - c.utf8Size) cs).map (c :: ·) else none

/-- The text behind the first `n` bytes; none if these do not end with a character. -/
def behind? : Nat → List Char → Option (List Char)
  | 0, cs => some cs
  | _ + 1, [] => none
  | n + 1, c :: cs => if c.utf8Size ≤ n + 1 then behind? (n + 1 - c.utf8Size) cs else none

/-- The text from one byte position to another; none if one of them is not between two characters. -/
def slice? (cs : List Char) (start stop : Nat) : Option (List Char) := (behind? start cs).bind (before? (stop - start))

/-- The byte that is spelled from a byte position on. -/
def octetAt? (cs : List Char) (i : Nat) : Option UInt8 :=
  (slice? cs i (i + 2)).bind fun pair => (Hex.readByte pair).toOption

/-- The bytes that are spelled at every other byte position of a text. -/
def octetsAt? (cs : List Char) : Option (List UInt8) :=
  ((List.range ((encodedLength cs + 1) / 2)).map (2 * ·)).mapM (octetAt? cs)

@[simp] theorem encodedLength_nil : encodedLength [] = 0 := rfl

@[simp] theorem encodedLength_cons (c : Char) (cs : List Char) :
    encodedLength (c :: cs) = c.utf8Size + encodedLength cs := rfl

theorem encodedLength_ascii {cs : List Char} (h : ∀ c ∈ cs, c.toNat < 128) : encodedLength cs = cs.length := by
  induction cs with
  | nil => rfl
  | cons c cs ih =>
    have hc : c.utf8Size = 1 := Char.utf8Size_eq_one_iff.2 (Nat.le_of_lt_succ (h c List.mem_cons_self))
    rw [encodedLength_cons, hc, ih fun d hd => h d (List.mem_cons_of_mem c hd), List.length_cons, Nat.add_comm]

/-- A byte position behind a character is no position in the middle of it. -/
theorem behind?_append (front cs : List Char) (n : Nat) :
    behind? (encodedLength front + n) (front ++ cs) = behind? n cs := by
  induction front with
  | nil => rw [encodedLength_nil, Nat.zero_add, List.nil_append]
  | cons c front ih =>
    have hpos := c.utf8Size_pos
    obtain ⟨k, hk⟩ : ∃ k, encodedLength (c :: front) + n = k + 1 :=
      Nat.exists_eq_add_one.2 (by rw [encodedLength_cons]; omega)
    have hle : c.utf8Size ≤ k + 1 := by
      rw [← hk, encodedLength_cons]
      omega
    have hrest : k + 1 - c.utf8Size = encodedLength front + n := by
      rw [← hk, encodedLength_cons]
      omega
    rw [hk, List.cons_append, behind?, if_pos hle, hrest, ih]

theorem behind?_eq_some_iff {n : Nat} {cs back : List Char} :
    behind? n cs = some back ↔ ∃ front, cs = front ++ back ∧ encodedLength front = n := by
  constructor
  · intro h
    fun_induction behind? n cs with
    | case1 cs =>
      cases h
      exact ⟨[], rfl, rfl⟩
    | case2 => cases h
    | case3 n c cs hle ih =>
      obtain ⟨front, rfl, hfront⟩ := ih h
      exact ⟨c :: front, rfl, by rw [encodedLength_cons]; omega⟩
    | case4 => cases h
  · rintro ⟨front, rfl, rfl⟩
    have hbehind := behind?_append front back 0
    rwa [Nat.add_zero, behind?] at hbehind

theorem before?_eq_some_iff {n : Nat} {cs front : List Char} :
    before? n cs = some front ↔ ∃ back, cs = front ++ back ∧ encodedLength front = n := by
  constructor
  · intro h
    fun_induction before? n cs generalizing front with
    | case1 cs =>
      cases h
      exact ⟨cs, rfl, rfl⟩
    | case2 => cases h
    | case3 n c cs hle ih =>
      obtain ⟨front, hfront, rfl⟩ := Option.map_eq_some_iff.1 h
      obtain ⟨back, rfl, hlength⟩ := ih hfront
      exact ⟨back, rfl, by rw [encodedLength_cons]; omega⟩
    | case4 => cases h
  · rintro ⟨back, rfl, rfl⟩
    induction front with
    | nil => cases back <;> rfl
    | cons c front ih =>
      have hpos := c.utf8Size_pos
      obtain ⟨k, hk⟩ : ∃ k, encodedLength (c :: front) = k + 1 :=
        Nat.exists_eq_add_one.2 (by rw [encodedLength_cons]; omega)
      have hle : c.utf8Size ≤ k + 1 := by
        rw [← hk, encodedLength_cons]
        omega
      have hrest : k + 1 - c.utf8Size = encodedLength front := by
        rw [← hk, encodedLength_cons]
        omega
      rw [hk, List.cons_append, before?, if_pos hle, hrest, ih, Option.map_some]

/-- A slice begins and ends between two characters. -/
theorem slice?_eq_some_iff {cs part : List Char} {i n : Nat} :
    slice? cs i (i + n) = some part ↔
      ∃ front back, cs = front ++ (part ++ back) ∧ encodedLength front = i ∧ encodedLength part = n := by
  simp only [slice?, Nat.add_sub_cancel_left, Option.bind_eq_some_iff, behind?_eq_some_iff, before?_eq_some_iff]
  constructor
  · rintro ⟨_, ⟨front, rfl, hfront⟩, back, rfl, hpart⟩
    exact ⟨front, back, rfl, hfront, hpart⟩
  · rintro ⟨front, back, rfl, hfront, hpart⟩
    exact ⟨_, ⟨front, rfl, hfront⟩, back, rfl, hpart⟩

theorem toOption_readByte_eq_some_iff {pair : List Char} {byte : UInt8} :
    (Hex.readByte pair).toOption = some byte ↔ Hex.Signed pair byte.toNat := by
  rw [← Hex.readByte_eq_ok_iff]
  cases Hex.readByte pair <;> simp [Except.toOption]

/-- Two bytes that are read are two characters. -/
theorem octetAt?_eq_some_iff {cs : List Char} {i : Nat} {byte : UInt8} :
    octetAt? cs i = some byte ↔
      ∃ front pair back, cs = front ++ (pair ++ back) ∧ encodedLength front = i ∧ Pair Hex.Signed pair byte := by
  simp only [octetAt?, Option.bind_eq_some_iff, slice?_eq_some_iff, toOption_readByte_eq_some_iff]
  constructor
  · rintro ⟨pair, ⟨front, back, rfl, hfront, hpair⟩, hsigned⟩
    rw [encodedLength_ascii fun c => hsigned.ascii] at hpair
    exact ⟨front, pair, back, rfl, hfront, hpair, hsigned⟩
  · rintro ⟨front, pair, back, rfl, hfront, hpair, hsigned⟩
    rw [← encodedLength_ascii fun c => hsigned.ascii] at hpair
    exact ⟨pair, ⟨front, back, rfl, hfront, hpair⟩, hsigned⟩

theorem octetAt?_append {front : List Char} {n : Nat} (h : encodedLength front = n) (cs : List Char) (i : Nat) :
    octetAt? (front ++ cs) (n + i) = octetAt? cs i := by
  rw [octetAt?, octetAt?, slice?, slice?, ← h, behind?_append, Nat.add_assoc, Nat.add_sub_add_left]

theorem octetAt?_zero_eq_some_iff {cs : List Char} {byte : UInt8} :
    octetAt? cs 0 = some byte ↔ ∃ pair back, cs = pair ++ back ∧ Pair Hex.Signed pair byte := by
  rw [octetAt?_eq_some_iff]
  constructor
  · rintro ⟨front, pair, back, rfl, hfront, hpair⟩
    cases front with
    | nil => exact ⟨pair, back, rfl, hpair⟩
    | cons c front =>
      have hpos := c.utf8Size_pos
      rw [encodedLength_cons] at hfront
      omega
  · rintro ⟨pair, back, rfl, hpair⟩
    exact ⟨[], pair, back, rfl, rfl, hpair⟩

/-- A last character that is left over is no pair, in however many bytes it is encoded. -/
theorem octetAt?_single (c : Char) : octetAt? [c] 0 = none := by
  refine Option.eq_none_iff_forall_ne_some.2 fun byte hbyte => ?_
  obtain ⟨pair, back, hcs, hlength, -⟩ := octetAt?_zero_eq_some_iff.1 hbyte
  have hcount := congrArg List.length hcs
  rw [List.length_append, hlength, List.length_singleton] at hcount
  omega

theorem octetAt?_pair (high low : Char) (rest : List Char) :
    octetAt? (high :: low :: rest) 0 = (Hex.readByte [high, low]).toOption := by
  refine Option.ext fun byte => ?_
  have hread : (Hex.readByte [high, low]).toOption = some byte ↔ Pair Hex.Signed [high, low] byte := by
    rw [toOption_readByte_eq_some_iff]
    exact ⟨fun h => ⟨rfl, h⟩, fun h => h.2⟩
  rw [hread, octetAt?_zero_eq_some_iff]
  constructor
  · rintro ⟨pair, back, hcs, hpair⟩
    obtain ⟨a, b, rfl⟩ := List.length_eq_two.1 hpair.1
    cases hcs
    exact hpair
  · exact fun hpair => ⟨[high, low], rest, rfl, hpair⟩

/-- The positions of a text that is not empty are the first one and those two bytes further on. -/
theorem octetsAt?_of_pos {cs : List Char} (h : 0 < encodedLength cs) :
    octetsAt? cs = do
      let byte ← octetAt? cs 0
      let bytes ← ((List.range ((encodedLength cs - 1) / 2)).map (2 * ·)).mapM fun i => octetAt? cs (2 + i)
      return byte :: bytes := by
  have hcount : (encodedLength cs + 1) / 2 = (encodedLength cs - 1) / 2 + 1 := by omega
  have hshift : octetAt? cs ∘ (2 * ·) ∘ Nat.succ = (fun i => octetAt? cs (2 + i)) ∘ (2 * ·) := by
    funext i
    rw [Function.comp_apply, Function.comp_apply, Function.comp_apply, Nat.mul_succ, Nat.add_comm]
  rw [octetsAt?, hcount, List.range_succ_eq_map, List.map_cons, List.map_map, List.mapM_cons, List.mapM_map,
    List.mapM_map, hshift]

/-- **Positions.**  Pairs are the same, whether they are taken off one by one or found at byte positions. -/
theorem octetsAt?_eq (cs : List Char) : octetsAt? cs = octets? cs := by
  fun_induction octets? cs with
  | case1 => rfl
  | case2 c =>
    rw [octetsAt?_of_pos (Nat.lt_add_right _ c.utf8Size_pos), octetAt?_single]
    rfl
  | case3 high low rest ih =>
    rw [octetsAt?_of_pos (Nat.lt_add_right _ high.utf8Size_pos), octetAt?_pair]
    cases hbyte : Hex.readByte [high, low] with
    | error flaw => rfl
    | ok byte =>
      -- two characters that are read take up one byte each, so that the others stand two bytes further on
      have htwo : encodedLength [high, low] = 2 := encodedLength_ascii fun c => (Hex.readByte_eq_ok_iff.1 hbyte).ascii
      have hlength : encodedLength (high :: low :: rest) = encodedLength rest + 2 := by
        rw [← htwo]
        simp only [encodedLength_cons, encodedLength_nil]
        omega
      have hshift : (fun i => octetAt? (high :: low :: rest) (2 + i)) = octetAt? rest := by
        funext i
        exact octetAt?_append htwo rest i
      rw [hlength, hshift, ← ih]
      rfl

/-! ## The grammar -/

namespace Record

/-- The texts of the record spell this identifier and this payload of a frame of its format. -/
structure Spells (Number : List Char → Nat → Prop) (record : Record) (id : Nat) (payload : List UInt8) : Prop where
  id_number : ∃ numeral, Dressed record.id numeral ∧ Number numeral id
  id_le : id ≤ record.format.maxId
  data_pairs : ∃ pairs, record.data = pairs.flatten ∧ List.Forall₂ (Pair Number) pairs payload
  length_eq : payload.length = record.length
  length_le : record.length ≤ maxPayload

variable {record : Record}

theorem frame_eq_ok_iff_spells {frame : Frame} :
    record.frame = .ok frame ↔
      record.Spells Hex.Signed frame.id.toNat frame.payload ∧ frame.format = record.format ∧
        frame.loopback = false := by
  rw [frame_eq_ok_iff, word?_eq_some_iff, octets?_eq_some_iff]
  constructor
  · rintro ⟨hid, hdata, hlength, hformat, hloopback⟩
    exact ⟨⟨hid, hformat ▸ frame.id_le, hdata, hlength, hlength ▸ frame.payload_le⟩, hformat, hloopback⟩
  · rintro ⟨h, hformat, hloopback⟩
    exact ⟨h.id_number, h.data_pairs, h.length_eq, hformat, hloopback⟩

/-- There is a frame of whatever is spelled. -/
theorem Spells.exists_frame {id : Nat} {payload : List UInt8} (h : record.Spells Hex.Signed id payload) :
    ∃ frame, record.frame = .ok frame := by
  have hmax : record.format.maxId < 2 ^ 32 := by cases record.format <;> decide
  have hid : (BitVec.ofNat 32 id).toNat = id := by
    rw [BitVec.toNat_ofNat, Nat.mod_eq_of_lt (Nat.lt_of_le_of_lt h.id_le hmax)]
  have hspells : record.Spells Hex.Signed (BitVec.ofNat 32 id).toNat payload := hid.symm ▸ h
  refine ⟨⟨BitVec.ofNat 32 id, payload, record.format, false, hspells.id_le, h.length_eq.trans_le h.length_le⟩, ?_⟩
  exact frame_eq_ok_iff_spells.2 ⟨hspells, rfl, rfl⟩

/-- **Records of digits alone** are those without a plus sign in their texts. -/
theorem spells_digits_iff {id : Nat} {payload : List UInt8} :
    record.Spells Hex.Spells id payload ↔
      record.Spells Hex.Signed id payload ∧ '+' ∉ record.id ∧ '+' ∉ record.data := by
  constructor
  · rintro ⟨⟨numeral, hdressed, hnumeral⟩, hle, ⟨pairs, hdata, hpairs⟩, hlength, hmax⟩
    refine ⟨⟨⟨numeral, hdressed, hnumeral.signed⟩, hle, ⟨pairs, hdata, pairs_imp hpairs fun _ _ _ => Hex.Spells.signed⟩,
      hlength, hmax⟩, ?_, ?_⟩
    · obtain ⟨front, mark, back, hid, hmark, hfront, hback⟩ := hdressed
      have hblank : Text.isBlank '+' = false := by decide
      have hmarked : '+' ∉ mark := by
        rcases hmark with rfl | rfl <;> decide
      simp only [hid, List.mem_append, not_or]
      refine ⟨⟨fun hmem => ?_, hmarked, hnumeral.plus_notMem⟩, fun hmem => ?_⟩
      · simp [hfront _ hmem] at hblank
      · simp [hback _ hmem] at hblank
    · rw [hdata, List.mem_flatten]
      rintro ⟨pair, hpair, hmem⟩
      obtain ⟨n, hn⟩ := exists_number_of_mem hpairs hpair
      exact hn.plus_notMem hmem
  · rintro ⟨⟨⟨numeral, hdressed, hnumeral⟩, hle, ⟨pairs, hdata, hpairs⟩, hlength, hmax⟩, hid, hplus⟩
    refine ⟨⟨numeral, hdressed, hnumeral.spells fun hmem => hid ?_⟩, hle,
      ⟨pairs, hdata, pairs_imp hpairs fun pair hpair _ hn => hn.spells fun hmem => hplus ?_⟩, hlength, hmax⟩
    · obtain ⟨front, mark, back, htext, -⟩ := hdressed
      rw [htext]
      simp [hmem]
    · rw [hdata]
      exact List.mem_flatten.2 ⟨pair, hpair, hmem⟩

/-- **The grammar of records.**  A record names a frame if and only if its texts spell an identifier of its format and
as many bytes as it says, at most 64, in numbers that may have a plus sign for their first digit; the frame is the one
that they spell, without loopback.  Digits alone are spelled if and only if neither text has a plus sign.  No text has a
pair in the middle of a character: the bytes are those found at every other byte position. -/
theorem frame_iff_spells (record : Record) :
    (∀ frame, record.frame = .ok frame ↔ record.Spells Hex.Signed frame.id.toNat frame.payload ∧
        frame.format = record.format ∧ frame.loopback = false) ∧
      ((∃ frame, record.frame = .ok frame) ↔ ∃ id payload, record.Spells Hex.Signed id payload) ∧
      (∀ id payload, record.Spells Hex.Spells id payload ↔
        record.Spells Hex.Signed id payload ∧ '+' ∉ record.id ∧ '+' ∉ record.data) ∧
      octetsAt? record.data = octets? record.data := by
  refine ⟨fun frame => frame_eq_ok_iff_spells, ⟨?_, ?_⟩, fun id payload => spells_digits_iff,
    octetsAt?_eq record.data⟩
  · rintro ⟨frame, hframe⟩
    exact ⟨_, _, (frame_eq_ok_iff_spells.1 hframe).1⟩
  · rintro ⟨id, payload, h⟩
    exact h.exists_frame

/-- A plus sign is read as the first digit of a byte. -/
theorem frame_plus :
    let record : Record := ⟨[], "0x123".toList, false, 1, ['+', 'A']⟩
    record.frame = .ok ⟨0x123, [10], .base, false, by decide, by decide⟩ ∧
      ¬ ∃ id payload, record.Spells Hex.Spells id payload := by
  refine ⟨by decide, ?_⟩
  rintro ⟨id, payload, h⟩
  exact (spells_digits_iff.1 h).2.2 (by decide)

end Record

end Capture

end CanBus
