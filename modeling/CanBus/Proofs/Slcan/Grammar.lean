import CanBus.Proofs.Slcan.Codec
import CanBus.Proofs.Text.Numeral

/-!
# The grammar of lines — what is read as a frame, and what is refused

`Spells` says how a line is made up that stands for a frame: letter, identifier, length digit, two bytes for each byte
of payload, and anything behind them.  It leaves open what counts as a number.  Lines are read with numbers that may
have a plus sign in place of their first digit (`Signed`); a line of digits alone (`Plain`) is one without such a sign
(`decode_iff_spells`).
-/

namespace CanBus.Slcan.Line

/-! ## Numbers -/

def plusSign : UInt8 := 43

/-- Digits that stand for a number. -/
def Plain (bytes : List UInt8) (n : Nat) : Prop := Hex.Spells (characters bytes) n

/-- Digits that stand for a number, or a plus sign and such digits. -/
def Signed (bytes : List UInt8) (n : Nat) : Prop :=
  ∃ digits, (bytes = digits ∨ bytes = plusSign :: digits) ∧ Plain digits n

theorem Plain.signed {bytes : List UInt8} {n : Nat} (h : Plain bytes n) : Signed bytes n := ⟨bytes, .inl rfl, h⟩

theorem toNat_character (b : UInt8) : (Char.ofNat b.toNat).toNat = b.toNat := by
  have hb := b.toNat_lt
  have hvalid : b.toNat.isValidChar := .inl (by omega)
  rw [Char.ofNat, dif_pos hvalid]
  rfl

theorem character_eq_plus_iff {b : UInt8} : Char.ofNat b.toNat = '+' ↔ b = plusSign := by
  constructor
  · intro h
    have hnat := toNat_character b
    rw [h] at hnat
    exact UInt8.toNat_inj.1 hnat.symm
  · rintro rfl
    rfl

theorem Plain.plusSign_notMem {bytes : List UInt8} {n : Nat} (h : Plain bytes n) : plusSign ∉ bytes := fun hmem =>
  Hex.Spells.plus_notMem h (List.mem_map.2 ⟨plusSign, hmem, rfl⟩)

theorem Signed.plain {bytes : List UInt8} {n : Nat} (h : Signed bytes n) (hplus : plusSign ∉ bytes) :
    Plain bytes n := by
  obtain ⟨digits, rfl | rfl, hplain⟩ := h
  · exact hplain
  · exact absurd List.mem_cons_self hplus

/-- The characters of a number with a sign, whichever way round the sign is taken off. -/
theorem signed_iff_characters {bytes : List UInt8} {n : Nat} : Signed bytes n ↔ Hex.Signed (characters bytes) n := by
  constructor
  · rintro ⟨digits, rfl | rfl, hplain⟩
    · exact ⟨_, .inl rfl, hplain⟩
    · exact ⟨_, .inr rfl, hplain⟩
  · rintro ⟨digits, rfl | hplus, hspells⟩
    · exact ⟨bytes, .inl rfl, hspells⟩
    · cases bytes with
      | nil => cases hplus
      | cons b rest =>
        obtain ⟨hb, hrest⟩ := List.cons.inj hplus
        obtain rfl := character_eq_plus_iff.1 hb
        refine ⟨rest, .inr rfl, ?_⟩
        rw [Plain, characters, hrest]
        exact hspells

theorem Signed.lt {bytes : List UInt8} {n : Nat} (h : Signed bytes n) : n < 16 ^ bytes.length := by
  simpa [characters] using (signed_iff_characters.1 h).lt

theorem Signed.ascii {bytes : List UInt8} {n : Nat} (h : Signed bytes n) : ∀ b ∈ bytes, b < 0x80 := by
  intro b hb
  have hlt := (signed_iff_characters.1 h).ascii (List.mem_map.2 ⟨b, hb, rfl⟩)
  rw [toNat_character] at hlt
  exact UInt8.lt_iff_toNat_lt.2 hlt

/-- **What is read as a number.**  In eight bytes or less no number is too large. -/
theorem number_eq_ok_iff {bytes : List UInt8} {n : Nat} (hlength : bytes.length ≤ 8) :
    number bytes = .ok n ↔ Signed bytes n := by
  have hread : Hex.read (UInt32.size - 1) (characters bytes) = .ok n ↔ Signed bytes n := by
    rw [Hex.read_eq_ok_iff, ← signed_iff_characters]
    refine and_iff_left_of_imp fun hsigned => ?_
    have hlt := hsigned.lt
    have hpow : 16 ^ bytes.length ≤ 16 ^ 8 := Nat.pow_le_pow_right (by decide) hlength
    have hsize : UInt32.size = 16 ^ 8 := by decide
    omega
  rw [← hread]
  constructor
  · intro h
    unfold number at h
    split_ifs at h
    split at h
    · next m hm =>
      cases h
      exact hm
    · cases h
  · intro h
    rw [number, if_pos (Utf8.wellFormed_of_ascii (hread.1 h).ascii), h]

theorem number_eq_error {bytes : List UInt8} {fault : Fault} (h : number bytes = .error fault) :
    ∃ defect, fault = .invalidFrame defect := by
  unfold number at h
  split_ifs at h
  · split at h
    · cases h
    · exact ⟨.lineNotHex, (Except.error.inj h).symm⟩
  · exact ⟨.lineNotText, (Except.error.inj h).symm⟩

/-! ## The length digit -/

theorem lengthDigit_eq_ok_iff {b : UInt8} {k : Nat} :
    lengthDigit b = .ok k ↔ k ≤ maxPayload ∧ b = UInt8.ofNat (48 + k) := by
  have hmax : maxPayload = 8 := rfl
  have hb := b.toNat_lt
  have hle : 48 ≤ b ↔ 48 ≤ b.toNat := UInt8.le_iff_toNat_le
  unfold lengthDigit
  constructor
  · intro h
    split_ifs at h with hdigit
    cases h
    have hlow := hle.1 hdigit.1
    refine ⟨hdigit.2, UInt8.toNat_inj.1 ?_⟩
    rw [UInt8.toNat_ofNat']
    omega
  · rintro ⟨hk, rfl⟩
    have htoNat : (UInt8.ofNat (48 + k)).toNat = 48 + k := by
      rw [UInt8.toNat_ofNat']
      omega
    rw [if_pos ⟨hle.2 (by omega), by omega⟩, htoNat, Nat.add_sub_cancel_left]

theorem lengthDigit_eq_error {b : UInt8} {fault : Fault} (h : lengthDigit b = .error fault) :
    ∃ defect, fault = .invalidFrame defect := by
  unfold lengthDigit at h
  split_ifs at h
  exact ⟨.lineLengthDigit, (Except.error.inj h).symm⟩

/-! ## The payload -/

section Payload

variable {α β : Type} {x : Except Fault α} {f : α → Except Fault β} {fault : Fault}

theorem bind_eq_error (h : x >>= f = .error fault) : x = .error fault ∨ ∃ a, f a = .error fault := by
  cases x with
  | error _ =>
    cases h
    exact .inl rfl
  | ok a => exact .inr ⟨a, h⟩

end Payload

/-- Two bytes that stand for a byte of payload. -/
def Pair (Number : List UInt8 → Nat → Prop) (pair : List UInt8) (byte : UInt8) : Prop :=
  pair.length = 2 ∧ Number pair byte.toNat

theorem number_pair {pair : List UInt8} {byte : UInt8} (h : Pair Signed pair byte) : number pair = .ok byte.toNat :=
  (number_eq_ok_iff (by rw [h.1]; decide)).2 h.2

theorem pair_of_number {high low : UInt8} {n : Nat} (h : number [high, low] = .ok n) :
    Pair Signed [high, low] (UInt8.ofNat n) := by
  have hsigned := (number_eq_ok_iff (Nat.le_of_ble_eq_true rfl)).1 h
  have hlt : n < 16 ^ 2 := hsigned.lt
  refine ⟨rfl, ?_⟩
  rwa [UInt8.toNat_ofNat', Nat.mod_eq_of_lt (by omega)]

theorem length_flatten_pairs {Number : List UInt8 → Nat → Prop} {pairs : List (List UInt8)} {payload : List UInt8}
    (h : List.Forall₂ (Pair Number) pairs payload) : pairs.flatten.length = 2 * payload.length := by
  induction h with
  | nil => rfl
  | cons hpair _ ih =>
    rw [List.flatten_cons, List.length_append, hpair.1, ih, List.length_cons]
    omega

theorem octets_flatten {pairs : List (List UInt8)} {payload : List UInt8}
    (h : List.Forall₂ (Pair Signed) pairs payload) : octets pairs.flatten = .ok payload := by
  induction h with
  | nil => rfl
  | @cons pair byte _ _ hpair _ ih =>
    obtain ⟨high, low, rfl⟩ := List.length_eq_two.1 hpair.1
    rw [List.flatten_cons, List.cons_append, List.cons_append, List.nil_append, octets, number_pair hpair, ih]
    show Except.ok (UInt8.ofNat byte.toNat :: _) = _
    rw [UInt8.ofNat_toNat]

/-- Bytes in pairs that are read are numbers two by two. -/
theorem pairs_of_octets {bytes payload : List UInt8} {k : Nat} (hlength : bytes.length = 2 * k)
    (h : octets bytes = .ok payload) :
    ∃ pairs, bytes = pairs.flatten ∧ List.Forall₂ (Pair Signed) pairs payload ∧ payload.length = k := by
  induction k generalizing bytes payload with
  | zero =>
    obtain rfl := List.length_eq_zero_iff.1 hlength
    cases h
    exact ⟨[], rfl, .nil, rfl⟩
  | succ k ih =>
    match bytes, hlength with
    | high :: low :: rest, hlength =>
      rw [octets] at h
      obtain ⟨n, hn, h⟩ := bind_eq_ok_iff.1 h
      obtain ⟨more, hmore, h⟩ := bind_eq_ok_iff.1 h
      cases h
      have hrest : rest.length = 2 * k := by
        simp only [List.length_cons] at hlength
        omega
      obtain ⟨pairs, rfl, hpairs, hk⟩ := ih hrest hmore
      exact ⟨[high, low] :: pairs, rfl, .cons (pair_of_number hn) hpairs, by rw [List.length_cons, hk]⟩

theorem octets_eq_error {bytes : List UInt8} {fault : Fault} (h : octets bytes = .error fault) :
    ∃ defect, fault = .invalidFrame defect := by
  fun_induction octets bytes with
  | case1 high low rest ih =>
    rcases bind_eq_error h with h | ⟨n, h⟩
    · exact number_eq_error h
    · rcases bind_eq_error h with h | ⟨more, h⟩
      · exact ih h
      · cases h
  | case2 => cases h

/-! ## Lines -/

/-- The bytes that tell what a frame is, with numbers as `Number` has them: an identifier in as many bytes as its format
has digits, and a pair of bytes for each of up to eight bytes of payload. -/
structure Parts (Number : List UInt8 → Nat → Prop) (frame : Frame) (id : List UInt8) (pairs : List (List UInt8)) :
    Prop where
  id_length : id.length = frame.format.digits
  id_number : Number id frame.id.toNat
  payload_short : frame.payload.length ≤ 8
  payload_pairs : List.Forall₂ (Pair Number) pairs frame.payload
  not_loopback : frame.loopback = false

/-- The line stands for the frame: the letter of the format, the identifier, a digit for the length of the payload, the
payload, and anything behind. -/
def Spells (Number : List UInt8 → Nat → Prop) (line : List UInt8) (frame : Frame) : Prop :=
  ∃ id pairs rest, Parts Number frame id pairs ∧
    line = ascii [letter frame.format] ++ (id ++ UInt8.ofNat (48 + frame.payload.length) :: (pairs.flatten ++ rest))

theorem digits_le (format : IdFormat) : format.digits ≤ 8 := by cases format <;> decide

theorem front_of_drop {bytes rest : List UInt8} {n : Nat} {b : UInt8} (h : bytes.drop n = b :: rest) :
    ∃ front, bytes = front ++ b :: rest ∧ front.length = n := by
  refine ⟨bytes.take n, by rw [← h, List.take_append_drop], ?_⟩
  have hlength := congrArg List.length h
  rw [List.length_drop, List.length_cons] at hlength
  rw [List.length_take]
  omega

/-- An identifier in as many bytes as its format has digits fits into its word. -/
theorem Signed.id_eq {id : List UInt8} {format : IdFormat} {n : Nat} (h : Signed id n)
    (hlength : id.length = format.digits) : (BitVec.ofNat 32 n).toNat = n := by
  have hlt : n < 16 ^ format.digits := hlength ▸ h.lt
  have hpow : 16 ^ format.digits ≤ 16 ^ 8 := Nat.pow_le_pow_right (by decide) (digits_le format)
  rw [BitVec.toNat_ofNat, Nat.mod_eq_of_lt (by omega)]

/-- What is read as a frame of a format behind its letter is made up of the parts of this frame. -/
theorem parts_of_dataFrame {format : IdFormat} {line : List UInt8} {frame : Frame}
    (h : dataFrame format line = .ok frame) :
    frame.format = format ∧ ∃ id pairs rest, Parts Signed frame id pairs ∧
      line = id ++ UInt8.ofNat (48 + frame.payload.length) :: (pairs.flatten ++ rest) := by
  unfold dataFrame at h
  split at h
  · cases h
  · next lengthByte rest hdrop =>
    obtain ⟨id, rfl, hid⟩ := front_of_drop hdrop
    obtain ⟨n, hn, h⟩ := bind_eq_ok_iff.1 h
    obtain ⟨k, hk, h⟩ := bind_eq_ok_iff.1 h
    split_ifs at h with hlong
    obtain ⟨payload, hoctets, h⟩ := bind_eq_ok_iff.1 h
    obtain ⟨hword, rfl, rfl, hloopback⟩ := Frame.make_eq_ok_iff.1 h
    rw [List.take_left' hid] at hn
    have hnumber : Signed id n := (number_eq_ok_iff (hid.trans_le (digits_le _))).1 hn
    have hfits : frame.id.toNat = n := hword ▸ hnumber.id_eq hid
    have htwice : (rest.take (2 * k)).length = 2 * k := by
      rw [List.length_take]
      omega
    obtain ⟨pairs, hpairs, hall, hcount⟩ := pairs_of_octets htwice hoctets
    obtain ⟨hmax, rfl⟩ := lengthDigit_eq_ok_iff.1 hk
    have hparts : Parts Signed frame id pairs := ⟨hid, hfits ▸ hnumber, hcount ▸ hmax, hall, hloopback⟩
    refine ⟨rfl, id, pairs, rest.drop (2 * k), hparts, ?_⟩
    rw [← hpairs, List.take_append_drop, hcount]

theorem dataFrame_of_parts {frame : Frame} {id : List UInt8} {pairs : List (List UInt8)}
    (h : Parts Signed frame id pairs) (rest : List UInt8) :
    dataFrame frame.format (id ++ UInt8.ofNat (48 + frame.payload.length) :: (pairs.flatten ++ rest)) = .ok frame := by
  have hnumber : number id = .ok frame.id.toNat :=
    (number_eq_ok_iff (h.id_length.trans_le (digits_le _))).2 h.id_number
  have hdigit : lengthDigit (UInt8.ofNat (48 + frame.payload.length)) = .ok frame.payload.length :=
    lengthDigit_eq_ok_iff.2 ⟨h.payload_short, rfl⟩
  rw [dataFrame_append h.id_length hnumber hdigit (length_flatten_pairs h.payload_pairs)
    (octets_flatten h.payload_pairs), BitVec.ofNat_toNat, BitVec.setWidth_eq]
  exact Frame.make_eq_ok_iff.2 ⟨rfl, rfl, rfl, h.not_loopback⟩

theorem dataFrame_eq_error {format : IdFormat} {line : List UInt8} {fault : Fault}
    (h : dataFrame format line = .error fault) : ∃ defect, fault = .invalidFrame defect := by
  unfold dataFrame at h
  split at h
  · exact ⟨.lineShortHeader, (Except.error.inj h).symm⟩
  · rcases bind_eq_error h with h | ⟨n, h⟩
    · exact number_eq_error h
    · rcases bind_eq_error h with h | ⟨k, h⟩
      · exact lengthDigit_eq_error h
      · split_ifs at h
        · exact ⟨.lineShortData, (Except.error.inj h).symm⟩
        · rcases bind_eq_error h with h | ⟨payload, h⟩
          · exact octets_eq_error h
          · exact Frame.make_eq_error h

/-! ## Headers -/

theorem decode_letter (format : IdFormat) (line : List UInt8) :
    decode (ascii [letter format] ++ line) = (dataFrame format line).map some := by cases format <;> rfl

/-- A line opens with the letter of a format, or with another byte, or it is empty. -/
theorem opening_cases (line : List UInt8) :
    line = [] ∨ (∃ format rest, line = ascii [letter format] ++ rest) ∨
      ∃ header rest, line = header :: rest ∧ header ≠ 116 ∧ header ≠ 84 := by
  cases line with
  | nil => exact .inl rfl
  | cons header rest =>
    by_cases hbase : header = 116
    · exact .inr (.inl ⟨.base, rest, by rw [hbase]; rfl⟩)
    · by_cases hextended : header = 84
      · exact .inr (.inl ⟨.extended, rest, by rw [hextended]; rfl⟩)
      · exact .inr (.inr ⟨header, rest, rfl, hbase, hextended⟩)

theorem decode_other {header : UInt8} (hbase : header ≠ 116) (hextended : header ≠ 84) (line : List UInt8) :
    decode (header :: line) =
      if carriesNothing header then .ok none else .error (.invalidFrame .lineUnknownHeader) := by
  rw [decode, if_neg hbase, if_neg hextended]

theorem letter_injective {format format' : IdFormat} {line line' : List UInt8}
    (h : ascii [letter format] ++ line = ascii [letter format'] ++ line') : format = format' ∧ line = line' := by
  obtain ⟨hletter, hline⟩ := List.cons.inj h
  refine ⟨?_, hline⟩
  revert hletter
  cases format <;> cases format' <;> decide

theorem letter_ne {format : IdFormat} {header : UInt8} {line line' : List UInt8} (hbase : header ≠ 116)
    (hextended : header ≠ 84) : header :: line ≠ ascii [letter format] ++ line' := by
  intro h
  have hheader := (List.cons.inj h).1
  cases format with
  | base => exact hbase hheader
  | extended => exact hextended hheader

/-- **What is read as a frame** is a line that stands for it. -/
theorem decode_eq_some_iff {line : List UInt8} {frame : Frame} :
    decode line = .ok (some frame) ↔ Spells Signed line frame := by
  rcases opening_cases line with rfl | ⟨format, rest, rfl⟩ | ⟨header, rest, rfl, hbase, hextended⟩
  · constructor
    · exact nofun
    · rintro ⟨id, pairs, rest, -, hline⟩
      cases hline
  · have hmap : (dataFrame format rest).map some = .ok (some frame) ↔ dataFrame format rest = .ok frame := by
      cases dataFrame format rest <;> simp [Except.map]
    rw [decode_letter, hmap]
    constructor
    · intro h
      obtain ⟨rfl, id, pairs, rest, hparts, rfl⟩ := parts_of_dataFrame h
      exact ⟨id, pairs, rest, hparts, rfl⟩
    · rintro ⟨id, pairs, rest, hparts, hline⟩
      obtain ⟨rfl, rfl⟩ := letter_injective hline
      exact dataFrame_of_parts hparts rest
  · rw [decode_other hbase hextended]
    constructor
    · intro h
      split_ifs at h
      cases h
    · rintro ⟨id, pairs, rest, -, hline⟩
      exact absurd hline (letter_ne hbase hextended)

/-- The line opens like that of a remote frame or an acknowledgement. -/
def Frameless (line : List UInt8) : Prop := ∃ header ∈ ascii ['r', 'R', 'z', 'Z'], line.head? = some header

theorem carriesNothing_iff {b : UInt8} : carriesNothing b = true ↔ b ∈ ascii ['r', 'R', 'z', 'Z'] :=
  decide_eq_true_iff

theorem frameless_cons_iff {header : UInt8} {rest : List UInt8} :
    Frameless (header :: rest) ↔ carriesNothing header = true := by
  rw [carriesNothing_iff]
  constructor
  · rintro ⟨_, hmem, hheader⟩
    cases hheader
    exact hmem
  · exact fun hmem => ⟨header, hmem, rfl⟩

theorem decode_eq_none_iff {line : List UInt8} : decode line = .ok none ↔ Frameless line := by
  rcases opening_cases line with rfl | ⟨format, rest, rfl⟩ | ⟨header, rest, rfl, hbase, hextended⟩
  · constructor
    · exact nofun
    · rintro ⟨_, -, hhead⟩
      cases hhead
  · have hletter : ¬ Frameless (ascii [letter format] ++ rest) := by
      rw [show ascii [letter format] ++ rest = UInt8.ofNat (letter format).toNat :: rest from rfl, frameless_cons_iff]
      cases format <;> decide
    rw [decode_letter]
    refine ⟨fun h => ?_, fun h => absurd h hletter⟩
    cases hframe : dataFrame format rest <;> simp [hframe, Except.map] at h
  · rw [decode_other hbase hextended, frameless_cons_iff]
    cases carriesNothing header <;> simp

theorem decode_eq_error {line : List UInt8} {fault : Fault} (h : decode line = .error fault) :
    ∃ defect, fault = .invalidFrame defect := by
  rcases opening_cases line with rfl | ⟨format, rest, rfl⟩ | ⟨header, rest, rfl, hbase, hextended⟩
  · exact ⟨.lineEmpty, (Except.error.inj h).symm⟩
  · rw [decode_letter] at h
    cases hframe : dataFrame format rest with
    | error met =>
      rw [hframe] at h
      cases h
      exact dataFrame_eq_error hframe
    | ok frame =>
      rw [hframe] at h
      cases h
  · rw [decode_other hbase hextended] at h
    split_ifs at h
    exact ⟨.lineUnknownHeader, (Except.error.inj h).symm⟩

/-! ## Signs -/

/-- The number of bytes in which a line tells what a frame is. -/
def extent (frame : Frame) : Nat := 2 + frame.format.digits + 2 * frame.payload.length

section Signs

variable {Number Number' : List UInt8 → Nat → Prop} {frame : Frame} {id : List UInt8} {pairs : List (List UInt8)}

/-- Numbers of one kind that are of another kind wherever they stand in the line. -/
theorem Parts.imp (h : Parts Number frame id pairs) (hid : ∀ n, Number id n → Number' id n)
    (hpairs : ∀ pair ∈ pairs, ∀ n, Number pair n → Number' pair n) : Parts Number' frame id pairs := by
  have hpayload := List.forall₂_iff_zip.1 h.payload_pairs
  refine ⟨h.id_length, hid _ h.id_number, h.payload_short, List.forall₂_iff_zip.2 ⟨hpayload.1, ?_⟩, h.not_loopback⟩
  intro pair byte hmem
  obtain ⟨hlength, hnumber⟩ := hpayload.2 hmem
  exact ⟨hlength, hpairs pair (List.of_mem_zip hmem).1 _ hnumber⟩

theorem Parts.exists_number (h : Parts Number frame id pairs) {pair : List UInt8} (hpair : pair ∈ pairs) :
    ∃ n, Number pair n := by
  obtain ⟨i, hi, rfl⟩ := List.mem_iff_get.1 hpair
  obtain ⟨hlength, hall⟩ := List.forall₂_iff_get.1 h.payload_pairs
  exact ⟨_, (hall i.1 i.2 (hlength ▸ i.2)).2⟩

theorem take_extent (h : Parts Number frame id pairs) (rest : List UInt8) :
    (ascii [letter frame.format] ++ (id ++ UInt8.ofNat (48 + frame.payload.length) :: (pairs.flatten ++ rest))).take
        (extent frame) =
      ascii [letter frame.format] ++ (id ++ UInt8.ofNat (48 + frame.payload.length) :: pairs.flatten) := by
  have hlength : extent frame =
      (ascii [letter frame.format] ++
        (id ++ UInt8.ofNat (48 + frame.payload.length) :: pairs.flatten)).length := by
    simp only [extent, List.length_append, List.length_cons, length_ascii, h.id_length,
      length_flatten_pairs h.payload_pairs, List.length_nil]
    omega
  have hsplit : ascii [letter frame.format] ++
        (id ++ UInt8.ofNat (48 + frame.payload.length) :: (pairs.flatten ++ rest)) =
      (ascii [letter frame.format] ++
        (id ++ UInt8.ofNat (48 + frame.payload.length) :: pairs.flatten)) ++ rest := by simp
  rw [hsplit, List.take_left' hlength.symm]

/-- Neither the letter nor the length digit is a sign. -/
theorem plusSign_mem_iff (h : frame.payload.length ≤ 8) :
    plusSign ∈ ascii [letter frame.format] ++ (id ++ UInt8.ofNat (48 + frame.payload.length) :: pairs.flatten) ↔
      plusSign ∈ id ∨ ∃ pair ∈ pairs, plusSign ∈ pair := by
  have hletter : plusSign ∉ ascii [letter frame.format] := by cases frame.format <;> decide
  have hlength : ∀ n < 9, plusSign ≠ UInt8.ofNat (48 + n) := by decide
  have hne := hlength _ (Nat.lt_succ_of_le h)
  simp only [List.mem_append, List.mem_cons, List.mem_flatten, hletter, hne, false_or]

/-- **Lines of digits alone** are those without a plus sign in what is read of them. -/
theorem spells_plain_iff {line : List UInt8} :
    Spells Plain line frame ↔ Spells Signed line frame ∧ plusSign ∉ line.take (extent frame) := by
  constructor
  · rintro ⟨id, pairs, rest, hparts, rfl⟩
    refine ⟨⟨id, pairs, rest, hparts.imp (fun _ => Plain.signed) fun _ _ _ => Plain.signed, rfl⟩, ?_⟩
    rw [take_extent hparts, plusSign_mem_iff hparts.payload_short]
    rintro (hid | ⟨pair, hpair, hmem⟩)
    · exact hparts.id_number.plusSign_notMem hid
    · obtain ⟨n, hn⟩ := hparts.exists_number hpair
      exact hn.plusSign_notMem hmem
  · rintro ⟨⟨id, pairs, rest, hparts, rfl⟩, hplus⟩
    rw [take_extent hparts, plusSign_mem_iff hparts.payload_short, not_or] at hplus
    refine ⟨id, pairs, rest, hparts.imp (fun _ h => h.plain hplus.1) fun pair hpair _ h => h.plain ?_, rfl⟩
    exact fun hmem => hplus.2 ⟨pair, hpair, hmem⟩

end Signs

/-! ## Positions -/

/-- The bytes from one position to another; none if the line ends before. -/
def slice? (line : List UInt8) (start stop : Nat) : Option (List UInt8) :=
  if start ≤ stop ∧ stop ≤ line.length then some (line.extract start stop) else none

/-- The data frame of a line with its letter, the parts taken by their positions.  There is no result if a position that
is relied on lies outside the line. -/
def dataFrameAt? (format : IdFormat) (bytes : List UInt8) : Option (Except Fault Frame) :=
  if bytes.length < 1 + format.digits + 1 then some (.error (.invalidFrame .lineShortHeader))
  else do
    let digits ← slice? bytes 1 (1 + format.digits)
    let lengthByte ← bytes[1 + format.digits]?
    return do
      let id ← number digits
      let length ← lengthDigit lengthByte
      match slice? bytes (2 + format.digits) (2 + format.digits + 2 * length) with
      | none => .error (.invalidFrame .lineShortData)
      | some pairs => do
        let payload ← octets pairs
        Frame.make (BitVec.ofNat 32 id) payload format false

/-- The frame of a line without its end, by positions. -/
def decodeAt? (bytes : List UInt8) : Option (Except Fault (Option Frame)) :=
  match bytes[0]? with
  | none => some (.error (.invalidFrame .lineEmpty))
  | some header =>
    if header = 116 then (dataFrameAt? .base bytes).map (·.map some)
    else if header = 84 then (dataFrameAt? .extended bytes).map (·.map some)
    else if carriesNothing header then some (.ok none)
    else some (.error (.invalidFrame .lineUnknownHeader))

theorem slice?_append (front rest : List UInt8) (n : Nat) :
    slice? (front ++ rest) front.length (front.length + n) = if n ≤ rest.length then some (rest.take n) else none := by
  unfold slice?
  simp only [List.length_append, Nat.add_le_add_iff_left, Nat.le_add_right, true_and, List.extract_eq_take_drop,
    List.drop_left, Nat.add_sub_cancel_left]

/-- Every position that is relied on lies within the line. -/
theorem dataFrameAt?_eq (format : IdFormat) (header : UInt8) (line : List UInt8) :
    dataFrameAt? format (header :: line) = some (dataFrame format line) := by
  unfold dataFrameAt? dataFrame
  cases hdrop : line.drop format.digits with
  | nil =>
    have hshort : (header :: line).length < 1 + format.digits + 1 := by
      have hline : line.length ≤ format.digits := List.drop_eq_nil_iff.1 hdrop
      rw [List.length_cons]
      omega
    rw [if_pos hshort]
  | cons lengthByte rest =>
    obtain ⟨id, rfl, hid⟩ := front_of_drop hdrop
    have hlong : ¬ (header :: (id ++ lengthByte :: rest)).length < 1 + format.digits + 1 := by
      rw [List.length_cons, List.length_append, List.length_cons]
      omega
    have hdigits : slice? (header :: (id ++ lengthByte :: rest)) 1 (1 + format.digits) = some id := by
      have hslice := slice?_append [header] (id ++ lengthByte :: rest) format.digits
      rw [List.take_left' hid, if_pos (by rw [List.length_append]; omega)] at hslice
      exact hslice
    have hbyte : (header :: (id ++ lengthByte :: rest))[1 + format.digits]? = some lengthByte := by
      rw [Nat.add_comm 1, List.getElem?_cons_succ, ← hid, List.getElem?_append_right (Nat.le_refl _), Nat.sub_self]
      rfl
    have hpairs : ∀ n, slice? (header :: (id ++ lengthByte :: rest)) (2 + format.digits) (2 + format.digits + n) =
        if n ≤ rest.length then some (rest.take n) else none := by
      intro n
      have hslice := slice?_append (header :: (id ++ [lengthByte])) rest n
      have hfront : (header :: (id ++ [lengthByte])).length = 2 + format.digits := by
        rw [List.length_cons, List.length_append, hid, List.length_singleton]
        omega
      rwa [hfront, List.cons_append, List.append_assoc, List.singleton_append] at hslice
    rw [if_neg hlong, hdigits, hbyte, List.take_left' hid]
    simp only [Option.bind_eq_bind, Option.bind_some, Option.pure_def, Option.some.injEq, hpairs]
    congr
    funext n
    congr
    funext k
    by_cases hk : 2 * k ≤ rest.length
    · rw [if_pos hk, if_neg (by omega)]
    · rw [if_neg hk, if_pos (by omega)]

theorem decodeAt?_eq (line : List UInt8) : decodeAt? line = some (decode line) := by
  cases line with
  | nil => rfl
  | cons header line =>
    rw [decodeAt?, List.getElem?_cons_zero, decode]
    simp only [dataFrameAt?_eq, Option.map_some]
    split_ifs <;> rfl

/-! ## The grammar -/

/-- **The grammar of lines.**  A line is read as a frame if and only if it stands for that frame with numbers that may
have a plus sign for their first digit; it stands for it in digits alone if and only if there is no such sign among the
bytes that tell what the frame is.  Remote frames and acknowledgements carry no frame, every other line is refused as an
invalid frame, and no position that is relied on lies outside the line. -/
theorem decode_iff_spells (line : List UInt8) :
    (∀ frame, decode line = .ok (some frame) ↔ Spells Signed line frame) ∧
      (∀ frame, Spells Plain line frame ↔
        decode line = .ok (some frame) ∧ plusSign ∉ line.take (extent frame)) ∧
      (decode line = .ok none ↔ Frameless line) ∧
      ((∃ defect, decode line = .error (.invalidFrame defect)) ↔
        (¬ ∃ frame, Spells Signed line frame) ∧ ¬ Frameless line) ∧
      decodeAt? line = some (decode line) := by
  refine ⟨fun frame => decode_eq_some_iff, fun frame => ?_, decode_eq_none_iff, ?_, decodeAt?_eq line⟩
  · rw [decode_eq_some_iff]
    exact spells_plain_iff
  · simp only [← decode_eq_some_iff, ← decode_eq_none_iff]
    cases hdecode : decode line with
    | error fault =>
      obtain ⟨defect, rfl⟩ := decode_eq_error hdecode
      simp
    | ok frame? =>
      cases frame? <;> simp

/-- A line with a plus sign for the first of three digits is read as a frame, and stands for none in digits alone. -/
theorem decode_plus :
    decode (ascii ['t', '+', '1', '2', '0']) = .ok (some ⟨0x12, [], .base, false, by decide, by decide⟩) ∧
      ∀ frame, ¬ Spells Plain (ascii ['t', '+', '1', '2', '0']) frame := by
  have hdecode :
      decode (ascii ['t', '+', '1', '2', '0']) = .ok (some ⟨0x12, [], .base, false, by decide, by decide⟩) := by decide
  refine ⟨hdecode, fun frame hframe => ?_⟩
  obtain ⟨hsigned, hplus⟩ := spells_plain_iff.1 hframe
  have hsame := decode_eq_some_iff.2 hsigned
  rw [hdecode] at hsame
  cases hsame
  exact absurd hplus (by decide)

end CanBus.Slcan.Line
