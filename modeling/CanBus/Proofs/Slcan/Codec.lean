import CanBus.Proofs.Text.Numeral
import CanBus.Slcan.Reader
import Mathlib.Data.List.Basic

/-!
# The line codec — frames survive the way over the wire

A line that was written for a frame is read as that frame without its loopback flag (`decode_body`), whatever
follows its payload, and holds no byte that ends a line (`body_not_terminator`); so decoding undoes encoding
(`decode_encode`).
-/

namespace CanBus.Slcan

/-! ## Characters and bytes -/

theorem toNat_ofNat_of_ascii {c : Char} (h : c.toNat < 128) : (UInt8.ofNat c.toNat).toNat = c.toNat := by
  rw [UInt8.toNat_ofNat']
  omega

theorem characters_ascii {cs : List Char} (h : ∀ c ∈ cs, c.toNat < 128) : characters (ascii cs) = cs := by
  rw [characters, ascii, List.map_map]
  refine (List.map_congr_left fun c hc => ?_).trans (List.map_id cs)
  show Char.ofNat (UInt8.ofNat c.toNat).toNat = c
  rw [toNat_ofNat_of_ascii (h c hc)]
  exact Char.ofNat_toNat c

theorem wellFormed_ascii {cs : List Char} (h : ∀ c ∈ cs, c.toNat < 128) : Utf8.wellFormed (ascii cs) = true := by
  refine Utf8.wellFormed_of_ascii fun b hb => ?_
  obtain ⟨c, hc, rfl⟩ := List.mem_map.1 hb
  rw [UInt8.lt_iff_toNat_lt, toNat_ofNat_of_ascii (h c hc)]
  exact h c hc

theorem ascii_append (cs ds : List Char) : ascii (cs ++ ds) = ascii cs ++ ascii ds := List.map_append

theorem length_ascii (cs : List Char) : (ascii cs).length = cs.length := List.length_map _

namespace Line

/-! ## The parts of a line -/

theorem number_upper {width n : Nat} (hwidth : 1 ≤ width) (hn : n < 16 ^ width) (hword : n < UInt32.size) :
    number (ascii (Hex.upper width n)) = .ok n := by
  have hascii : ∀ c ∈ Hex.upper width n, c.toNat < 128 := by
    intro c hc
    obtain ⟨d, hd, rfl⟩ := Hex.mem_upper hc
    exact Hex.upperDigit_toNat_lt hd
  have hlimit : n ≤ UInt32.size - 1 := by omega
  rw [number, if_pos (wellFormed_ascii hascii), characters_ascii hascii, Hex.read_upper hwidth hn hlimit]

theorem octets_bytes (payload : List UInt8) : octets (ascii (Hex.bytes payload)) = .ok payload := by
  induction payload with
  | nil => rfl
  | cons b payload ih =>
    have hlength := Hex.length_byte b
    have hnumber : number (ascii (Hex.byte b)) = .ok b.toNat :=
      number_upper (by decide) (Hex.byte_lt b) (Nat.lt_trans b.toNat_lt (by decide))
    obtain ⟨high, low, hbyte⟩ := List.length_eq_two.1 hlength
    rw [hbyte] at hnumber
    rw [Hex.bytes, List.flatMap_cons, ← Hex.bytes, ascii_append, hbyte]
    show octets (_ :: _ :: ascii (Hex.bytes payload)) = _
    rw [octets]
    show (number (ascii [high, low])).bind _ = _
    rw [hnumber, ih]
    show Except.ok (UInt8.ofNat b.toNat :: payload) = _
    rw [UInt8.ofNat_toNat]

theorem lengthDigit_ofNat {n : Nat} (h : n ≤ maxPayload) :
    lengthDigit (UInt8.ofNat (Char.ofNat (48 + n)).toNat) = .ok n := by
  have hall : ∀ n < 9, lengthDigit (UInt8.ofNat (Char.ofNat (48 + n)).toNat) = .ok n := by decide
  exact hall n (Nat.lt_succ_of_le h)

/-! ## Whole lines -/

/-- A line whose parts are read is read as the frame with these parts, whatever comes after the payload. -/
theorem dataFrame_append {format : IdFormat} {id pairs payload : List UInt8} {n k : Nat} {lengthByte : UInt8}
    (hdigits : id.length = format.digits) (hid : number id = .ok n) (hlength : lengthDigit lengthByte = .ok k)
    (hpairs : pairs.length = 2 * k) (hpayload : octets pairs = .ok payload) (rest : List UInt8) :
    dataFrame format (id ++ lengthByte :: (pairs ++ rest)) =
      Frame.make (BitVec.ofNat 32 n) payload format false := by
  have hlong : ¬ (pairs ++ rest).length < 2 * k := by
    rw [List.length_append]
    omega
  rw [dataFrame, List.drop_left' hdigits, List.take_left' hdigits, hid]
  simp only [hlength]
  show (if (pairs ++ rest).length < 2 * k then _ else _) = _
  rw [if_neg hlong, List.take_left' hpairs, hpayload]
  rfl

/-- What follows the letter of a line reads back, whatever comes after the payload. -/
theorem dataFrame_body (frame : Frame) (h : frame.payload.length ≤ maxPayload) (rest : List UInt8) :
    dataFrame frame.format (ascii (body frame).tail ++ rest) = .ok (frame.tagged false) := by
  have hline : ascii (body frame).tail ++ rest =
      ascii (Hex.upper frame.format.digits frame.id.toNat) ++
        UInt8.ofNat (Char.ofNat (48 + frame.payload.length)).toNat :: (ascii (Hex.bytes frame.payload) ++ rest) := by
    rw [body, List.cons_append, List.tail_cons, ascii_append, List.append_assoc]
    rfl
  have hdigits : (ascii (Hex.upper frame.format.digits frame.id.toNat)).length = frame.format.digits := by
    rw [length_ascii, Hex.length_upper_of_lt frame.format.one_le_digits frame.id_lt]
  have hpayload : (ascii (Hex.bytes frame.payload)).length = 2 * frame.payload.length := by
    rw [length_ascii, Hex.length_bytes]
  have hid : number (ascii (Hex.upper frame.format.digits frame.id.toNat)) = .ok frame.id.toNat :=
    number_upper frame.format.one_le_digits frame.id_lt frame.id.isLt
  rw [hline, dataFrame_append hdigits hid (lengthDigit_ofNat h) hpayload (octets_bytes _), BitVec.ofNat_toNat,
    BitVec.setWidth_eq]
  exact (frame.tagged false).make_eq_ok

/-- **A line reads back as its frame**, without the loopback flag and whatever follows the payload. -/
theorem decode_body (frame : Frame) (h : frame.payload.length ≤ maxPayload) (rest : List UInt8) :
    decode (ascii (body frame) ++ rest) = .ok (some (frame.tagged false)) := by
  have hdata := dataFrame_body frame h rest
  have hline : ascii (body frame) ++ rest =
      UInt8.ofNat (letter frame.format).toNat :: (ascii (body frame).tail ++ rest) := rfl
  rw [hline, decode]
  cases hformat : frame.format with
  | base =>
    rw [hformat] at hdata
    rw [if_pos (by decide), hdata]
    rfl
  | extended =>
    rw [hformat] at hdata
    rw [if_neg (by decide), if_pos (by decide), hdata]
    rfl

/-! ## No end inside a line -/

theorem not_terminator_of_char {c : Char} (hascii : c.toNat < 128) (hprint : 32 ≤ c.toNat) :
    Reader.isTerminator (UInt8.ofNat c.toNat) = false := by
  have hne : ∀ b : UInt8, b.toNat < 32 → UInt8.ofNat c.toNat ≠ b := by
    intro b hb heq
    have htoNat := toNat_ofNat_of_ascii hascii
    rw [heq] at htoNat
    omega
  rw [Reader.isTerminator, Bool.or_eq_false_iff]
  exact ⟨beq_eq_false_iff_ne.2 (hne _ (by decide)), beq_eq_false_iff_ne.2 (hne _ (by decide))⟩

theorem body_printable {frame : Frame} (h : frame.payload.length ≤ maxPayload) {c : Char} (hc : c ∈ body frame) :
    c.toNat < 128 ∧ 32 ≤ c.toNat := by
  have hdigit : ∀ {d : Nat}, d < 16 → (Hex.upperDigit d).toNat < 128 ∧ 32 ≤ (Hex.upperDigit d).toNat := by decide
  have hlength : ∀ n < 9, (Char.ofNat (48 + n)).toNat < 128 ∧ 32 ≤ (Char.ofNat (48 + n)).toNat := by decide
  rw [body, List.cons_append, List.mem_cons, List.mem_append, List.mem_cons] at hc
  rcases hc with rfl | hid | rfl | hpayload
  · cases frame.format <;> decide
  · obtain ⟨d, hd, rfl⟩ := Hex.mem_upper hid
    exact hdigit hd
  · exact hlength _ (Nat.lt_succ_of_le h)
  · obtain ⟨b, -, hb⟩ := List.mem_flatMap.1 hpayload
    obtain ⟨d, hd, rfl⟩ := Hex.mem_upper hb
    exact hdigit hd

/-- A line holds no byte that ends a line. -/
theorem body_not_terminator {frame : Frame} (h : frame.payload.length ≤ maxPayload) {b : UInt8}
    (hb : b ∈ ascii (body frame)) : Reader.isTerminator b = false := by
  obtain ⟨c, hc, rfl⟩ := List.mem_map.1 hb
  obtain ⟨hascii, hprint⟩ := body_printable h hc
  exact not_terminator_of_char hascii hprint

theorem body_notMem {frame : Frame} (h : frame.payload.length ≤ maxPayload) :
    carriageReturn ∉ ascii (body frame) ∧ bell ∉ ascii (body frame) := by
  have hends : Reader.isTerminator carriageReturn = true ∧ Reader.isTerminator bell = true := by decide
  constructor
  · intro hmem
    simp [body_not_terminator h hmem] at hends
  · intro hmem
    simp [body_not_terminator h hmem] at hends

/-! ## Encoding -/

theorem encode_eq_ok_iff {frame : Frame} {line : List UInt8} :
    encode frame = .ok line ↔
      frame.payload.length ≤ maxPayload ∧ line = ascii (body frame) ++ [carriageReturn] := by
  unfold encode
  by_cases h : maxPayload < frame.payload.length
  · rw [if_pos h]
    exact ⟨nofun, fun hline => absurd hline.1 (by omega)⟩
  · rw [if_neg h, Except.ok.injEq]
    exact ⟨fun hline => ⟨by omega, hline.symm⟩, fun hline => hline.2.symm⟩

/-- **Decoding undoes encoding.**  Exactly the frames of up to eight bytes have a line.  It ends in a carriage return
and holds no other end of a line, and without its end it is read as the frame, whatever comes behind it.  So frames with
the same line differ in their loopback flags at most. -/
theorem decode_encode (frame : Frame) :
    ((∃ line, encode frame = .ok line) ↔ frame.payload.length ≤ 8) ∧
      (∀ line, encode frame = .ok line →
        ∃ front, line = front ++ [carriageReturn] ∧ carriageReturn ∉ front ∧ bell ∉ front ∧
          ∀ rest, decode (front ++ rest) = .ok (some (frame.tagged false))) ∧
      ∀ line other, encode frame = .ok line → encode other = .ok line →
        frame.tagged false = other.tagged false := by
  refine ⟨?_, ?_, ?_⟩
  · constructor
    · rintro ⟨line, hline⟩
      exact (encode_eq_ok_iff.1 hline).1
    · intro hshort
      exact ⟨_, encode_eq_ok_iff.2 ⟨hshort, rfl⟩⟩
  · intro line hline
    obtain ⟨hshort, rfl⟩ := encode_eq_ok_iff.1 hline
    obtain ⟨hreturn, hbell⟩ := body_notMem hshort
    exact ⟨_, rfl, hreturn, hbell, decode_body frame hshort⟩
  · intro line other hline hother
    obtain ⟨hshort, rfl⟩ := encode_eq_ok_iff.1 hline
    obtain ⟨hshort', hsame⟩ := encode_eq_ok_iff.1 hother
    have hbody : ascii (body frame) = ascii (body other) := List.append_cancel_right hsame
    have hframe := decode_body frame hshort []
    rw [hbody, decode_body other hshort' []] at hframe
    exact (Option.some.inj (Except.ok.inj hframe)).symm

end Line

end CanBus.Slcan
