import CanBus.Capture.Header
import CanBus.Capture.Record
import CanBus.Proofs.Capture.Word
import CanBus.Proofs.Text.Json

/-!
# Lines of a log — headers and records read back

With every library for JSON that does what is documented, a header and a record read back from their lines
(`Header.ofLine?_line`, `Record.ofLine?_line`), each of which is one line indeed.  A record names the frame that its
fields spell (`Record.frame_eq_ok_iff`), and the record of a frame names that frame without its loopback flag
(`Received.frame_record`).
-/

namespace CanBus.Capture

/-- A number that is written in digits reads back as itself. -/
theorem natural?_value {n limit : Nat} (h : n ≤ limit) : (Json.Scalar.natural n).value.natural? limit = some n :=
  Json.natural?_natural h

/-! ## Headers -/

namespace Header

/-- The fields of a header are found by their names. -/
theorem fields?_members (header : Header) :
    (Json.Value.object (header.members.map fun (key, scalar) => (some key.toList, scalar.value))).fields? names =
      some [some (.string (some header.format)), some (Json.Scalar.natural header.version).value,
        some (.string (some header.backend)), some (.string (some header.device)),
        header.bitrate.map fun bitrate => .string (some bitrate)] := by
  obtain ⟨format, version, backend, device, _ | bitrate⟩ := header <;>
    simp [Json.Value.fields?, names, members, Json.Scalar.value]

theorem ofLine?_line [Json.Codec] [Json.Codec.Documented] {header : Header} (h : header.version < UInt32.size) :
    ofLine? header.line = some header := by
  have hversion : (Json.Scalar.natural header.version).value.natural? (UInt32.size - 1) = some header.version :=
    natural?_value (by omega)
  rw [ofLine?, line, Json.Codec.Documented.read_write, Option.bind_some, ofValue?, fields?_members]
  simp only [Option.bind_eq_bind, Option.bind_some, Json.Value.text?, hversion]
  obtain ⟨format, version, backend, device, _ | bitrate⟩ := header <;> rfl

theorem unbroken_line [Json.Codec] [Json.Codec.Documented] (header : Header) : '\n' ∉ header.line :=
  Json.Codec.Documented.unbroken _

end Header

/-! ## Records -/

namespace Record

/-- The fields of a record are found by their names. -/
theorem fields?_members (record : Record) :
    (Json.Value.object (record.members.map fun (key, scalar) => (some key.toList, scalar.value))).fields? names =
      some [some (.string (some record.time)), some (.string (some record.id)), some (.boolean record.extended),
        some (Json.Scalar.natural record.length).value, some (.string (some record.data))] := by
  simp [Json.Value.fields?, names, members, Json.Scalar.value]

theorem ofLine?_line [Json.Codec] [Json.Codec.Documented] {record : Record} (h : record.length < UInt64.size) :
    ofLine? record.line = some record := by
  have hlength : (Json.Scalar.natural record.length).value.natural? (UInt64.size - 1) = some record.length :=
    natural?_value (by omega)
  rw [ofLine?, line, Json.Codec.Documented.read_write, Option.bind_some, ofValue?, fields?_members]
  simp only [Option.bind_eq_bind, Option.bind_some, Json.Value.text?, Json.Value.boolean?, hlength]
  rfl

theorem unbroken_line [Json.Codec] [Json.Codec.Documented] (record : Record) : '\n' ∉ record.line :=
  Json.Codec.Documented.unbroken _

end Record

/-! ## Frames of records -/

theorem octets?_eq_nil_iff {cs : List Char} : octets? cs = some [] ↔ cs = [] := by
  match cs with
  | [] => simp [octets?]
  | [_] => simp [octets?]
  | high :: low :: rest =>
    rw [octets?]
    cases (Hex.readByte [high, low]).toOption <;> cases octets? rest <;> simp

namespace Record

/-- The identifier format that the record names. -/
def format (record : Record) : IdFormat := if record.extended then .extended else .base

/-- A record names a frame whose parts its fields spell. -/
theorem frame_eq_ok_iff {record : Record} {frame : Frame} :
    record.frame = .ok frame ↔ word? record.id = some frame.id ∧ octets? record.data = some frame.payload ∧
      frame.payload.length = record.length ∧ frame.format = record.format ∧ frame.loopback = false := by
  unfold Record.frame
  cases hid : word? record.id with
  | none => simp
  | some id =>
    cases hdata : octets? record.data with
    | none => simp
    | some payload =>
      by_cases hlength : payload.length = record.length
      · have hparts : (id = frame.id ∧ payload = frame.payload ∧ frame.payload.length = record.length ∧
            frame.format = record.format ∧ frame.loopback = false) ↔
              Frame.make id payload record.format false = .ok frame := by
          rw [Frame.make_eq_ok_iff]
          constructor
          · rintro ⟨rfl, rfl, -, hformat, hloopback⟩
            exact ⟨rfl, rfl, hformat, hloopback⟩
          · rintro ⟨rfl, rfl, hformat, hloopback⟩
            exact ⟨rfl, rfl, hlength, hformat, hloopback⟩
        simp only [ne_eq, hlength, not_true_eq_false, if_false, Option.some.injEq, hparts]
        rw [format]
        cases Frame.make id payload (if record.extended then .extended else .base) false <;> simp
      · simp only [ne_eq, hlength, not_false_eq_true, if_true, reduceCtorEq, false_iff]
        rintro ⟨-, hpayload, hlength', -⟩
        rw [Option.some.inj hpayload] at hlength
        exact hlength hlength'

end Record

/-! ## Frames as records -/

theorem octets?_bytes (payload : List UInt8) : octets? (Hex.bytes payload) = some payload := by
  induction payload with
  | nil => rfl
  | cons b payload ih =>
    obtain ⟨high, low, hbyte⟩ := List.length_eq_two.1 (Hex.length_byte b)
    have hread : Hex.readByte (Hex.byte b) = .ok b := Hex.readByte_eq_ok_iff.2 (Hex.spells_byte b).signed
    rw [hbyte] at hread
    rw [Hex.bytes, List.flatMap_cons, ← Hex.bytes, hbyte]
    show octets? (high :: low :: Hex.bytes payload) = _
    rw [octets?, hread, ih]
    rfl

namespace Received

/-- **The record of a frame names the frame**, without its loopback flag. -/
theorem frame_record (received : Received) : received.record.frame = .ok (received.frame.tagged false) := by
  have hformat : received.frame.format = received.record.format := by
    cases hformat : received.frame.format <;> simp [Record.format, record, hformat]
  exact Record.frame_eq_ok_iff.2
    ⟨word?_idText received.frame, octets?_bytes received.frame.payload, rfl, hformat, rfl⟩

/-- A frame without payload is passed over, and any other is to be sent. -/
theorem replayed_record (received : Received) :
    received.record.replayed =
      .ok (if received.frame.payload = [] then none else some (received.frame.tagged false)) := by
  have hlength : received.record.length = 0 ↔ received.frame.payload = [] := List.length_eq_zero_iff
  rw [Record.replayed, frame_record]
  by_cases h : received.frame.payload = []
  · rw [if_pos (hlength.2 h), if_pos h]
  · rw [if_neg (hlength.not.2 h), if_neg h]
    rfl

theorem ofLine?_line [Json.Codec] [Json.Codec.Documented] (received : Received) :
    Record.ofLine? received.record.line = some received.record :=
  Record.ofLine?_line (Nat.lt_of_le_of_lt received.frame.payload_le (by decide))

end Received

end CanBus.Capture
