import CanBus.Console.Run
import CanBus.Proofs.Capture.Record

/-!
# Records passed over — where replaying a record and reading it part ways

A record is read by its identifier, its data and its length together, but replaying looks at the length first and passes
over a record that declares none.  What is sent is what is read, and what is refused is flawed; but a record that
declares no payload is passed over even if it is flawed.  So replaying treats a record as reading does if and only if it
declares a payload or its other fields agree with having none (`readAlike_iff`).
-/

namespace CanBus.Capture

namespace Record

variable {record : Record} {frame : Frame} {flaw : Flaw}

/-- A record that declares no payload names a frame if its data are empty and its identifier is one of its format. -/
theorem exists_frame_iff (hlength : record.length = 0) :
    (∃ frame, record.frame = .ok frame) ↔
      record.data = [] ∧ ∃ id, word? record.id = some id ∧ id.toNat ≤ record.format.maxId := by
  constructor
  · rintro ⟨frame, hframe⟩
    obtain ⟨hid, hdata, hlen, hformat, -⟩ := frame_eq_ok_iff.1 hframe
    rw [hlength, List.length_eq_zero_iff] at hlen
    rw [hlen, octets?_eq_nil_iff] at hdata
    exact ⟨hdata, frame.id, hid, hformat ▸ frame.id_le⟩
  · rintro ⟨hdata, id, hid, hle⟩
    exact ⟨⟨id, [], record.format, false, hle, Nat.zero_le _⟩,
      frame_eq_ok_iff.2 ⟨hid, octets?_eq_nil_iff.2 hdata, hlength.symm, rfl, rfl⟩⟩

/-! ## Replaying and reading -/

/-- What replaying would make of a record by reading it: a frame without payload is passed over. -/
def asRead (record : Record) : Except Flaw (Option Frame) :=
  record.frame.map fun frame => if frame.payload = [] then none else some frame

/-- Replaying treats the record as reading does: it refuses what cannot be read, passes over frames without payload and
sends all others. -/
structure ReadAlike (record : Record) : Prop where
  refused : (∃ flaw, record.replayed = .error flaw) ↔ ∃ flaw, record.frame = .error flaw
  passed : record.replayed = .ok none ↔ ∃ frame, record.frame = .ok frame ∧ frame.payload = []
  sent : ∀ frame, record.replayed = .ok (some frame) ↔ record.frame = .ok frame ∧ frame.payload ≠ []

theorem replayed_eq_error_iff : record.replayed = .error flaw ↔ record.length ≠ 0 ∧ record.frame = .error flaw := by
  unfold replayed
  by_cases hlength : record.length = 0
  · simp [hlength]
  · cases hframe : record.frame <;> simp [hlength, Except.map]

theorem replayed_eq_none_iff : record.replayed = .ok none ↔ record.length = 0 := by
  unfold replayed
  by_cases hlength : record.length = 0
  · simp [hlength]
  · cases hframe : record.frame <;> simp [hlength, Except.map]

/-- What is sent is what is read, whatever the record says. -/
theorem replayed_eq_some_iff : record.replayed = .ok (some frame) ↔ record.frame = .ok frame ∧ frame.payload ≠ [] := by
  have hpayload : record.frame = .ok frame → (frame.payload ≠ [] ↔ record.length ≠ 0) := by
    intro hframe
    rw [← (frame_eq_ok_iff.1 hframe).2.2.1, Ne, Ne, List.length_eq_zero_iff]
  unfold replayed
  by_cases hlength : record.length = 0
  · simp only [hlength, if_true, Except.ok.injEq, reduceCtorEq, false_iff, not_and, not_not]
    intro hframe
    simpa [hlength] using hpayload hframe
  · rw [if_neg hlength]
    cases hframe : record.frame with
    | error flaw => simp [Except.map]
    | ok found =>
      simp only [Except.map, Except.ok.injEq, Option.some.injEq]
      constructor
      · rintro rfl
        exact ⟨rfl, (hpayload hframe).2 hlength⟩
      · exact fun h => h.1

/-- **Replaying and reading agree** on a record that declares a payload, and on one that names a frame. -/
theorem readAlike_iff_exists : record.ReadAlike ↔ (record.length = 0 → ∃ frame, record.frame = .ok frame) := by
  constructor
  · intro h hlength
    obtain ⟨frame, hframe, -⟩ := h.passed.1 (replayed_eq_none_iff.2 hlength)
    exact ⟨frame, hframe⟩
  · intro h
    refine ⟨?_, ?_, fun frame => replayed_eq_some_iff⟩
    · simp only [replayed_eq_error_iff]
      refine ⟨fun ⟨flaw, _, hflaw⟩ => ⟨flaw, hflaw⟩, fun ⟨flaw, hflaw⟩ => ⟨flaw, fun hlength => ?_, hflaw⟩⟩
      obtain ⟨frame, hframe⟩ := h hlength
      simp [hflaw] at hframe
    · rw [replayed_eq_none_iff]
      constructor
      · intro hlength
        obtain ⟨frame, hframe⟩ := h hlength
        have hlen := (frame_eq_ok_iff.1 hframe).2.2.1
        exact ⟨frame, hframe, List.length_eq_zero_iff.1 (hlen.trans hlength)⟩
      · rintro ⟨frame, hframe, hpayload⟩
        rw [← (frame_eq_ok_iff.1 hframe).2.2.1, hpayload, List.length_nil]

theorem ReadAlike.replayed_eq (h : record.ReadAlike) : record.replayed = record.asRead := by
  rw [asRead]
  cases hframe : record.frame with
  | error flaw =>
    obtain ⟨flaw', hflaw'⟩ := h.refused.2 ⟨flaw, hframe⟩
    have hsame := (replayed_eq_error_iff.1 hflaw').2
    rw [hframe] at hsame
    rw [hsame, hflaw']
    rfl
  | ok frame =>
    by_cases hpayload : frame.payload = []
    · rw [h.passed.2 ⟨frame, hframe, hpayload⟩]
      simp [Except.map, hpayload]
    · rw [(h.sent frame).2 ⟨hframe, hpayload⟩]
      simp [Except.map, hpayload]

end Record

end CanBus.Capture

namespace CanBus.Console

open Capture (Flaw Record word?)

section

variable {m : Type → Type} [Monad m] [Host m] [Json.Codec]

/-- Send what `treat` makes of the records of lines, one after the other. -/
def replayBy (treat : Record → Except Flaw (Option Frame)) (realtime : Bool) (deadline : Nat) (state : Replay) :
    List (List Char) → Program m Replay
  | [] => return state
  | line :: rest => do
    let record ← match Record.ofLine? line with
      | some record => pure record
      | none => throw .badRecord
    let previous ← if realtime then ExceptT.lift (keepPace state.previous record) else pure none
    let state := { state with previous := previous }
    match ← require .record (treat record) with
    | none => replayBy treat realtime deadline { state with skipped := state.skipped + 1 } rest
    | some frame =>
      let (count, medium) ← sendFrame state.medium frame deadline
      replayBy treat realtime deadline { state with medium := medium, sent := state.sent + count } rest

/-- Lines are replayed as `treat` has it if it does what replaying does with each of their records. -/
theorem replayLines_eq_replayBy [LawfulMonad m] {treat : Record → Except Flaw (Option Frame)} {lines : List (List Char)}
    (h : ∀ line ∈ lines, ∀ record, Record.ofLine? line = some record → record.replayed = treat record)
    (realtime : Bool) (deadline : Nat) (state : Replay) :
    (replayLines realtime deadline state lines : Program m Replay) = replayBy treat realtime deadline state lines := by
  induction lines generalizing state with
  | nil => rfl
  | cons line lines ih =>
    have hrest := ih fun other hother => h other (List.mem_cons_of_mem _ hother)
    rw [replayLines, replayBy]
    cases hrecord : Record.ofLine? line with
    | none => exact ExceptT.ext (by simp)
    | some record =>
      have hsame := h line List.mem_cons_self record hrecord
      cases htreat : treat record with
      | error flaw => exact ExceptT.ext (by simp [require, hsame, htreat])
      | ok frame => cases frame <;> simp only [require, pure_bind, hsame, htreat, hrest]

end

/-- **Where replaying treats a record as reading does.**  It does so if and only if the record declares a payload, or
declares none and has empty data and an identifier of its format.  Of any record, what replaying refuses is refused by
reading for the same flaw, unless the record declares no payload, and what it sends are the frames with a payload that
are read.  So lines whose records are all of that kind are replayed as they are read. -/
theorem readAlike_iff (record : Record) :
    (record.ReadAlike ↔ (record.length = 0 →
      record.data = [] ∧ ∃ id, word? record.id = some id ∧ id.toNat ≤ record.format.maxId)) ∧
      (∀ flaw, record.replayed = .error flaw ↔ record.length ≠ 0 ∧ record.frame = .error flaw) ∧
      (∀ frame, record.replayed = .ok (some frame) ↔ record.frame = .ok frame ∧ frame.payload ≠ []) ∧
      ∀ [Json.Codec] {m : Type → Type} [Monad m] [LawfulMonad m] [Host m] (realtime : Bool) (deadline : Nat)
        (state : Replay) (lines : List (List Char)),
        (∀ line ∈ lines, ∀ record, Record.ofLine? line = some record → record.ReadAlike) →
          (replayLines realtime deadline state lines : Program m Replay) =
            replayBy Record.asRead realtime deadline state lines := by
  refine ⟨?_, fun flaw => Record.replayed_eq_error_iff, fun frame => Record.replayed_eq_some_iff, ?_⟩
  · rw [Record.readAlike_iff_exists]
    exact forall_congr' Record.exists_frame_iff
  · intro _ m _ _ _ realtime deadline state lines h
    exact replayLines_eq_replayBy (fun line hline record hrecord => (h line hline record hrecord).replayed_eq)
      realtime deadline state

/-- A record that declares no payload but has one: it cannot be read, and replaying passes over it without a word. -/
theorem replayed_mismatch :
    Record.frame ⟨[], ['0', 'x', '1', '2', '3'], false, 0, ['A', 'B']⟩ = .error (.lengthMismatch 0 ['A', 'B']) ∧
      Record.replayed ⟨[], ['0', 'x', '1', '2', '3'], false, 0, ['A', 'B']⟩ = .ok none ∧
      ¬ Record.ReadAlike ⟨[], ['0', 'x', '1', '2', '3'], false, 0, ['A', 'B']⟩ := by
  refine ⟨by decide, rfl, fun h => ?_⟩
  obtain ⟨flaw, hflaw⟩ := h.refused.2 ⟨.lengthMismatch 0 ['A', 'B'], by decide⟩
  cases hflaw

end CanBus.Console
