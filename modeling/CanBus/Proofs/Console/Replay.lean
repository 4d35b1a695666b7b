import CanBus.Proofs.Capture.Log
import CanBus.Proofs.Console.Logging

/-!
# Replaying — what becomes of a log

A log is written line by line and replayed line by line.  Its file holds what was added (`keepLog_holds`), and replaying
it sends the frames that were received and have a payload, each once and in their order (`replay_log`).
-/

namespace CanBus.Console

open Capture (Header Received Record logLines logText readLog)

/-! ## Writing -/

/-- Write a log of lines: the header, the lines and what then still waits. -/
def keepLog [Json.Codec] {m : Type → Type} [Monad m] [Host m] (target : Target) (path : String)
    (lines : List (List Char)) : Program m Unit := do
  flush (← addLines (← beginLog target (some path)) lines)

/-- The file of a log that was written holds the header and the lines. -/
theorem keepLog_holds [Json.Codec] {r : Rehearsal} {path : String} (h : r.tree.Free path) (target : Target)
    (received : List Received) :
    ∃ tree, rehearse (keepLog target path (received.map (·.record.line))) r = (.ok (), { r with tree := tree }) ∧
      tree.Holds path
        (logText (Header.make target.backend.label target.device (target.bitrate.map (·.name))) received) := by
  obtain ⟨tree, buffer, hbegin, hpath, hlogged⟩ := beginLog_logged h target
  obtain ⟨tree', after, hlines, hafter, hlogged'⟩ :=
    addLines_logged (r := { r with tree := tree }) hlogged (received.map (·.record.line))
  obtain ⟨tree'', hflush, hholds⟩ := flush_logged (r := { r with tree := tree' }) hlogged'
  refine ⟨tree'', ?_, ?_⟩
  · rw [keepLog, rehearse_bind_of_ok hbegin, rehearse_bind_of_ok hlines]
    exact hflush
  · rw [Capture.logText_eq, ← hpath, ← hafter]
    simpa using hholds

/-! ## Reading -/

/-- What a line is replayed as: its record, and the frame to be sent unless the record is passed over. -/
def replayLine [Json.Codec] (line : List Char) : Except Refusal (Record × Option Frame) :=
  match Record.ofLine? line with
  | none => .error .badRecord
  | some record =>
    match record.replayed with
    | .error flaw => .error (.record flaw)
    | .ok frame => .ok (record, frame)

theorem replayLine_eq_ok_iff [Json.Codec] {line : List Char} {record : Record} {frame : Option Frame} :
    replayLine line = .ok (record, frame) ↔ Record.ofLine? line = some record ∧ record.replayed = .ok frame := by
  unfold replayLine
  cases hrecord : Record.ofLine? line with
  | none => exact ⟨nofun, nofun⟩
  | some found =>
    dsimp only
    rw [Option.some.injEq]
    constructor
    · intro h
      cases hreplayed : found.replayed with
      | error flaw =>
        rw [hreplayed] at h
        cases h
      | ok frame' =>
        rw [hreplayed] at h
        cases h
        exact ⟨rfl, hreplayed⟩
    · rintro ⟨rfl, hreplayed⟩
      rw [hreplayed]

/-- What a received frame is replayed as: without payload it is passed over. -/
def resent (received : Received) : Record × Option Frame :=
  (received.record, if received.frame.payload = [] then none else some (received.frame.tagged false))

theorem replayLine_record [Json.Codec] [Json.Codec.Documented] (received : Received) :
    replayLine received.record.line = .ok (resent received) :=
  replayLine_eq_ok_iff.2 ⟨received.ofLine?_line, received.replayed_record⟩

/-- Sent are the frames with a payload. -/
theorem filterMap_resent (received : List Received) :
    (received.map resent).filterMap (·.2) = (received.filter (·.frame.payload ≠ [])).map (·.frame.tagged false) := by
  induction received with
  | nil => rfl
  | cons r received ih =>
    rw [List.map_cons, List.filterMap_cons, ih]
    by_cases h : r.frame.payload = [] <;> simp [resent, h]

section

variable {m : Type → Type} [Monad m] [Host m]

/-- Send the frames of records that were read, at their pace if that is asked for. -/
def resend (realtime : Bool) (deadline : Nat) (state : Replay) : List (Record × Option Frame) → Program m Replay
  | [] => return state
  | (record, frame) :: rest => do
    let previous ← if realtime then ExceptT.lift (keepPace state.previous record) else pure none
    let state := { state with previous := previous }
    match frame with
    | none => resend realtime deadline { state with skipped := state.skipped + 1 } rest
    | some frame =>
      let (count, medium) ← sendFrame state.medium frame deadline
      resend realtime deadline { state with medium := medium, sent := state.sent + count } rest

/-- Lines that can all be read are replayed as what they are read as. -/
theorem replayLines_eq [Json.Codec] [LawfulMonad m] {lines : List (List Char)} {read : List (Record × Option Frame)}
    (h : lines.map replayLine = read.map .ok) (realtime : Bool) (deadline : Nat) (state : Replay) :
    (replayLines realtime deadline state lines : Program m Replay) = resend realtime deadline state read := by
  induction lines generalizing read state with
  | nil =>
    cases read with
    | nil => rfl
    | cons entry read => cases h
  | cons line lines ih =>
    cases read with
    | nil => cases h
    | cons entry read =>
      obtain ⟨record, frame⟩ := entry
      obtain ⟨hline, hlines⟩ := List.cons.inj h
      obtain ⟨hrecord, hreplayed⟩ := replayLine_eq_ok_iff.1 hline
      rw [replayLines, resend]
      cases frame <;> simp only [hrecord, hreplayed, require, pure_bind, ih hlines]

end

/-- The course of a replay, once the log has been read. -/
theorem rehearse_replay [Json.Codec] {r : Rehearsal} {path : String} {log first : List Char} {lines : List (List Char)}
    {header : Header} (hfile : r.tree.read path = .ok log) (hlines : logLines log = (first, lines))
    (hheader : Header.ofLine? first = some header) (other : Target) (realtime : Bool) (deadline : Nat) :
    rehearse (replay other path realtime deadline) r = rehearse (do
      say ("replay: " ++ path ++ " recorded on " ++ String.ofList header.device ++ " (" ++
        String.ofList header.backend ++ ") -> " ++ other.device ++ " realtime=" ++ toString realtime)
      let medium ← openTarget other
      let medium ← startMedium medium
      let state ← replayLines realtime deadline ⟨medium, none, 0, 0⟩ lines
      let _ ← closeMedium state.medium
      say ("replay: sent " ++ toString state.sent ++ " frames, skipped " ++ toString state.skipped)) r := by
  have hrun : StateT.run (Host.readText path : StateM Rehearsal _) r = (.ok log, r) := by
    show ((r.tree.read path).mapError _, r) = _
    rw [hfile]
    rfl
  rw [replay, rehearse_lift_bind, hrun]
  simp only [require, pure_bind, hlines, hheader]

/-- **A log is replayed as what was received.**  The file of a log holds the header, which names the backend, the
device and the bitrate of its target, and a line for each frame that was received; so does the file that is written of
the frames which come in, and these are the frames that are shown.  The log reads back as that header and those
records, no line is refused, and those frames are sent that have a payload, in their order, with identifier, format and
payload as they were received and without the loopback flag. -/
theorem replay_log [Json.Codec] [Json.Codec.Documented] (target : Target) (path : String) (received : List Received) :
    let header : Header := ⟨"srlog".toList, 1, target.backend.label.toList, target.device.toList,
      target.bitrate.map (·.name.toList)⟩
    let log := logText header received
    (∀ r : Rehearsal, r.tree.Free path →
      (∃ tree, rehearse (keepLog target path (received.map (·.record.line))) r = (.ok (), { r with tree := tree }) ∧
        tree.read path = .ok log) ∧
      ∀ count idle specs, ∃ result r', rehearse (sniff target count idle specs (some path)) r = (result, r') ∧
        r'.output.toList = r.output.toList ++ shown (sniffed target count idle specs path r) ∧
        r'.tree.read path = .ok (logText header (sniffed target count idle specs path r))) ∧
      readLog log = (some header, received.map fun each => some each.record) ∧
      (logLines log).2.map replayLine = (received.map resent).map .ok ∧
      (received.map resent).filterMap (·.2) =
        (received.filter (·.frame.payload ≠ [])).map (·.frame.tagged false) ∧
      (∀ {m : Type → Type} [Monad m] [LawfulMonad m] [Host m] (realtime : Bool) (deadline : Nat) (state : Replay),
        (replayLines realtime deadline state (logLines log).2 : Program m Replay) =
          resend realtime deadline state (received.map resent)) ∧
      ∀ r : Rehearsal, r.tree.read path = .ok log → ∀ (other : Target) (realtime : Bool) (deadline : Nat),
        rehearse (replay other path realtime deadline) r = rehearse (do
          say ("replay: " ++ path ++ " recorded on " ++ target.device ++ " (" ++ target.backend.label ++ ") -> " ++
            other.device ++ " realtime=" ++ toString realtime)
          let medium ← openTarget other
          let medium ← startMedium medium
          let state ← resend realtime deadline ⟨medium, none, 0, 0⟩ (received.map resent)
          let _ ← closeMedium state.medium
          say ("replay: sent " ++ toString state.sent ++ " frames, skipped " ++ toString state.skipped)) r := by
  intro header log
  have hheader : header = Header.make target.backend.label target.device (target.bitrate.map (·.name)) := by
    simp [header, Header.make, Function.comp_def]
  have hversion : header.version < UInt32.size := Nat.lt_of_lt_of_le (Nat.lt_succ_self 1) (by decide)
  have hlines : logLines log = (header.line, received.map (·.record.line)) := Capture.logLines_logText header received
  have hread : (logLines log).2.map replayLine = (received.map resent).map .ok := by
    rw [hlines, List.map_map, List.map_map]
    exact List.map_congr_left fun each _ => replayLine_record each
  refine ⟨fun r hfree => ⟨?_, fun count idle specs => ?_⟩, Capture.readLog_logText hversion received, hread,
    filterMap_resent received, fun realtime deadline state => replayLines_eq hread realtime deadline state,
    fun r hfile other realtime deadline => ?_⟩
  · obtain ⟨tree, hrun, hholds⟩ := keepLog_holds hfree target received
    exact ⟨tree, hrun, by rw [hholds.read, ← hheader]⟩
  · obtain ⟨result, r', hrun, hshown, hholds⟩ := sniff_logs hfree target count idle specs
    exact ⟨result, r', hrun, hshown, by rw [hholds.read, ← hheader]⟩
  · have hfirst : Header.ofLine? header.line = some header := Header.ofLine?_line hversion
    rw [rehearse_replay hfile hlines hfirst]
    simp only [← replayLines_eq hread, header, String.ofList_toList, hlines]

/-- A frame that was handed back, and one without payload. -/
def smallCapture : List Received :=
  [⟨⟨0x1ABCDEF, [1, 0xFF], .extended, true, by decide, by decide⟩, ⟨0, 500, 0⟩⟩,
    ⟨⟨0x17, [], .base, false, by decide, by decide⟩, ⟨1, 0, 3600⟩⟩]

theorem replay_log_smallCapture :
    let target : Target := ⟨"tty\"\\\n0", .slcan, some .mbit1⟩
    let header : Header := ⟨"srlog".toList, 1, "Slcan".toList, "tty\"\\\n0".toList, some "1m".toList⟩
    let r := Rehearsal.fresh [] none none
    (∃ tree, rehearse (keepLog target "a.srlog" (smallCapture.map (·.record.line))) r =
        (.ok (), { r with tree := tree }) ∧
      tree.read "a.srlog" = .ok (logText header smallCapture)) ∧
      readLog (logText header smallCapture) = (some header, smallCapture.map fun each => some each.record) ∧
      (smallCapture.map resent).filterMap (·.2) =
        [⟨0x1ABCDEF, [1, 0xFF], .extended, false, by decide, by decide⟩] := by
  intro target header r
  have hfree : r.tree.Free "a.srlog" := ⟨_, rfl, rfl⟩
  obtain ⟨hwritten, hread, -, hsent, -, -⟩ := replay_log target "a.srlog" smallCapture
  exact ⟨(hwritten r hfree).1, hread, hsent.trans (by decide)⟩

example : String.ofList (logText (.make "Slcan" "tty\"\\\n0" (some "1m")) smallCapture) =
    "\x7b\"format\":\"srlog\",\"version\":1,\"backend\":\"Slcan\"," ++
      "\"device\":\"tty\\\"\\\\\\n0\",\"bitrate\":\"1m\"\x7d\n" ++
    "\x7b\"ts\":\"1970-01-01T00:00:00.0000005Z\",\"id\":\"0x01ABCDEF\"," ++
      "\"ext\":true,\"len\":2,\"data\":\"01FF\"\x7d\n" ++
    "\x7b\"ts\":\"1970-01-01T01:00:01+01:00\",\"id\":\"0x017\"," ++
      "\"ext\":false,\"len\":0,\"data\":\"\"\x7d\n" := by
  decide +kernel

end CanBus.Console
