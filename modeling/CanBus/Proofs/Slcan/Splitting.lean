import CanBus.Proofs.Slcan.Relay

/-!
# Splitting — the lines of a stream

What a reader makes of a stream is told without the reader: split the stream at every end of a line, leave out the
empty pieces and those that a bell ends, and decode the others one by one; what follows the last end is kept
(`drain_eq`).  The reader comes to this after one round for each end (`rounds_drain`), in whatever pieces the stream
arrives (`receiveAll_lines`).
-/

namespace CanBus.Slcan

namespace Reader

/-! ## Pieces and lines -/

/-- The pieces that end in a stream, each with the byte that ends it. -/
def ended (stream : List UInt8) : List (List UInt8 × UInt8) :=
  (stream.splitOnP isTerminator).dropLast.zip (stream.filter isTerminator)

/-- What follows the last end in a stream. -/
def unended (stream : List UInt8) : List UInt8 := (stream.splitOnP isTerminator).getLastD []

/-- The lines of a stream: the pieces that a carriage return ends, without the empty ones. -/
def wholeLines (stream : List UInt8) : List (List UInt8) :=
  ((ended stream).filter fun piece => piece.2 == carriageReturn && !piece.1.isEmpty).map (·.1)

/-- What a line says. -/
def said? (line : List UInt8) : Option Reading :=
  match Line.decode line with
  | .ok frame? => frame?.map .frame
  | .error fault => some (.refused fault)

section Pieces

variable {buffer line rest : List UInt8} {terminator : UInt8}

theorem splitOnP_of_unfinished (h : Unfinished buffer) : buffer.splitOnP isTerminator = [buffer] :=
  List.splitOnP_eq_singleton h

theorem splitOnP_line (hline : Unfinished line) (hend : isTerminator terminator = true) :
    (line ++ terminator :: rest).splitOnP isTerminator = line :: rest.splitOnP isTerminator :=
  List.splitOnP_append_cons_of_forall_mem hline terminator hend rest

theorem ended_of_unfinished (h : Unfinished buffer) : ended buffer = [] := by
  rw [ended, splitOnP_of_unfinished h, List.dropLast_singleton, List.zip_nil_left]

theorem unended_of_unfinished (h : Unfinished buffer) : unended buffer = buffer := by
  rw [unended, splitOnP_of_unfinished h]
  rfl

theorem ended_line (hline : Unfinished line) (hend : isTerminator terminator = true) :
    ended (line ++ terminator :: rest) = (line, terminator) :: ended rest := by
  have hfilter : (line ++ terminator :: rest).filter isTerminator = terminator :: rest.filter isTerminator := by
    have hnone : line.filter isTerminator = [] := List.filter_eq_nil_iff.2 fun b hb => by simp [hline b hb]
    rw [List.filter_append, hnone, List.nil_append, List.filter_cons_of_pos hend]
  rw [ended, splitOnP_line hline hend, hfilter, List.dropLast_cons_of_ne_nil (List.splitOnP_ne_nil _ _),
    List.zip_cons_cons, ended]

theorem unended_line (hline : Unfinished line) (hend : isTerminator terminator = true) :
    unended (line ++ terminator :: rest) = unended rest := by
  obtain ⟨piece, pieces, hpieces⟩ := List.exists_cons_of_ne_nil (List.splitOnP_ne_nil isTerminator rest)
  rw [unended, splitOnP_line hline hend, unended, hpieces]
  rfl

/-- What a piece says is what its line says, if it is a line. -/
theorem readLine_eq (hend : isTerminator terminator = true) :
    readLine line terminator = if terminator == carriageReturn && !line.isEmpty then said? line else none := by
  have hends : terminator = carriageReturn ∨ terminator = bell := by simpa [isTerminator] using hend
  rcases hends with rfl | rfl
  · by_cases hempty : line = []
    · rw [readLine, if_pos (.inr hempty), hempty]
      rfl
    · have hcondition : ¬ (carriageReturn = bell ∨ line = []) := by
        rintro (hbell | hnil)
        · exact absurd hbell (by decide)
        · exact hempty hnil
      have hline : (carriageReturn == carriageReturn && !line.isEmpty) = true := by simpa using hempty
      rw [readLine, if_neg hcondition, if_pos hline, said?]
      rcases Line.decode line with fault | frame?
      · rfl
      · cases frame? <;> rfl
  · rfl

theorem wholeLines_of_unfinished (h : Unfinished buffer) : wholeLines buffer = [] := by
  rw [wholeLines, ended_of_unfinished h]
  rfl

theorem wholeLines_line (hline : Unfinished line) (hend : isTerminator terminator = true) :
    wholeLines (line ++ terminator :: rest) =
      (if terminator == carriageReturn && !line.isEmpty then [line] else []) ++ wholeLines rest := by
  rw [wholeLines, ended_line hline hend, List.filter_cons]
  split_ifs
  · rfl
  · rfl

end Pieces

/-! ## What a stream says -/

/-- **What is made of a stream.**  Its lines say what is read of it, and what follows the last end is left over. -/
theorem drain_eq (stream : List UInt8) : drain stream = ((wholeLines stream).filterMap said?, unended stream) := by
  induction stream using line_induction with
  | unfinished buffer hbuffer =>
    rw [drain_of_unfinished hbuffer, wholeLines_of_unfinished hbuffer, unended_of_unfinished hbuffer,
      List.filterMap_nil]
  | line line terminator rest hline hend ih =>
    rw [drain_line hline hend, wholeLines_line hline hend, unended_line hline hend, readLine_eq hend, ih,
      List.filterMap_append]
    split_ifs
    · cases hsaid : said? line <;> simp [hsaid]
    · rfl

/-- The loop over a buffer comes to its end after a number of rounds, with what was read and what is left over.  A round
takes the first line off the buffer. -/
inductive Rounds : Nat → List UInt8 → List Reading × List UInt8 → Prop
  | done {buffer : List UInt8} (h : Unfinished buffer) : Rounds 0 buffer ([], buffer)
  | round {n : Nat} {line rest left : List UInt8} {terminator : UInt8} {readings : List Reading}
      (hline : Unfinished line) (hend : isTerminator terminator = true) (hrest : Rounds n rest (readings, left)) :
      Rounds (n + 1) (line ++ terminator :: rest) ((readLine line terminator).toList ++ readings, left)

/-- **The loop ends** on every buffer, after one round for each end of a line. -/
theorem rounds_drain (buffer : List UInt8) : Rounds (buffer.countP isTerminator) buffer (drain buffer) := by
  induction buffer using line_induction with
  | unfinished buffer hbuffer =>
    have hcount : buffer.countP isTerminator = 0 := List.countP_eq_zero.2 fun b hb => by simp [hbuffer b hb]
    rw [hcount, drain_of_unfinished hbuffer]
    exact .done hbuffer
  | line line terminator rest hline hend ih =>
    have hcount : (line ++ terminator :: rest).countP isTerminator = rest.countP isTerminator + 1 := by
      have hnone : line.countP isTerminator = 0 := List.countP_eq_zero.2 fun b hb => by simp [hline b hb]
      rw [List.countP_append, hnone, List.countP_cons_of_pos hend, Nat.zero_add]
    rw [hcount, drain_line hline hend]
    exact .round hline hend ih

end Reader

open Reader (wholeLines unended Rounds drain)

namespace Adapter

/-! ## Frames and refusals -/

/-- The frame that a line carries. -/
def carried? (line : List UInt8) : Option Frame :=
  match Line.decode line with
  | .ok frame? => frame?
  | .error _ => none

/-- The fault for which a line is refused. -/
def refused? (line : List UInt8) : Option Fault :=
  match Line.decode line with
  | .ok _ => none
  | .error fault => some fault

theorem filterMap_said (ls : List (List UInt8)) :
    (ls.filterMap Reader.said?).filterMap (·.frame?) = ls.filterMap carried? ∧
      (ls.filterMap Reader.said?).filterMap (·.fault?) = ls.filterMap refused? := by
  have hframe : ∀ line, (Reader.said? line).bind (·.frame?) = carried? line := by
    intro line
    rw [Reader.said?, carried?]
    rcases Line.decode line with fault | frame?
    · rfl
    · cases frame? <;> rfl
  have hfault : ∀ line, (Reader.said? line).bind (·.fault?) = refused? line := by
    intro line
    rw [Reader.said?, refused?]
    rcases Line.decode line with fault | frame?
    · rfl
    · cases frame? <;> rfl
  simp only [List.filterMap_filterMap, hframe, hfault, and_self]

/-- **Reading does not depend on the pieces.**  An adapter that listens with an empty buffer, and whose handler never
fails, takes in pieces of any sizes like the whole stream.  It decodes the lines of the stream in their order: the
frames that its bank accepts are handed on one by one and not as loopback, the lines that are no frames are refused, and
what follows the last end stays in the buffer.  The loop over a buffer ends, whatever is in it. -/
theorem receiveAll_lines {Port : Type} {adapter : Adapter Port} (h : adapter.Listening [])
    (pieces : List (List UInt8)) :
    let stream := pieces.flatten
    let accepted := (((wholeLines stream).filterMap carried?).map (·.tagged false)).filter adapter.receiver.bank.accepts
    adapter.receiveAll pieces = adapter.receive stream ∧
      (adapter.receiveAll pieces).deliveries = accepted.map (fun frame => ⟨[frame], true⟩) ∧
      (adapter.receiveAll pieces).adapter.receiver.collected = adapter.receiver.collected ++ accepted ∧
      (adapter.receiveAll pieces).refusals = (wholeLines stream).filterMap refused? ∧
      (adapter.receiveAll pieces).adapter.reader = some (unended stream) ∧
      ∀ buffer, Rounds (buffer.countP Reader.isTerminator) buffer (drain buffer) := by
  intro stream accepted
  have hall : adapter.receiveAll pieces = adapter.receive stream := receiveAll_eq h pieces
  have hdrain : drain ([] ++ stream) = ((wholeLines stream).filterMap Reader.said?, unended stream) :=
    Reader.drain_eq stream
  have hreceive := receive_eq h stream
  rw [hdrain] at hreceive
  obtain ⟨hframes, hfaults⟩ := filterMap_said (wholeLines stream)
  have harrivals : arrivals ((wholeLines stream).filterMap Reader.said?) =
      ((wholeLines stream).filterMap carried?).map (·.tagged false) := by rw [arrivals, hframes]
  refine ⟨hall, ?_, ?_, ?_, ?_, Reader.rounds_drain⟩
  · rw [hall, hreceive]
    show adapter.receiver.singles _ = _
    rw [harrivals]
    rfl
  · rw [hall, hreceive]
    show (adapter.receiver.afterCalls (adapter.receiver.singles _)).collected = _
    rw [Receiver.collected_singles, harrivals]
  · rw [hall, hreceive]
    exact hfaults
  · rw [hall, hreceive]
    rfl

/-- A stream in four pieces: a line cut in two, one that a bell discards, an empty one, one that is refused, one of a
format that is not listened for, and the beginning of another. -/
def noisyPieces : List (List UInt8) :=
  [ascii ['t', '1', '2', '3', '2', 'D', 'E'], [],
    ascii ['A', 'D'] ++ [carriageReturn] ++ ascii ['t', '0'] ++ [bell, carriageReturn] ++ ascii ['x'],
    [carriageReturn] ++ ascii ['T', '0', '0', '0', '0', '0', '0', '0', '1', '0'] ++ [carriageReturn] ++ ascii ['t']]

/-- `receiveAll_lines` on this stream. -/
theorem receiveAll_lines_noisy :
    baseListener.Listening [] ∧
      let reception := baseListener.receiveAll noisyPieces
      reception = baseListener.receive noisyPieces.flatten ∧
        reception.deliveries = [⟨[baseFrame.tagged false], true⟩] ∧
        reception.refusals = [.invalidFrame .lineUnknownHeader] ∧ reception.adapter.reader = some (ascii ['t']) := by
  obtain ⟨hwhole, hdeliveries, -, hrefusals, hreader, -⟩ := receiveAll_lines listening_baseListener noisyPieces
  refine ⟨listening_baseListener, hwhole, hdeliveries.trans ?_, hrefusals.trans ?_, hreader.trans ?_⟩
  · decide
  · decide
  · decide

end Adapter

end CanBus.Slcan
