import CanBus.Proofs.Slcan.Effect
import CanBus.Proofs.Slcan.Port
import CanBus.Proofs.Slcan.Stream
import Mathlib.Data.List.Forall2

/-!
# Transcripts — what an adapter writes, and what is read of it

An adapter writes utterances: commands and the lines of frames.  Of an utterance that is refused or late a part may have
got out (`Piece`).  All that a session gets out are the pieces of its events (`session_puts`), and a reader makes one
reading of each line that these come to (`drain_pieces`), which are the utterances if none of them is torn
(`joined_of_untorn`).
-/

namespace CanBus.Slcan

open Reader (Reading Unfinished unfinished_of_all drain drain_line drain_of_unfinished readLine)
open SerialPort (Documented Steady written writeAll)

/-- What an adapter writes at one time: a command or a frame. -/
inductive Utterance where
  | closing
  | speed (bitrate : Bitrate)
  | opening
  | frame (frame : Frame)
  deriving DecidableEq

namespace Utterance

/-- The bytes of an utterance, without their end. -/
def body : Utterance → List UInt8
  | .closing => ascii ['C']
  | .speed bitrate => ascii ['S', bitrate.code]
  | .opening => ascii ['O']
  | .frame sent => ascii (Line.body sent)

/-- The bytes of an utterance. -/
def line (utterance : Utterance) : List UInt8 := utterance.body ++ [carriageReturn]

def frame? : Utterance → Option Frame
  | .frame sent => some sent
  | _ => none

/-- A frame that is uttered has a payload that a line can carry. -/
def Fits (utterance : Utterance) : Prop := ∀ frame, utterance.frame? = some frame → frame.payload.length ≤ maxPayload

/-- What a reader makes of an utterance. -/
def reading : Utterance → Reading
  | .frame sent => .frame (sent.tagged false)
  | _ => .refused (.invalidFrame .lineUnknownHeader)

theorem line_ne_nil (utterance : Utterance) : utterance.line ≠ [] := by simp [line]

/-! ## Reading utterances -/

theorem unfinished_body {utterance : Utterance} (h : utterance.Fits) : Unfinished utterance.body := by
  cases utterance with
  | closing => exact unfinished_of_all (by decide)
  | opening => exact unfinished_of_all (by decide)
  | speed bitrate => exact unfinished_of_all (by cases bitrate <;> decide)
  | frame sent => exact fun b hb => Line.body_not_terminator (h sent rfl) hb

theorem readLine_body {utterance : Utterance} (h : utterance.Fits) :
    readLine utterance.body carriageReturn = some utterance.reading := by
  cases utterance with
  | closing => decide
  | opening => decide
  | speed bitrate => cases bitrate <;> decide
  | frame sent =>
    have hne : ¬ (carriageReturn = bell ∨ ascii (Line.body sent) = []) := by
      rintro (hbell | hnil)
      · exact absurd hbell (by decide)
      · cases hnil
    have hdecode := Line.decode_body sent (h sent rfl) []
    rw [List.append_nil] at hdecode
    show readLine (ascii (Line.body sent)) carriageReturn = _
    rw [readLine, if_neg hne, hdecode]
    rfl

theorem arrivals_reading (utterances : List Utterance) :
    arrivals (utterances.map reading) = (utterances.filterMap frame?).map (·.tagged false) := by
  induction utterances with
  | nil => rfl
  | cons u us ih =>
    have hsplit : arrivals ((u :: us).map reading) = arrivals [u.reading] ++ arrivals (us.map reading) := by
      rw [← arrivals_append]
      rfl
    rw [hsplit, ih]
    cases u <;> rfl

/-- A line that is refused is that of a command. -/
theorem fault_of_reading {utterances : List Utterance} {fault : Fault}
    (h : fault ∈ (utterances.map reading).filterMap (·.fault?)) : fault = .invalidFrame .lineUnknownHeader := by
  obtain ⟨reading, hreading, hfault⟩ := List.mem_filterMap.1 h
  obtain ⟨u, -, rfl⟩ := List.mem_map.1 hreading
  cases u <;> cases hfault <;> rfl

end Utterance

theorem encode_eq {frame : Frame} (h : frame.payload.length ≤ maxPayload) :
    Line.encode frame = .ok (Utterance.frame frame).line := Line.encode_eq_ok_iff.2 ⟨h, rfl⟩

/-! ## Pieces -/

/-- What has got out of an utterance. -/
structure Piece where
  utterance : Utterance
  taken : List UInt8
  deriving DecidableEq

namespace Piece

/-- All of an utterance. -/
def whole (utterance : Utterance) : Piece := ⟨utterance, utterance.line⟩

/-- Nothing of the utterance is missing. -/
def IsWhole (piece : Piece) : Prop := piece.taken = piece.utterance.line

instance (piece : Piece) : Decidable piece.IsWhole := inferInstanceAs (Decidable (_ = _))

/-- Some of the utterance has got out, and some has not. -/
def IsTorn (piece : Piece) : Prop := piece.taken ≠ [] ∧ ¬ piece.IsWhole

/-- The frame of which the whole line has got out. -/
def frame? (piece : Piece) : Option Frame := if piece.IsWhole then piece.utterance.frame? else none

/-- What has got out is a part at the front. -/
structure Sound (piece : Piece) : Prop where
  isPrefix : piece.taken <+: piece.utterance.line
  fits : piece.utterance.Fits

variable {piece : Piece} {utterance : Utterance} {frames : List Frame}

/-- A piece that is not torn is whole, or nothing has got out. -/
theorem whole_or_nil (h : ¬ piece.IsTorn) : piece.IsWhole ∨ piece.taken = [] := by
  by_cases hwhole : piece.IsWhole
  · exact .inl hwhole
  · exact .inr (Decidable.not_not.1 fun hne => h ⟨hne, hwhole⟩)

theorem sound_whole (h : utterance.Fits) : (whole utterance).Sound := ⟨List.prefix_rfl, h⟩

@[simp] theorem frame?_whole (utterance : Utterance) : (whole utterance).frame? = utterance.frame? := if_pos rfl

theorem frame?_eq_none (h : piece.utterance.frame? = none) : piece.frame? = none := by rw [frame?, h, ite_self]

/-- The lines of frames, all got out. -/
def ofFrames (frames : List Frame) : List Piece := frames.map fun frame => whole (.frame frame)

/-- The lines of frames, and what has got out of one more. -/
def brokenOff (frames : List Frame) (frame : Frame) (taken : List UInt8) : List Piece :=
  ofFrames frames ++ [⟨.frame frame, taken⟩]

theorem isWhole_ofFrames (h : piece ∈ ofFrames frames) : piece.IsWhole := by
  obtain ⟨frame, -, rfl⟩ := List.mem_map.1 h
  rfl

theorem filterMap_ofFrames (frames : List Frame) : (ofFrames frames).filterMap frame? = frames := by
  have hsome : frame? ∘ (fun frame => whole (.frame frame)) = some := by
    funext frame
    exact frame?_whole (.frame frame)
  rw [ofFrames, List.filterMap_map, hsome, List.filterMap_some]

theorem filterMap_brokenOff {frame : Frame} {taken : List UInt8} (hmissing : taken ≠ (Utterance.frame frame).line) :
    (brokenOff frames frame taken).filterMap frame? = frames := by
  have hnone : (⟨.frame frame, taken⟩ : Piece).frame? = none := if_neg hmissing
  rw [brokenOff, List.filterMap_append, filterMap_ofFrames, List.filterMap_cons, hnone, List.filterMap_nil,
    List.append_nil]

theorem flatMap_brokenOff (frames : List Frame) (frame : Frame) (taken : List UInt8) :
    (brokenOff frames frame taken).flatMap (·.taken) = (ofFrames frames).flatMap (·.taken) ++ taken := by
  rw [brokenOff, List.flatMap_append, List.flatMap_singleton]

theorem sound_ofFrames (h : ∀ frame ∈ frames, frame.payload.length ≤ maxPayload) :
    ∀ piece ∈ ofFrames frames, piece.Sound := by
  intro piece hpiece
  obtain ⟨frame, hframe, rfl⟩ := List.mem_map.1 hpiece
  refine sound_whole fun sent hsent => ?_
  cases hsent
  exact h frame hframe

theorem sound_brokenOff (h : ∀ frame ∈ frames, frame.payload.length ≤ maxPayload) {frame : Frame} {taken : List UInt8}
    (hframe : frame.payload.length ≤ maxPayload) (htaken : taken <+: (Utterance.frame frame).line) :
    ∀ piece ∈ brokenOff frames frame taken, piece.Sound := by
  refine List.forall_mem_append.2 ⟨sound_ofFrames h, fun piece hpiece => ?_⟩
  rw [List.mem_singleton.1 hpiece]
  refine ⟨htaken, fun sent hsent => ?_⟩
  cases hsent
  exact hframe

/-- No line ends within what has got out of an utterance whose end is missing. -/
theorem Sound.unfinished (h : piece.Sound) (hmissing : ¬ piece.IsWhole) : Unfinished piece.taken := by
  rcases List.prefix_concat_iff.1 h.isPrefix with hwhole | hbody
  · exact absurd hwhole hmissing
  · exact fun b hb => Utterance.unfinished_body h.fits b (hbody.subset hb)

end Piece

/-! ## Reading pieces -/

/-- The lines that pieces come to behind an unfinished one, and what is left over.  What has got out of a torn utterance
runs into the next one. -/
def joined (pending : List UInt8) : List Piece → List (List UInt8) × List UInt8
  | [] => ([], pending)
  | piece :: rest =>
    if piece.IsWhole then ((pending ++ piece.utterance.body) :: (joined [] rest).1, (joined [] rest).2)
    else joined (pending ++ piece.taken) rest

/-- **What is read of pieces.**  There is one reading at most of each line that they come to. -/
theorem drain_pieces {pieces : List Piece} (h : ∀ piece ∈ pieces, piece.Sound) {pending : List UInt8}
    (hpending : Unfinished pending) :
    drain (pending ++ pieces.flatMap (·.taken)) =
      ((joined pending pieces).1.filterMap (readLine · carriageReturn), (joined pending pieces).2) := by
  have happend : ∀ {front back : List UInt8}, Unfinished front → Unfinished back → Unfinished (front ++ back) :=
    fun hfront hback b hb => (List.mem_append.1 hb).elim (hfront b) (hback b)
  induction pieces generalizing pending with
  | nil =>
    rw [List.flatMap_nil, List.append_nil, drain_of_unfinished hpending]
    rfl
  | cons piece rest ih =>
    obtain ⟨hpiece, hrest⟩ := List.forall_mem_cons.1 h
    rw [joined, List.flatMap_cons]
    by_cases hwhole : piece.IsWhole
    · have hlater := ih hrest Reader.unfinished_nil
      have hsplit : pending ++ (piece.taken ++ rest.flatMap (·.taken)) =
          (pending ++ piece.utterance.body) ++ carriageReturn :: rest.flatMap (·.taken) := by
        rw [hwhole, Utterance.line]
        simp
      have hbody := happend hpending (Utterance.unfinished_body hpiece.fits)
      rw [List.nil_append] at hlater
      rw [if_pos hwhole, hsplit, drain_line hbody (by decide), hlater, List.filterMap_cons]
      cases readLine (pending ++ piece.utterance.body) carriageReturn <;> rfl
    · rw [if_neg hwhole, ← List.append_assoc]
      exact ih hrest (happend hpending (hpiece.unfinished hwhole))

/-- If no piece is torn, the lines are those of the utterances that have got out, and nothing is left over. -/
theorem joined_of_untorn {pieces : List Piece} (h : ∀ piece ∈ pieces, ¬ piece.IsTorn) :
    joined [] pieces = ((pieces.filter (·.IsWhole)).map (·.utterance.body), []) := by
  induction pieces with
  | nil => rfl
  | cons piece rest ih =>
    obtain ⟨hpiece, hrest⟩ := List.forall_mem_cons.1 h
    rw [joined, List.filter_cons]
    by_cases hwhole : piece.IsWhole
    · rw [if_pos hwhole, ih hrest, if_pos (by simpa using hwhole)]
      rfl
    · have hnil : piece.taken = [] := (piece.whole_or_nil hpiece).resolve_left hwhole
      rw [if_neg hwhole, if_neg (by simpa using hwhole), hnil, List.append_nil, ih hrest]

/-- Then the utterances are read one by one. -/
theorem drain_of_untorn {pieces : List Piece} (hsound : ∀ piece ∈ pieces, piece.Sound)
    (h : ∀ piece ∈ pieces, ¬ piece.IsTorn) :
    drain (pieces.flatMap (·.taken)) = (((pieces.filter (·.IsWhole)).map (·.utterance)).map (·.reading), []) := by
  have hdrain := drain_pieces hsound Reader.unfinished_nil
  rw [List.nil_append, joined_of_untorn h] at hdrain
  dsimp only at hdrain
  rw [hdrain, List.filterMap_map, List.map_map, ← List.filterMap_eq_map, Prod.mk.injEq]
  refine ⟨List.filterMap_congr fun piece hpiece => ?_, rfl⟩
  exact Utterance.readLine_body (hsound piece (List.mem_of_mem_filter hpiece)).fits

/-- The frames of which the whole line has got out. -/
theorem filterMap_frame? (pieces : List Piece) :
    ((pieces.filter (·.IsWhole)).map (·.utterance)).filterMap (·.frame?) = pieces.filterMap (·.frame?) := by
  rw [List.filterMap_map, List.filterMap_filter]
  refine List.filterMap_congr fun piece _ => ?_
  rw [Piece.frame?]
  by_cases hwhole : piece.IsWhole <;> simp [hwhole]

namespace Adapter

variable {Port : Type} {adapter : Adapter Port}

/-! ## What an event puts on the line -/

/-- What a transmission with this reply and these calls has got out: the lines of the `k` first frames of the batch if
it reports `k`, and nothing if the adapter refuses it; those up to the frame at which the handler failed; and a part of
one more line if that was late or refused by the port.  Each frame that got out as a whole, asks to be handed back and
passes the bank is a call of its own. -/
inductive Sends (receiver : Receiver) (batch : List Frame) (inTime : Nat) :
    Reply → List Delivery → List Piece → Prop where
  | declined {fault : Fault} (hown : fault.isReported = false) :
      Sends receiver batch inTime (.refused fault) [] []
  | sent {k : Nat} (hk : k = min inTime batch.length) :
      Sends receiver batch inTime (.sent k) (receiver.singles (Batch.echoed (batch.take k)))
        (Piece.ofFrames (batch.take k))
  | late {front back : List Frame} {frame : Frame} {taken : List UInt8} (hbatch : batch = front ++ frame :: back)
      (htime : front.length < inTime) (hmissing : taken ≠ (Utterance.frame frame).line) :
      Sends receiver batch inTime (.sent front.length) (receiver.singles (Batch.echoed front))
        (Piece.brokenOff front frame taken)
  | refused {front back : List Frame} {frame : Frame} {taken : List UInt8} {fault : Fault}
      (hbatch : batch = front ++ frame :: back) (htime : front.length < inTime)
      (hmissing : taken ≠ (Utterance.frame frame).line) (hreported : fault.isReported = true) :
      Sends receiver batch inTime (.refused fault) (receiver.singles (Batch.echoed front))
        (Piece.brokenOff front frame taken)
  | failed {front back : List Frame} {frame : Frame} (hbatch : batch = front ++ frame :: back)
      (htime : front.length < inTime) (hasked : frame.loopback = true)
      (haccepts : receiver.bank.accepts (frame.tagged true) = true) :
      Sends receiver batch inTime .handlerFailed
        (receiver.singles (Batch.echoed front) ++ [⟨[frame.tagged true], false⟩]) (Piece.ofFrames (front ++ [frame]))

/-- What is handed back of what a transmission has sent. -/
theorem Sends.handed_back {receiver : Receiver} {batch : List Frame} {inTime : Nat} {reply : Reply}
    {deliveries : List Delivery} {share : List Piece} (h : Sends receiver batch inTime reply deliveries share) :
    deliveries.flatMap (·.batch) = (Batch.echoed (share.filterMap (·.frame?))).filter receiver.bank.accepts := by
  cases h with
  | declined hown => rfl
  | sent hk => rw [Piece.filterMap_ofFrames, receiver.flatMap_singles]
  | late hbatch htime hmissing => rw [Piece.filterMap_brokenOff hmissing, receiver.flatMap_singles]
  | refused hbatch htime hmissing hreported => rw [Piece.filterMap_brokenOff hmissing, receiver.flatMap_singles]
  | @failed front back frame hbatch htime hasked haccepts =>
    rw [Piece.filterMap_ofFrames, List.flatMap_append, receiver.flatMap_singles, Batch.echoed_append,
      List.filter_append, Batch.echoed_singleton, if_pos hasked]
    simp [haccepts]

/-- What has got out of the utterances of an event: the opening command if a start succeeds and a part of it at most if
one fails, the lines of a transmission, and the closing command or a part of it if a started adapter is closed. -/
def Passage.Utters (passage : Passage Port) (share : List Piece) : Prop :=
  match passage.event with
  | .request (.start _ _) =>
    if passage.opens then share = [.whole .opening]
    else share = [] ∨ passage.before.phase = .created ∧ ∃ taken, taken ≠ openCommand ∧ share = [⟨.opening, taken⟩]
  | .request (.send batch inTime) =>
    Sends passage.before.receiver batch inTime passage.reaction.reply passage.reaction.deliveries share ∧
      passage.reaction.deliveries.flatMap (·.batch) =
        (Batch.echoed (share.filterMap (·.frame?))).filter passage.before.receiver.bank.accepts ∧
      (share ≠ [] → passage.before.phase = .started)
  | .request .close =>
    if passage.before.phase = .started then ∃ taken, share = [⟨.closing, taken⟩] else share = []
  | _ => share = []

/-- The pieces that an event puts on the line. -/
structure Passage.Puts [SerialPort Port] (passage : Passage Port) (share : List Piece) : Prop where
  utters : passage.Utters share
  sound : ∀ piece ∈ share, piece.Sound
  written_eq : written passage.reaction.adapter.line = written passage.before.line ++ share.flatMap (·.taken)

section Puts

variable [SerialPort Port] [Documented Port]

/-- The lines of frames that a port has taken. -/
theorem written_takes {port last : Port} {frames : List Frame} (h : Takes (wire Port).write port frames last) :
    written last = written port ++ (Piece.ofFrames frames).flatMap (·.taken) := by
  rw [Piece.ofFrames, List.flatMap_map]
  refine h.output fun {line line' frame} hwrite => ?_
  have hwrote := wrote_write line frame
  rw [hwrite] at hwrote
  cases hwrote with
  | whole hline hwritten =>
    obtain ⟨hfit, rfl⟩ := Line.encode_eq_ok_iff.1 hline
    exact hwritten

/-- A course over a port puts out the pieces of a transmission. -/
theorem sends_of_course {port : Port} {receiver : Receiver} (hhandler : receiver.handler.isSome = true)
    {batch : List Frame} (hfit : ∀ frame ∈ batch, frame.payload.length ≤ maxPayload) {inTime : Nat}
    {sending : Sending Port} (h : Course (wire Port).write port receiver inTime 0 batch sending) :
    ∃ share, Sends receiver batch inTime (.ofOutcome sending.outcome) sending.deliveries share ∧
      (∀ piece ∈ share, piece.Sound) ∧ written sending.line = written port ++ share.flatMap (·.taken) := by
  have hechoes := receiver.echoes_of_isSome hhandler
  -- a frame that is late or refused leaves a part of its line behind those that were taken
  have hpart : ∀ {front back : List Frame} {frame : Frame} {line taken : List UInt8} {mid last : Port},
      batch = front ++ frame :: back → Takes (wire Port).write port front mid → Line.encode frame = .ok line →
        taken <+: line → written last = written mid ++ taken →
          (∀ piece ∈ Piece.brokenOff front frame taken, piece.Sound) ∧
            written last = written port ++ (Piece.brokenOff front frame taken).flatMap (·.taken) := by
    intro front back frame line taken mid last hbatch htakes hline htaken hwritten
    have hframe : frame.payload.length ≤ maxPayload := hfit frame (by simp [hbatch])
    obtain rfl := Except.ok.inj (hline.symm.trans (encode_eq hframe))
    refine ⟨Piece.sound_brokenOff (fun f hf => hfit f (by simp [hbatch, hf])) hframe htaken, ?_⟩
    rw [hwritten, written_takes htakes, Piece.flatMap_brokenOff, List.append_assoc]
  cases h with
  | @done last htakes =>
    have hmin : batch.take (min inTime batch.length) = batch.take inTime := by
      rw [List.take_eq_take_iff]
      omega
    have hsends : Sends receiver batch inTime (.sent (min inTime batch.length)) _ _ := .sent rfl
    rw [hmin, ← hechoes] at hsends
    refine ⟨Piece.ofFrames (batch.take inTime), ?_, ?_, written_takes htakes⟩
    · rw [Nat.zero_add]
      exact hsends
    · exact Piece.sound_ofFrames fun f hf => hfit f (List.mem_of_mem_take hf)
  | @late front back frame mid last hbatch htime htakes hwrite =>
    have hwrote := wrote_write mid frame
    rw [hwrite] at hwrote
    cases hwrote with
    | late hline htaken hmissing hwritten =>
      have hline' := Except.ok.inj (hline.symm.trans (encode_eq (hfit frame (by simp [hbatch]))))
      obtain ⟨hsound, hout⟩ := hpart hbatch htakes hline htaken hwritten
      refine ⟨_, ?_, hsound, hout⟩
      rw [hechoes, Nat.zero_add]
      exact .late hbatch htime (hline' ▸ hmissing)
  | @refused front back frame mid last fault hbatch htime htakes hwrite =>
    have hwrote := wrote_write mid frame
    rw [hwrite] at hwrote
    have hline' := encode_eq (hfit frame (by simp [hbatch]))
    cases hwrote with
    | declined hline => cases hline.symm.trans hline'
    | refused hline htaken hmissing hwritten hreported =>
      obtain ⟨hsound, hout⟩ := hpart hbatch htakes hline htaken hwritten
      refine ⟨_, ?_, hsound, hout⟩
      rw [hechoes]
      exact .refused hbatch htime (Except.ok.inj (hline.symm.trans hline') ▸ hmissing) hreported
  | @failed front back frame last handler hbatch htime htakes hasked haccepts =>
    refine ⟨Piece.ofFrames (front ++ [frame]), ?_, ?_, written_takes htakes⟩
    · rw [hechoes]
      exact .failed hbatch htime hasked haccepts
    · refine Piece.sound_ofFrames fun f hf => hfit f ?_
      rw [hbatch, List.append_cons front frame back]
      exact List.mem_append_left _ hf

/-- **One event** puts its pieces on the line. -/
theorem react_puts (h : adapter.Attended) (event : Event) :
    ∃ share, Passage.Puts ⟨adapter, event, adapter.react event⟩ share := by
  have hnothing : ∀ {reaction : Reaction Port}, Passage.Utters ⟨adapter, event, reaction⟩ [] →
      written reaction.adapter.line = written adapter.line →
      ∃ share, Passage.Puts ⟨adapter, event, reaction⟩ share := by
    intro reaction hutters hwritten
    exact ⟨[], hutters, by simp, hwritten.trans (List.append_nil _).symm⟩
  -- a command leaves one piece
  have hcommand : ∀ {reaction : Reaction Port} (u : Utterance) {taken : List UInt8}, u.frame? = none →
      Passage.Utters ⟨adapter, event, reaction⟩ [⟨u, taken⟩] → taken <+: u.line →
        written reaction.adapter.line = written adapter.line ++ taken →
          ∃ share, Passage.Puts ⟨adapter, event, reaction⟩ share := by
    intro reaction u taken hframe hutters htaken hwritten
    refine ⟨[⟨u, taken⟩], hutters, ?_, hwritten.trans (by simp)⟩
    intro piece hpiece
    rw [List.mem_singleton.1 hpiece]
    exact ⟨htaken, fun sent hsent => nomatch hframe.symm.trans hsent⟩
  have heffect := react_effect adapter event
  generalize adapter.react event = reaction at heffect ⊢
  cases heffect with
  | @declined request fault hdeclined =>
    refine hnothing ?_ rfl
    cases hdeclined with
    | start hphase noRetransmit failsAt => exact .inl rfl
    | configure hphase filters => exact rfl
    | filters hphase hreceiver => exact rfl
    | send hphase frames inTime => exact ⟨.declined rfl, rfl, fun h => absurd rfl h⟩
    | batch hphase hcheck inTime =>
      obtain ⟨breach, rfl⟩ := Batch.check_eq_error hcheck
      exact ⟨.declined rfl, rfl, fun h => absurd rfl h⟩
    | close hphase =>
      have hne : adapter.phase ≠ .started := by rw [hphase]; nofun
      rw [Passage.Utters, if_neg hne]
  | @start hphase line hopening noRetransmit failsAt =>
    obtain ⟨taken, htaken, hwritten, hdone⟩ := written_opening adapter.line
    rw [hopening] at hwritten hdone
    obtain rfl := hdone.1 rfl
    exact hcommand .opening rfl rfl htaken hwritten
  | @startFailed hphase line fault hopening noRetransmit failsAt =>
    obtain ⟨taken, htaken, hwritten, hdone⟩ := written_opening adapter.line
    rw [hopening] at hwritten hdone
    have hmissing : taken ≠ openCommand := fun h => nomatch hdone.2 h
    exact hcommand .opening rfl (.inr ⟨hphase, taken, hmissing, rfl⟩) htaken hwritten
  | configure hphase hreceiver => exact hnothing rfl rfl
  | @send batch hphase hcheck inTime sending hcourse =>
    have hfit := (Batch.check_eq_ok_iff.1 hcheck).2.2.1
    obtain ⟨share, hsends, hsound, hwritten⟩ := sends_of_course (h.handler_iff.2 hphase) hfit hcourse
    exact ⟨share, ⟨hsends, hsends.handed_back, fun _ => hphase⟩, hsound, hwritten⟩
  | close hphase =>
    by_cases hstarted : adapter.phase = .started
    · obtain ⟨taken, htaken, hwritten, -⟩ := Documented.writeAll_spec adapter.line closeCommand
      rw [if_pos hstarted]
      refine hcommand .closing rfl ?_ htaken hwritten
      rw [Passage.Utters, if_pos hstarted]
      exact ⟨taken, rfl⟩
    · rw [if_neg hstarted]
      exact hnothing (by rw [Passage.Utters, if_neg hstarted]) rfl
  | arrive bytes => exact hnothing rfl (congrArg written (adapter.receive_keeps bytes).1)
  | hangUp => exact hnothing rfl (Documented.written_hangUp adapter.line)

/-- **All that a session gets out** are the pieces of its events, one after the other. -/
theorem session_puts (h : adapter.Attended) (events : List Event) :
    ∃ shares : List (List Piece), List.Forall₂ Passage.Puts (adapter.session events) shares ∧
      (∀ piece ∈ shares.flatten, piece.Sound) ∧
        written (adapter.after events).line = written adapter.line ++ shares.flatten.flatMap (·.taken) := by
  induction events generalizing adapter with
  | nil => exact ⟨[], .nil, by simp, (List.append_nil _).symm⟩
  | cons event events ih =>
    obtain ⟨share, hputs⟩ := react_puts h event
    obtain ⟨shares, hall, hsound, hwritten⟩ := ih (h.effect (react_effect adapter event))
    refine ⟨share :: shares, .cons hputs hall, ?_, ?_⟩
    · rw [List.flatten_cons]
      exact List.forall_mem_append.2 ⟨hputs.sound, hsound⟩
    · rw [after_cons, hwritten, hputs.written_eq, List.flatten_cons, List.flatMap_append, List.append_assoc]

end Puts

end Adapter

end CanBus.Slcan
