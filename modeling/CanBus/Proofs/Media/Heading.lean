import CanBus.Proofs.Media.Lines
import CanBus.Proofs.Slcan.Grammar

/-!
# Headings — the identifier of a batch on the wire

On the wire the format of a frame is part of its identifier: the heading of an SLCAN line and the identifier word of a
kernel frame name both (`heading_eq_iff`, `idWord_ofFitting_eq_iff`).  A batch has one identifier as a number, so what
an adapter writes of it has one heading, or one identifier word, just as far as its frames have one format
(`one_identifier`).
-/

namespace CanBus

/-- Two frames of a batch have the same number for their identifier, whatever their formats are. -/
theorem Batch.id_eq {frames : List Frame} {mtu : Nat} (h : Batch.check frames mtu = .ok ()) {frame other : Frame}
    (hframe : frame ∈ frames) (hother : other ∈ frames) : frame.id = other.id :=
  (Batch.check_eq_ok_iff.1 h).2.2.2 frame hframe other hother

/-! ## Lines -/

namespace Slcan

namespace Line

/-- The part of a frame's line that names its identifier: the letter of the format, and the digits. -/
def heading (frame : Frame) : List UInt8 :=
  ascii (letter frame.format :: Hex.upper frame.format.digits frame.id.toNat)

/-- The part of a frame's line that follows its heading. -/
def trailing (frame : Frame) : List UInt8 :=
  ascii (Char.ofNat (48 + frame.payload.length) :: Hex.bytes frame.payload) ++ [carriageReturn]

theorem encode_eq_heading {frame : Frame} {line : List UInt8} (h : encode frame = .ok line) :
    line = heading frame ++ trailing frame := by
  obtain ⟨-, rfl⟩ := encode_eq_ok_iff.1 h
  rw [body, ascii_append, List.append_assoc]
  rfl

/-- The digits of an identifier are read as the identifier again. -/
theorem read_digits (frame : Frame) :
    number (ascii (Hex.upper frame.format.digits frame.id.toNat)) = .ok frame.id.toNat :=
  number_upper frame.format.one_le_digits frame.id_lt frame.id.isLt

/-- **A heading** names format and number. -/
theorem heading_eq_iff {frame other : Frame} :
    heading frame = heading other ↔ frame.format = other.format ∧ frame.id = other.id := by
  constructor
  · intro h
    have hsplit : ascii [letter frame.format] ++ ascii (Hex.upper frame.format.digits frame.id.toNat) =
        ascii [letter other.format] ++ ascii (Hex.upper other.format.digits other.id.toNat) := h
    obtain ⟨hformat, hdigits⟩ := letter_injective hsplit
    have hread := read_digits frame
    rw [hdigits, read_digits other] at hread
    exact ⟨hformat, BitVec.eq_of_toNat_eq (Except.ok.inj hread).symm⟩
  · rintro ⟨hformat, hid⟩
    rw [heading, heading, hformat, hid]

end Line

open SerialPort (Documented written)

/-- The heading and the rest of a frame's line. -/
def Line.parts (frame : Frame) : List UInt8 := heading frame ++ trailing frame

variable {Port : Type} [SerialPort Port]

/-- Lines that a port takes are behind what was written. -/
theorem written_parts [Documented Port] {port last : Port} {frames : List Frame}
    (h : Takes (wire Port).write port frames last) : written last = written port ++ frames.flatMap Line.parts := by
  refine h.output fun {port port' frame} hwrite => ?_
  have hwrote := wrote_write port frame
  rw [hwrite] at hwrote
  cases hwrote with
  | whole hline hwritten =>
    rw [hwritten, Line.encode_eq_heading hline]
    rfl

/-- Of a frame that is late or refused a part of the line at most is there. -/
theorem written_torn [Documented Port] {port last : Port} {frame : Frame}
    (h : (wire Port).write port frame = .late last ∨ ∃ fault, (wire Port).write port frame = .refused last fault) :
    ∃ torn, torn <+: Line.parts frame ∧ written last = written port ++ torn := by
  have hpart : ∀ {line taken : List UInt8}, Line.encode frame = .ok line → taken <+: line →
      taken <+: Line.parts frame := by
    intro line taken hline htaken
    rw [Line.encode_eq_heading hline] at htaken
    exact htaken
  have hwrote := wrote_write port frame
  rcases h with hlate | ⟨fault, hrefused⟩
  · rw [hlate] at hwrote
    cases hwrote with
    | late hline htaken hmissing hwritten => exact ⟨_, hpart hline htaken, hwritten⟩
  · rw [hrefused] at hwrote
    cases hwrote with
    | declined hline => exact ⟨[], List.nil_prefix, (List.append_nil _).symm⟩
    | refused hline htaken hmissing hwritten hreported => exact ⟨_, hpart hline htaken, hwritten⟩

namespace Adapter

/-- A transmission writes the lines of the first frames of its batch, and a part of the next one at most; none if it is
refused by the adapter. -/
theorem sendWithin_lines [Documented Port] (adapter : Adapter Port) (frames : List Frame) (inTime : Nat) :
    ∃ sent torn, sent <+: frames ∧ (sent ≠ [] → Batch.check frames maxPayload = .ok ()) ∧
      written (adapter.sendWithin frames inTime).adapter.line =
        written adapter.line ++ sent.flatMap Line.parts ++ torn ∧
      (torn = [] ∨ ∃ frame, sent ++ [frame] <+: frames ∧ torn <+: Line.parts frame) := by
  unfold sendWithin Wire.transmit
  cases htakes : takesOn adapter.phase frames (wire Port).maxPayload with
  | error fault => exact ⟨[], [], List.nil_prefix, fun h => absurd rfl h, by simp, .inl rfl⟩
  | ok _ =>
    have hcheck : Batch.check frames maxPayload = .ok () := (takesOn_eq_ok_iff.1 htakes).2
    obtain ⟨sent, mid, hsent, hmid, hend⟩ :=
      (sendEach_course (wire Port).write adapter.line adapter.receiver inTime 0 frames).taken
    have hwritten := written_parts hmid
    rcases hend with hsame | ⟨frame, hframe, hwrite⟩
    · refine ⟨sent, [], hsent, fun _ => hcheck, ?_, .inl rfl⟩
      rw [List.append_nil, ← hwritten, ← hsame]
    · obtain ⟨torn, htorn, hlast⟩ := written_torn hwrite
      exact ⟨sent, torn, hsent, fun _ => hcheck, hwritten ▸ hlast, .inr ⟨frame, hframe, htorn⟩⟩

/-- On a serial line on which no call fails any more there is no part of a line. -/
theorem sendWithin_whole {adapter : Adapter SerialLine} (h : adapter.line.ahead = []) (frames : List Frame)
    (inTime : Nat) :
    ∃ sent, sent <+: frames ∧ (sent ≠ [] → Batch.check frames maxPayload = .ok ()) ∧
      (adapter.sendWithin frames inTime).adapter.line.written = adapter.line.written ++ sent.flatMap Line.parts := by
  unfold sendWithin Wire.transmit
  cases htakes : takesOn adapter.phase frames (wire SerialLine).maxPayload with
  | error fault => exact ⟨[], List.nil_prefix, fun h => absurd rfl h, (List.append_nil _).symm⟩
  | ok _ =>
    have hcheck : Batch.check frames maxPayload = .ok () := (takesOn_eq_ok_iff.1 htakes).2
    obtain ⟨sent, hsent, hlast⟩ := SerialLine.takes_of_course h (Batch.check_eq_ok_iff.1 hcheck).2.2.1
      (sendEach_course (wire SerialLine).write adapter.line adapter.receiver inTime 0 frames)
    exact ⟨sent, hsent, fun _ => hcheck, written_parts hlast⟩

end Adapter

end Slcan

/-! ## Kernel frames -/

namespace SocketCan

/-- **An identifier word** names format and number. -/
theorem KernelFrame.idWord_ofFitting_eq_iff {frame other : Frame} :
    (ofFitting frame).idWord = (ofFitting other).idWord ↔ frame.format = other.format ∧ frame.id = other.id := by
  constructor
  · intro h
    obtain ⟨id, -, hid⟩ := documented.exists_idOf? frame
    obtain ⟨id', -, hid'⟩ := documented.exists_idOf? other
    have hwords : wordOf id = wordOf id' := by
      rw [ofFitting_of_names hid, ofFitting_of_names hid'] at h
      exact h
    -- an identifier is read back from its word
    have hread : library.id ⟨wordOf id, []⟩ = library.id ⟨wordOf id', []⟩ := congrArg (library.id ⟨·, []⟩) hwords
    obtain rfl : id = id' := (id_wordOf id []).symm.trans (hread.trans (id_wordOf id' []))
    cases id with
    | standard id => exact ⟨hid.1.trans hid'.1.symm, BitVec.eq_of_toNat_eq (hid.2.symm.trans hid'.2)⟩
    | extended id => exact ⟨hid.1.trans hid'.1.symm, BitVec.eq_of_toNat_eq (hid.2.symm.trans hid'.2)⟩
  · rintro ⟨hformat, hid⟩
    unfold ofFitting
    rw [hformat, hid]
    cases other.format <;> rfl

namespace Socket

theorem written_call (socket : Socket) : socket.call.1.written = socket.written := by
  unfold call
  split <;> rfl

/-- A call that fails has written nothing. -/
theorem written_put (socket : Socket) (kernel : KernelFrame) :
    (socket.put kernel).1.written = socket.written ++ if (socket.put kernel).2 = none then [kernel] else [] := by
  have hcall := socket.written_call
  unfold put
  by_cases hconnected : socket.connected = true
  · rw [if_pos hconnected]
    generalize socket.call = called at hcall ⊢
    obtain ⟨last, _ | failure⟩ := called
    · exact congrArg (· ++ [kernel]) hcall
    · exact hcall.trans (List.append_nil _).symm
  · rw [if_neg hconnected]
    exact (List.append_nil _).symm

/-- The frames that are on the socket after the writing of one more, all of it or nothing. -/
theorem written_write (socket : Socket) (frame : Frame) :
    match (wire KernelFrame.library limit put).write socket frame with
    | .whole last => last.written = socket.written ++ [KernelFrame.ofFitting frame]
    | .late last | .refused last _ => last.written = socket.written := by
  unfold Wire.write
  cases hencode : (wire KernelFrame.library limit put).encode frame with
  | error fault => rfl
  | ok kernel =>
    obtain ⟨-, rfl⟩ := KernelFrame.ofFrame_eq_ok_iff.1 hencode
    have hlimit : ((wire KernelFrame.library limit put).limit socket).1.written = socket.written := socket.written_call
    generalize (wire KernelFrame.library limit put).limit socket = limited at hlimit ⊢
    obtain ⟨mid, _ | fault⟩ := limited
    · have hput : ((wire KernelFrame.library limit put).put mid (KernelFrame.ofFitting frame)).1.written = _ :=
        mid.written_put (KernelFrame.ofFitting frame)
      have hsame : (wire KernelFrame.library limit put).put mid (KernelFrame.ofFitting frame) =
        mid.put (KernelFrame.ofFitting frame) := rfl
      dsimp only at hlimit ⊢
      rw [hlimit] at hput
      rw [hsame] at hput ⊢
      generalize mid.put (KernelFrame.ofFitting frame) = result at hput ⊢
      obtain ⟨last, _ | failure⟩ := result
      · exact hput
      · have hnothing : last.written = socket.written := hput.trans (List.append_nil _)
        dsimp only
        by_cases hlate : (wire KernelFrame.library limit put).isLate failure.kind = true
        · rw [if_pos hlate]
          exact hnothing
        · rw [if_neg hlate]
          exact hnothing
    · exact hlimit

end Socket

/-- A transmission writes the kernel frames of the first frames of its batch; none if it is refused. -/
theorem Adapter.sendWithin_kernels (adapter : Adapter) (frames : List Frame) (inTime : Nat) :
    ∃ sent, sent <+: frames ∧ (sent ≠ [] → Batch.check frames maxPayload = .ok ()) ∧
      (adapter.sendWithin frames inTime).adapter.socket.written =
        adapter.socket.written ++ sent.map KernelFrame.ofFitting := by
  unfold sendWithin Wire.transmit
  cases htakes : takesOn adapter.phase frames (wire KernelFrame.library Socket.limit Socket.put).maxPayload with
  | error fault => exact ⟨[], List.nil_prefix, fun h => absurd rfl h, (List.append_nil _).symm⟩
  | ok _ =>
    have hcheck : Batch.check frames maxPayload = .ok () := (takesOn_eq_ok_iff.1 htakes).2
    obtain ⟨sent, mid, hsent, hmid, hend⟩ :=
      (sendEach_course (wire KernelFrame.library Socket.limit Socket.put).write adapter.socket adapter.receiver inTime 0
        frames).taken
    have hwritten : mid.written =
        adapter.socket.written ++ sent.flatMap fun frame => [KernelFrame.ofFitting frame] := by
      refine hmid.output fun {socket last frame} hwrite => ?_
      have hwhole := socket.written_write frame
      rwa [hwrite] at hwhole
    rw [← List.map_eq_flatMap] at hwritten
    refine ⟨sent, hsent, fun _ => hcheck, Eq.trans ?_ hwritten⟩
    rcases hend with hsame | ⟨frame, -, hwrite⟩
    · exact congrArg (·.written) hsame
    · -- the frame behind the others has not got out
      have hnothing := mid.written_write frame
      rcases hwrite with hlate | ⟨fault, hrefused⟩
      · rwa [hlate] at hnothing
      · rwa [hrefused] at hnothing

end SocketCan

/-! ## The theorem -/

/-- **One transmission has one identifier as a number.**  All frames of a batch that keeps the rules have the same
identifier.  Whatever an adapter is sent, it writes the lines, or the kernel frames, of the first frames of the batch,
and a part of the next line at most, but no part on a serial line on which no call fails any more.  Two of the frames
have the same heading, or the same identifier word, if and only if their formats are the same. -/
theorem one_identifier (frames : List Frame) :
    (∀ mtu, Batch.check frames mtu = .ok () → ∀ frame ∈ frames, ∀ other ∈ frames, frame.id = other.id) ∧
      (∀ (Port : Type) [Slcan.SerialPort Port] [Slcan.SerialPort.Documented Port] (adapter : Slcan.Adapter Port)
        (inTime : Nat), ∃ sent torn, sent <+: frames ∧
          Slcan.SerialPort.written (adapter.sendWithin frames inTime).adapter.line =
            Slcan.SerialPort.written adapter.line ++ sent.flatMap Slcan.Line.parts ++ torn ∧
          (torn = [] ∨ ∃ frame, sent ++ [frame] <+: frames ∧ torn <+: Slcan.Line.parts frame) ∧
          ∀ frame ∈ sent, ∀ other ∈ sent,
            Slcan.Line.heading frame = Slcan.Line.heading other ↔ frame.format = other.format) ∧
      (∀ (adapter : Slcan.Adapter Slcan.SerialLine) (inTime : Nat), adapter.line.ahead = [] → ∃ sent, sent <+: frames ∧
        (adapter.sendWithin frames inTime).adapter.line.written =
          adapter.line.written ++ sent.flatMap Slcan.Line.parts ∧
        ∀ frame ∈ sent, ∀ other ∈ sent,
          Slcan.Line.heading frame = Slcan.Line.heading other ↔ frame.format = other.format) ∧
      ∀ (adapter : SocketCan.Adapter) (inTime : Nat), ∃ sent, sent <+: frames ∧
        (adapter.sendWithin frames inTime).adapter.socket.written =
          adapter.socket.written ++ sent.map SocketCan.KernelFrame.ofFitting ∧
        ∀ frame ∈ sent, ∀ other ∈ sent,
          (SocketCan.KernelFrame.ofFitting frame).idWord = (SocketCan.KernelFrame.ofFitting other).idWord ↔
            frame.format = other.format := by
  have hsame : ∀ {sent : List Frame} {mtu : Nat}, sent <+: frames →
      (sent ≠ [] → Batch.check frames mtu = .ok ()) → ∀ frame ∈ sent, ∀ other ∈ sent, frame.id = other.id := by
    intro sent mtu hsent hcheck frame hframe other hother
    exact Batch.id_eq (hcheck (List.ne_nil_of_mem hframe)) (hsent.subset hframe) (hsent.subset hother)
  refine ⟨fun mtu h frame hframe other hother => Batch.id_eq h hframe hother, fun Port _ _ adapter inTime => ?_,
    fun adapter inTime hahead => ?_, fun adapter inTime => ?_⟩
  · obtain ⟨sent, torn, hsent, hcheck, hwritten, htorn⟩ := adapter.sendWithin_lines frames inTime
    refine ⟨sent, torn, hsent, hwritten, htorn, fun frame hframe other hother => ?_⟩
    rw [Slcan.Line.heading_eq_iff]
    exact and_iff_left (hsame hsent hcheck frame hframe other hother)
  · obtain ⟨sent, hsent, hcheck, hwritten⟩ := Slcan.Adapter.sendWithin_whole hahead frames inTime
    refine ⟨sent, hsent, hwritten, fun frame hframe other hother => ?_⟩
    rw [Slcan.Line.heading_eq_iff]
    exact and_iff_left (hsame hsent hcheck frame hframe other hother)
  · obtain ⟨sent, hsent, hcheck, hwritten⟩ := adapter.sendWithin_kernels frames inTime
    refine ⟨sent, hsent, hwritten, fun frame hframe other hother => ?_⟩
    rw [SocketCan.KernelFrame.idWord_ofFitting_eq_iff]
    exact and_iff_left (hsame hsent hcheck frame hframe other hother)

/-- A base frame and an extended frame with the same number for their identifiers. -/
def twoFormats : List Frame :=
  [⟨0x2A5, [0x11], .base, false, by decide, by decide⟩, ⟨0x2A5, [0x22], .extended, false, by decide, by decide⟩]

theorem one_identifier_twoFormats : ∀ frame ∈ twoFormats, ∀ other ∈ twoFormats, frame.id = other.id :=
  (one_identifier twoFormats).1 8 (by decide)

/-- A batch of two formats keeps the rules, and it is sent under two identifiers. -/
theorem twoFormats_sent :
    Batch.check twoFormats 8 = .ok () ∧
      (¬ ∀ frame ∈ twoFormats, ∀ other ∈ twoFormats, frame.format = other.format) ∧
      (let adapter : Slcan.Adapter Slcan.SerialLine := ⟨.fresh, .ofSize 1, .started, true, some [], []⟩
       let sending := adapter.sendWithin twoFormats 2
       sending.outcome = .done 2 ∧ sending.adapter.line.written =
          Slcan.ascii "t2A5111".toList ++ [Slcan.carriageReturn] ++
            (Slcan.ascii "T000002A5122".toList ++ [Slcan.carriageReturn])) ∧
      let adapter : SocketCan.Adapter := ⟨.fresh, .ofSize 1, .started, true, true, []⟩
      let sending := adapter.sendWithin twoFormats 2
      sending.outcome = .done 2 ∧ sending.adapter.socket.written = [⟨0x2A5, [0x11]⟩, ⟨0x800002A5, [0x22]⟩] := by
  decide

end CanBus
