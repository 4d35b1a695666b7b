import CanBus.Proofs.Slcan.Codec
import CanBus.Proofs.SocketCan.Codec
import CanBus.Proofs.Transmission
import CanBus.Slcan.Adapter
import CanBus.SocketCan.Adapter

/-!
# Wires — a batch that keeps the rules is not refused half-way by its own adapter

A line may be of any kind, and may refuse frames or take them late as it likes.  If there are words for every payload of
the allowed length, then a transmission is refused before anything is written, or by the line itself
(`Wire.transmit_refused`).  There are such words on serial ports, and in the frames of every library that does what is
documented (`only_line_refuses`).
-/

namespace CanBus

namespace Wire

variable {Words Line : Type}

/-- There are words for every frame whose payload is not too long. -/
def Covers (wire : Wire Words Line) : Prop :=
  ∀ frame : Frame, frame.payload.length ≤ wire.maxPayload → ∃ words, wire.encode frame = .ok words

/-- The line itself has failed at these words, at limiting the time or at writing, and not because the time was over. -/
inductive Fails (wire : Wire Words Line) (line : Line) (words : Words) : Line → Fault → Prop where
  | limit {last : Line} {fault : Fault} (hlimit : wire.limit line = (last, some fault)) :
    Fails wire line words last fault
  | put {ready last : Line} {failure : Failure} (hlimit : wire.limit line = (ready, none))
      (hput : wire.put ready words = (last, some failure)) (hkind : wire.isLate failure.kind = false) :
      Fails wire line words last failure.fault

/-- The line has taken frames at the front of the batch, and it has failed at the words of the next one. -/
def Declines (wire : Wire Words Line) (line : Line) (frames : List Frame) (last : Line) (fault : Fault) : Prop :=
  ∃ front frame back mid words, frames = front ++ frame :: back ∧ Takes wire.write line front mid ∧
    wire.encode frame = .ok words ∧ wire.Fails mid words last fault

variable {wire : Wire Words Line} {phase : Phase} {line : Line} {receiver : Receiver} {frames : List Frame}
  {inTime : Nat} {fault : Fault}

/-- A batch that keeps the rules can be put into words throughout. -/
theorem Covers.encode_of_check (h : wire.Covers) (hcheck : Batch.check frames wire.maxPayload = .ok ()) :
    ∀ frame ∈ frames, ∃ words, wire.encode frame = .ok words := by
  intro frame hframe
  exact h frame ((Batch.check_eq_ok_iff.1 hcheck).2.2.1 frame hframe)

/-- A frame that has words is refused by the line. -/
theorem fails_of_write {frame : Frame} {words : Words} (hwords : wire.encode frame = .ok words) {last : Line}
    (h : wire.write line frame = .refused last fault) : wire.Fails line words last fault := by
  rw [write, hwords] at h
  dsimp only at h
  cases hlimit : wire.limit line with
  | mk ready met =>
    rw [hlimit] at h
    cases met with
    | some met =>
      cases h
      exact .limit hlimit
    | none =>
      dsimp only at h
      cases hput : wire.put ready words with
      | mk next failed =>
        rw [hput] at h
        cases failed with
        | none => cases h
        | some failure =>
          dsimp only at h
          by_cases hlate : wire.isLate failure.kind = true
          · rw [if_pos hlate] at h
            cases h
          · rw [if_neg hlate] at h
            cases h
            exact .put hlimit hput (by simpa using hlate)

/-- **A refusal comes before the first frame or from the line.** -/
theorem transmit_refused (hcovers : wire.Covers)
    (h : (wire.transmit phase line receiver frames inTime).outcome = .refused fault) :
    takesOn phase frames wire.maxPayload = .error fault ∧
        wire.transmit phase line receiver frames inTime = ⟨line, receiver, .refused fault, []⟩ ∨
      wire.Declines line frames (wire.transmit phase line receiver frames inTime).line fault := by
  unfold transmit at h ⊢
  cases htakes : takesOn phase frames wire.maxPayload with
  | error met =>
    rw [htakes] at h
    cases h
    exact .inl ⟨rfl, rfl⟩
  | ok _ =>
    rw [htakes] at h
    have hencode := hcovers.encode_of_check (takesOn_eq_ok_iff.1 htakes).2
    have hcourse := sendEach_course wire.write line receiver inTime 0 frames
    dsimp only at h ⊢
    generalize sendEach wire.write line receiver inTime 0 frames = sending at h hcourse ⊢
    cases hcourse with
    | done => cases h
    | late => cases h
    | failed => cases h
    | @refused front back frame mid last met hframes htime hfront hwrite =>
      cases h
      obtain ⟨words, hwords⟩ := hencode frame (hframes ▸ List.mem_append_right _ List.mem_cons_self)
      exact .inr ⟨front, frame, back, mid, words, hframes, hfront, hwords, fails_of_write hwords hwrite⟩

end Wire

/-! ## The two kinds of words -/

theorem Slcan.covers_wire (Port : Type) [Slcan.SerialPort Port] : (Slcan.wire Port).Covers :=
  fun _ hshort => ⟨_, Slcan.Line.encode_eq_ok_iff.2 ⟨hshort, rfl⟩⟩

theorem SocketCan.covers_wire {Kernel Socket : Type} {library : FrameLibrary Kernel} (h : library.Documented)
    (limit : Socket → Socket × Option Fault) (put : Socket → Kernel → Socket × Option Failure) :
    (wire library limit put).Covers := fun _ hshort => h.exists_ofFrame_iff.2 hshort

/-! ## The theorem -/

/-- **An accepted batch is not refused half-way.**  Every frame of a batch that keeps the rules has its line, and its
kernel frame in every library that does what is documented.  So a transmission that is refused, over a serial port or a
socket that may do whatever it likes, has written nothing and called nobody, or it is the port or the socket that has
failed at a frame, after those before it were written, and its failure was not that the time was over. -/
theorem only_line_refuses (frames : List Frame) :
    (Batch.check frames 8 = .ok () → ∀ frame ∈ frames, (∃ bytes, Slcan.Line.encode frame = .ok bytes) ∧
      ∀ (Kernel : Type) (library : SocketCan.FrameLibrary Kernel), library.Documented →
        ∃ kernel, library.ofFrame frame = .ok kernel) ∧
    (∀ (Port : Type) [Slcan.SerialPort Port] (adapter : Slcan.Adapter Port) (inTime : Nat) (fault : Fault),
      (adapter.sendWithin frames inTime).outcome = .refused fault →
        takesOn adapter.phase frames 8 = .error fault ∧
            adapter.sendWithin frames inTime = ⟨adapter, .refused fault, []⟩ ∨
          (Slcan.wire Port).Declines adapter.line frames (adapter.sendWithin frames inTime).adapter.line fault) ∧
    (∀ (Kernel Socket : Type) (library : SocketCan.FrameLibrary Kernel), library.Documented →
      ∀ (limit : Socket → Socket × Option Fault) (put : Socket → Kernel → Socket × Option Failure) (phase : Phase)
        (socket : Socket) (receiver : Receiver) (inTime : Nat) (fault : Fault),
        let sending := (SocketCan.wire library limit put).transmit phase socket receiver frames inTime
        sending.outcome = .refused fault →
          takesOn phase frames 8 = .error fault ∧ sending = ⟨socket, receiver, .refused fault, []⟩ ∨
            (SocketCan.wire library limit put).Declines socket frames sending.line fault) ∧
    ∀ (adapter : SocketCan.Adapter) (inTime : Nat) (fault : Fault),
      (adapter.sendWithin frames inTime).outcome = .refused fault →
        takesOn adapter.phase frames 8 = .error fault ∧
            adapter.sendWithin frames inTime = ⟨adapter, .refused fault, []⟩ ∨
          (SocketCan.wire SocketCan.KernelFrame.library SocketCan.Socket.limit SocketCan.Socket.put).Declines
            adapter.socket frames (adapter.sendWithin frames inTime).adapter.socket fault := by
  refine ⟨fun hcheck frame hframe => ⟨?_, fun Kernel library hlibrary => ?_⟩, fun Port _ adapter inTime fault h => ?_,
    fun Kernel Socket library hlibrary limit put phase socket receiver inTime fault h => ?_,
    fun adapter inTime fault h => ?_⟩
  · have hfit := (Batch.check_eq_ok_iff.1 hcheck).2.2.1 frame hframe
    exact ⟨_, Slcan.Line.encode_eq_ok_iff.2 ⟨hfit, rfl⟩⟩
  · have hfit := (Batch.check_eq_ok_iff.1 hcheck).2.2.1 frame hframe
    exact hlibrary.exists_ofFrame_iff.2 hfit
  · rcases Wire.transmit_refused (Slcan.covers_wire Port) h with ⟨htakes, hnothing⟩ | hdeclines
    · refine .inl ⟨htakes, ?_⟩
      rw [Slcan.Adapter.sendWithin, hnothing]
    · exact .inr hdeclines
  · exact Wire.transmit_refused (SocketCan.covers_wire hlibrary limit put) h
  · have hcovers := SocketCan.covers_wire SocketCan.KernelFrame.documented SocketCan.Socket.limit SocketCan.Socket.put
    rcases Wire.transmit_refused hcovers h with ⟨htakes, hnothing⟩ | hdeclines
    · refine .inl ⟨htakes, ?_⟩
      rw [SocketCan.Adapter.sendWithin, hnothing]
    · exact .inr hdeclines

/-- Two frames for one identifier. -/
def couple : List Frame :=
  [⟨0x1C4, [0x5A], .base, false, by decide, by decide⟩, ⟨0x1C4, [0x6B, 0x7C], .base, true, by decide, by decide⟩]

/-- The far side of this port goes away when one line and two bytes of the next are out. -/
def cutSerial : Slcan.Adapter Slcan.SerialLine :=
  ⟨.facing [.fine, .fine, .fine, .short 2, .failed Slcan.SerialLine.gone], .ofSize 1, .started, true, some [], []⟩

/-- The other end of a socket goes away when one frame was written. -/
def cutSocket : SocketCan.Adapter :=
  ⟨.facing [none, none, none, some ⟨.other, "Broken pipe"⟩], .ofSize 1, .started, true, true, []⟩

/-- `only_line_refuses` on a port and on a socket that fail at the second frame. -/
theorem only_line_refuses_couple :
    Batch.check couple 8 = .ok () ∧ (∀ frame ∈ couple, ∃ bytes, Slcan.Line.encode frame = .ok bytes) ∧
      (cutSerial.sendWithin couple 2).outcome = .refused Slcan.SerialLine.gone.fault ∧
      (Slcan.wire Slcan.SerialLine).Declines cutSerial.line couple (cutSerial.sendWithin couple 2).adapter.line
        Slcan.SerialLine.gone.fault ∧
      (cutSerial.sendWithin couple 2).adapter.line.written =
        Slcan.ascii "t1C415A".toList ++ [Slcan.carriageReturn] ++ Slcan.ascii "t1".toList ∧
      (cutSocket.sendWithin couple 2).outcome = .refused (.io "Broken pipe") ∧
      (SocketCan.wire SocketCan.KernelFrame.library SocketCan.Socket.limit SocketCan.Socket.put).Declines
        cutSocket.socket couple (cutSocket.sendWithin couple 2).adapter.socket (.io "Broken pipe") := by
  have hcheck : Batch.check couple 8 = .ok () := by decide
  have hserial : (cutSerial.sendWithin couple 2).outcome = .refused Slcan.SerialLine.gone.fault := by decide
  have hsocket : (cutSocket.sendWithin couple 2).outcome = .refused (.io "Broken pipe") := by decide
  have htakes : takesOn .started couple 8 = .ok () := by decide
  obtain ⟨hencode, hport, -, hother⟩ := only_line_refuses couple
  refine ⟨hcheck, fun frame hframe => (hencode hcheck frame hframe).1, hserial, ?_, by decide, hsocket, ?_⟩
  · rcases hport Slcan.SerialLine cutSerial 2 _ hserial with ⟨hearly, -⟩ | hdeclines
    · cases htakes.symm.trans hearly
    · exact hdeclines
  · rcases hother cutSocket 2 _ hsocket with ⟨hearly, -⟩ | hdeclines
    · cases htakes.symm.trans hearly
    · exact hdeclines

/-- A frame that is late is not refused: the frames before it are the ones that were sent. -/
example :
    let late : Slcan.SerialLine := .facing [.fine, .fine, .fine, .short 2, .failed ⟨.timedOut, "Operation timed out"⟩]
    let sending := { cutSerial with line := late }.sendWithin couple 2
    sending.outcome = .done 1 ∧ sending.adapter.line.written =
      Slcan.ascii "t1C415A".toList ++ [Slcan.carriageReturn] ++ Slcan.ascii "t1".toList := by decide

end CanBus
