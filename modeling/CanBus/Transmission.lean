import CanBus.Batch
import CanBus.Phase
import CanBus.Receiver

/-!
# Transmission — frames sent one after the other

An adapter on a line of its own writes each frame of a batch and hands it back to the sender, if it asks for that,
before it looks at the next.  The line may take a frame too late or refuse it, and may then have taken a part of it.
What an adapter writes to, and how, is a parameter (`Wire`).
-/

namespace CanBus

/-- Whether an adapter in this phase takes on a batch; the phase is looked at before the batch. -/
def takesOn (phase : Phase) (frames : List Frame) (mtu : Nat) : Except Fault Unit := do
  phase.requireStarted
  Batch.check frames mtu

theorem takesOn_eq_ok_iff {phase : Phase} {frames : List Frame} {mtu : Nat} :
    takesOn phase frames mtu = .ok () ↔ phase = .started ∧ Batch.check frames mtu = .ok () := by
  unfold takesOn
  cases phase with
  | created => exact ⟨nofun, nofun⟩
  | started => exact ⟨fun h => ⟨rfl, h⟩, fun h => h.2⟩
  | closed => exact ⟨nofun, nofun⟩

/-- A line after a frame was written to it: the frame was taken as a whole, or its time ran out before that, or it was
refused. -/
inductive Writing (α : Type) where
  | whole (line : α)
  | late (line : α)
  | refused (line : α) (fault : Fault)

/-- A line and the receiver beside it after frames were sent, the number of frames sent or why the sending ended, and
the handler calls. -/
structure Sending (α : Type) where
  line : α
  receiver : Receiver
  outcome : Outcome Nat
  deliveries : List Delivery

/-- Send frames one after the other until the time is over, which is after `inTime` more of them or when one is late;
`sent` have been sent before. -/
def sendEach {α : Type} (write : α → Frame → Writing α) (line : α) (receiver : Receiver) (inTime sent : Nat) :
    List Frame → Sending α
  | [] => ⟨line, receiver, .done sent, []⟩
  | frame :: rest =>
    match inTime with
    | 0 => ⟨line, receiver, .done sent, []⟩
    | inTime + 1 =>
      match write line frame with
      | .refused line fault => ⟨line, receiver, .refused fault, []⟩
      | .late line => ⟨line, receiver, .done sent, []⟩
      | .whole line =>
        let (receiver, echo) := receiver.offer (Batch.echoed [frame])
        match echo with
        | none => sendEach write line receiver inTime (sent + 1) rest
        | some delivery =>
          if delivery.completed then
            let later := sendEach write line receiver inTime (sent + 1) rest
            { later with deliveries := delivery :: later.deliveries }
          else ⟨line, receiver, .handlerFailed, [delivery]⟩

section

variable {α : Type} {write : α → Frame → Writing α} {line line' : α} {receiver : Receiver} {frames : List Frame}
  {frame : Frame}

@[simp] theorem sendEach_nil (inTime sent : Nat) :
    sendEach write line receiver inTime sent [] = ⟨line, receiver, .done sent, []⟩ := by rw [sendEach]

/-- A frame that is refused ends the sending. -/
theorem sendEach_of_refused {fault : Fault} (hwrite : write line frame = .refused line' fault) (inTime sent : Nat) :
    sendEach write line receiver (inTime + 1) sent (frame :: frames) = ⟨line', receiver, .refused fault, []⟩ := by
  rw [sendEach]
  simp only [hwrite]

/-- So does one that is late, but the frames before it count as sent. -/
theorem sendEach_of_late (hwrite : write line frame = .late line') (inTime sent : Nat) :
    sendEach write line receiver (inTime + 1) sent (frame :: frames) = ⟨line', receiver, .done sent, []⟩ := by
  rw [sendEach]
  simp only [hwrite]

/-- One frame that is taken as a whole, in time. -/
theorem sendEach_cons (hwrite : write line frame = .whole line') (inTime sent : Nat) :
    sendEach write line receiver (inTime + 1) sent (frame :: frames) =
      match (receiver.offer (Batch.echoed [frame])).2 with
      | none => sendEach write line' (receiver.offer (Batch.echoed [frame])).1 inTime (sent + 1) frames
      | some delivery =>
        if delivery.completed then
          let later := sendEach write line' (receiver.offer (Batch.echoed [frame])).1 inTime (sent + 1) frames
          { later with deliveries := delivery :: later.deliveries }
        else ⟨line', (receiver.offer (Batch.echoed [frame])).1, .handlerFailed, [delivery]⟩ := by
  rw [sendEach]
  simp only [hwrite]

end

/-! ## Wires -/

/-- How frames get on a line: the longest payload, the words for a frame, a limit for the time of the next writing, and
what the line makes of words.  A failure of these kinds means that the time was over. -/
structure Wire (Words Line : Type) where
  maxPayload : Nat
  encode : Frame → Except Fault Words
  limit : Line → Line × Option Fault
  put : Line → Words → Line × Option Failure
  isLate : SystemFailure → Bool

namespace Wire

variable {Words Line : Type}

/-- Put a frame into words, limit the time, and write. -/
def write (wire : Wire Words Line) (line : Line) (frame : Frame) : Writing Line :=
  match wire.encode frame with
  | .error fault => .refused line fault
  | .ok words =>
    match wire.limit line with
    | (line, some fault) => .refused line fault
    | (line, none) =>
      match wire.put line words with
      | (line, none) => .whole line
      | (line, some failure) => if wire.isLate failure.kind then .late line else .refused line failure.fault

/-- Transmit a batch, in this phase of an adapter, whose time is over after `inTime` frames. -/
def transmit (wire : Wire Words Line) (phase : Phase) (line : Line) (receiver : Receiver) (frames : List Frame)
    (inTime : Nat) : Sending Line :=
  match takesOn phase frames wire.maxPayload with
  | .error fault => ⟨line, receiver, .refused fault, []⟩
  | .ok () => sendEach wire.write line receiver inTime 0 frames

end Wire

end CanBus
