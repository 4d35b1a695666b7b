import CanBus.Slcan.Adapter
import Mathlib.Data.List.TakeWhile

/-!
# Reading a stream — pieces of any size

What is read of a stream does not depend on where the pieces end that it arrives in (`drain_append`).  So an adapter
whose handler never fails takes in pieces as if they had arrived as one (`receiveAll_eq`).
-/

namespace CanBus.Slcan

namespace Reader

/-! ## Lines -/

/-- No line ends among the bytes. -/
def Unfinished (bytes : List UInt8) : Prop := ∀ b ∈ bytes, isTerminator b = false

theorem unfinished_nil : Unfinished [] := List.forall_mem_nil _

theorem unfinished_of_all {bytes : List UInt8} (h : bytes.all (!isTerminator ·)) : Unfinished bytes := by
  intro b hb
  simpa using List.all_eq_true.1 h b hb

theorem drain_of_unfinished {buffer : List UInt8} (h : Unfinished buffer) : drain buffer = ([], buffer) := by
  have hnil : buffer.dropWhile (!isTerminator ·) = [] := by
    rw [List.dropWhile_eq_nil_iff]
    intro b hb
    rw [h b hb]
    rfl
  rw [drain]
  split
  · rfl
  · next hsplit =>
    rw [hnil] at hsplit
    cases hsplit

/-- The first line is read, and then what follows its end. -/
theorem drain_line {line rest : List UInt8} {terminator : UInt8} (hline : Unfinished line)
    (hend : isTerminator terminator = true) :
    drain (line ++ terminator :: rest) =
      ((readLine line terminator).toList ++ (drain rest).1, (drain rest).2) := by
  have hpass : ∀ b ∈ line, (!isTerminator b) = true := by
    intro b hb
    rw [hline b hb]
    rfl
  have hstop : ¬ (!isTerminator terminator) = true := by
    rw [hend]
    decide
  have hdrop : (line ++ terminator :: rest).dropWhile (!isTerminator ·) = terminator :: rest := by
    rw [List.dropWhile_append_of_pos hpass, List.dropWhile_cons_of_neg (p := (!isTerminator ·)) hstop]
  have htake : (line ++ terminator :: rest).takeWhile (!isTerminator ·) = line := by
    rw [List.takeWhile_append_of_pos hpass, List.takeWhile_cons_of_neg (p := (!isTerminator ·)) hstop, List.append_nil]
  rw [drain]
  split
  · next hsplit =>
    rw [hdrop] at hsplit
    cases hsplit
  · next hsplit =>
    rw [hdrop] at hsplit
    cases hsplit
    rw [htake]

/-- A buffer holds no end of a line, or a first line. -/
theorem unfinished_or_line (buffer : List UInt8) :
    Unfinished buffer ∨ ∃ line terminator rest, buffer = line ++ terminator :: rest ∧ Unfinished line ∧
      isTerminator terminator = true := by
  induction buffer with
  | nil => exact .inl unfinished_nil
  | cons b buffer ih =>
    cases hb : isTerminator b with
    | true => exact .inr ⟨[], b, buffer, rfl, fun c hc => (by cases hc), hb⟩
    | false =>
      have hcons : ∀ {bytes : List UInt8}, Unfinished bytes → Unfinished (b :: bytes) := by
        intro bytes hbytes c hc
        rcases List.mem_cons.1 hc with rfl | hc
        · exact hb
        · exact hbytes c hc
      rcases ih with hbuffer | ⟨line, terminator, rest, rfl, hline, hend⟩
      · exact .inl (hcons hbuffer)
      · exact .inr ⟨b :: line, terminator, rest, rfl, hcons hline, hend⟩

/-- Induction over the lines of a buffer: what holds of bytes without an end of a line, and of a line before a buffer of
which it holds, holds of every buffer. -/
@[elab_as_elim]
theorem line_induction {motive : List UInt8 → Prop} (unfinished : ∀ buffer, Unfinished buffer → motive buffer)
    (line : ∀ line terminator rest, Unfinished line → isTerminator terminator = true → motive rest →
      motive (line ++ terminator :: rest)) (buffer : List UInt8) : motive buffer := by
  induction hlength : buffer.length using Nat.strongRecOn generalizing buffer with
  | _ n ih =>
    rcases unfinished_or_line buffer with hbuffer | ⟨first, terminator, rest, rfl, hfirst, hend⟩
    · exact unfinished buffer hbuffer
    · have hshort : rest.length < n := by
        rw [← hlength, List.length_append, List.length_cons]
        omega
      exact line first terminator rest hfirst hend (ih _ hshort rest rfl)

/-- **Reading goes on where it stopped.**  A stream is read like its front, and then like what the front left over
with the rest behind it. -/
theorem drain_append (front back : List UInt8) :
    drain (front ++ back) =
      ((drain front).1 ++ (drain ((drain front).2 ++ back)).1, (drain ((drain front).2 ++ back)).2) := by
  induction front using line_induction with
  | unfinished front hfront =>
    rw [drain_of_unfinished hfront]
    rfl
  | line line terminator rest hline hend ih =>
    rw [List.append_assoc, List.cons_append, drain_line hline hend, drain_line hline hend, ih, List.append_assoc]

theorem unfinished_drain (buffer : List UInt8) : Unfinished (drain buffer).2 := by
  induction buffer using line_induction with
  | unfinished buffer hbuffer =>
    rw [drain_of_unfinished hbuffer]
    exact hbuffer
  | line line terminator rest hline hend ih =>
    rw [drain_line hline hend]
    exact ih

/-! ## What readings carry -/

def Reading.frame? : Reading → Option Frame
  | .frame heard => some heard
  | .refused _ => none

def Reading.fault? : Reading → Option Fault
  | .frame _ => none
  | .refused fault => some fault

end Reader

open Reader (Reading Unfinished drain)

/-- What arrives within readings, as an adapter hands it on. -/
def arrivals (readings : List Reading) : List Frame := (readings.filterMap (·.frame?)).map (·.tagged false)

theorem arrivals_append (readings more : List Reading) :
    arrivals (readings ++ more) = arrivals readings ++ arrivals more := by simp [arrivals]

namespace Adapter

variable {Port : Type} {adapter : Adapter Port} {pending : List UInt8}

/-- The adapter listens, with a handler that never fails and `pending` as its unfinished line. -/
structure Listening (adapter : Adapter Port) (pending : List UInt8) : Prop where
  phase_eq : adapter.phase = .started
  reader_eq : adapter.reader = some pending
  unread_eq : adapter.unread = []
  reliable : adapter.receiver.Reliable
  unfinished : Unfinished pending

/-- The adapter after bytes of which the reader made these readings and left `pending`. -/
def taking (adapter : Adapter Port) (readings : List Reading) (pending : List UInt8) : Reception Port :=
  ⟨{ adapter with
      receiver := adapter.receiver.afterCalls (adapter.receiver.singles (arrivals readings)), reader := some pending },
    adapter.receiver.singles (arrivals readings), readings.filterMap (·.fault?)⟩

/-- A handler that never fails is called for each frame that passes, and the reader goes on. -/
theorem act_eq (h : adapter.receiver.Reliable) (pending : List UInt8) (readings : List Reading) :
    adapter.act pending readings = adapter.taking readings pending := by
  induction readings generalizing adapter with
  | nil => simp [act, taking, arrivals]
  | cons reading readings ih =>
    cases reading with
    | refused fault =>
      rw [act, ih h]
      rfl
    | frame frame =>
      have hsplit : arrivals (.frame frame :: readings) = [frame.tagged false] ++ arrivals readings := rfl
      have hshort : [frame.tagged false].length ≤ 1 := Nat.le_refl 1
      rw [act, h.offer_short hshort]
      unfold taking
      rw [hsplit, Receiver.singles_append, Receiver.singles_singleton]
      by_cases haccepts : adapter.receiver.bank.accepts (frame.tagged false)
      · rw [if_pos haccepts]
        simp only [List.head?_cons, if_true]
        rw [ih (h.afterCalls _), taking, Receiver.afterCalls_append]
        rfl
      · rw [if_neg haccepts]
        simp only [List.head?_nil, Receiver.afterCalls_nil]
        rw [ih h]
        rfl

theorem receive_eq (h : adapter.Listening pending) (bytes : List UInt8) :
    adapter.receive bytes = adapter.taking (drain (pending ++ bytes)).1 (drain (pending ++ bytes)).2 := by
  have hreceive : adapter.receive bytes = adapter.act (drain (pending ++ bytes)).2 (drain (pending ++ bytes)).1 := by
    have hreader := h.reader_eq
    have hunread := h.unread_eq
    cases adapter with
    | mk line receiver phase retransmit reader unread =>
      dsimp only at hreader hunread
      subst hreader hunread
      rfl
  rw [hreceive, act_eq h.reliable]

theorem Listening.receive (h : adapter.Listening pending) (bytes : List UInt8) :
    (adapter.receive bytes).adapter.Listening (drain (pending ++ bytes)).2 := by
  rw [receive_eq h]
  exact ⟨h.phase_eq, rfl, h.unread_eq, h.reliable.afterCalls _, Reader.unfinished_drain _⟩

/-- Take in pieces one after the other. -/
def receiveAll (adapter : Adapter Port) : List (List UInt8) → Reception Port
  | [] => ⟨adapter, [], []⟩
  | piece :: pieces =>
    let first := adapter.receive piece
    let later := first.adapter.receiveAll pieces
    ⟨later.adapter, first.deliveries ++ later.deliveries, first.refusals ++ later.refusals⟩

/-- **The pieces do not matter.**  Bytes that arrive in pieces are taken in like all of them at once. -/
theorem receiveAll_eq (h : adapter.Listening pending) (pieces : List (List UInt8)) :
    adapter.receiveAll pieces = adapter.receive pieces.flatten := by
  induction pieces generalizing adapter pending with
  | nil =>
    rw [receive_eq h, List.flatten_nil, List.append_nil, Reader.drain_of_unfinished h.unfinished, receiveAll, taking]
    simp [arrivals, ← h.reader_eq]
  | cons piece pieces ih =>
    have hfirst := receive_eq h piece
    have hlater := h.receive piece
    rw [receiveAll, ih hlater, receive_eq hlater, hfirst, receive_eq h, List.flatten_cons, ← List.append_assoc,
      Reader.drain_append (pending ++ piece)]
    simp only [taking, arrivals_append, Receiver.singles_append, Receiver.singles_afterCalls,
      Receiver.afterCalls_append, List.filterMap_append]

/-! ## Beginning to listen -/

/-- Starting with a handler that never fails is the beginning of listening. -/
theorem Listening.start [SerialPort Port] (hunread : adapter.unread = []) {noRetransmit : Bool}
    (h : (adapter.start noRetransmit []).2 = none) : (adapter.start noRetransmit []).1.Listening [] := by
  by_cases hphase : adapter.phase = .created
  · rcases hopening : opening adapter.line with ⟨line, _ | fault⟩
    · rw [start_of_opened hphase hopening]
      exact ⟨rfl, rfl, hunread, adapter.receiver.reliable_register, Reader.unfinished_nil⟩
    · rw [start_of_failed hphase hopening] at h
      cases h
  · rw [start_of_ne hphase] at h
    cases h

theorem Listening.configure (hlistening : adapter.Listening pending) (filters : List Filter) :
    (adapter.configure filters).1.Listening pending := by
  cases hreceiver : adapter.receiver.reconfigure filters with
  | error fault =>
    rw [configure_of_error hlistening.phase_eq hreceiver]
    exact hlistening
  | ok receiver =>
    rw [configure_of_ok hlistening.phase_eq hreceiver]
    exact ⟨hlistening.phase_eq, hlistening.reader_eq, hlistening.unread_eq, hlistening.reliable.reconfigure hreceiver,
      hlistening.unfinished⟩

end Adapter

end CanBus.Slcan
