import CanBus.Proofs.Media.Plain
import CanBus.Proofs.Slcan.Transcript
import CanBus.Proofs.SocketCan.Codec

/-!
# Adapters on a line — refinements of plain adapters

Started with handlers that never fail, SLCAN adapters on steady ports (`Slcan.Adapter.refines`) and adapters on kernel
sockets on which nothing fails (`SocketCan.Adapter.refines`) are seen as plain adapters.
-/

namespace CanBus

/-! ## SLCAN -/

namespace Slcan.Adapter

open SerialPort (Steady writeAll)

variable {Port : Type}

/-- The adapter presents a plain adapter: its port is a good one, and while it is started it listens with a handler that
never fails. -/
structure Presents (good : Port → Prop) (adapter : Adapter Port) (plain : Plain) : Prop where
  phase_eq : adapter.phase = plain.phase
  retransmit_eq : adapter.retransmit = plain.retransmit
  bank_eq : adapter.receiver.bank = plain.bank
  line_good : good adapter.line
  unread_eq : adapter.unread = []
  listening : plain.phase = .started → adapter.reader = some [] ∧ adapter.receiver.Reliable

variable [SerialPort Port] {good : Port → Prop} {adapter : Adapter Port} {plain : Plain}

theorem Presents.start_agrees (hsteady : Steady good) (h : adapter.Presents good plain) (noRetransmit : Bool) :
    Agrees (Presents good) (adapter.start noRetransmit []) (plain.meet (.request (.start noRetransmit []))) := by
  rcases plain.meet_start noRetransmit [] with ⟨hne, hshown⟩ | ⟨hcreated, hshown⟩
  · rw [start_of_ne (h.phase_eq ▸ hne)]
    exact ⟨plain, hshown, h⟩
  · obtain ⟨line, hopening, hline⟩ := opening_of_steady hsteady h.line_good
    rw [start_of_opened (h.phase_eq.trans hcreated) hopening]
    exact ⟨_, hshown, rfl, rfl, h.bank_eq, hline, h.unread_eq, fun _ => ⟨rfl, adapter.receiver.reliable_register⟩⟩

omit [SerialPort Port] in
theorem Presents.configure_agrees (h : adapter.Presents good plain) (filters : List Filter) :
    Agrees (Presents good) (adapter.configure filters) (plain.meet (.request (.configure filters))) := by
  rcases plain.meet_configure h.bank_eq filters with
    ⟨hne, hshown⟩ | ⟨hstarted, ⟨fault, hreceiver, hshown⟩ | ⟨receiver, hreceiver, hshown⟩⟩
  · rw [configure_of_ne (h.phase_eq ▸ hne)]
    exact ⟨plain, hshown, h⟩
  · rw [configure_of_error (h.phase_eq.trans hstarted) hreceiver]
    exact ⟨plain, hshown, h⟩
  · obtain ⟨hreader, hreliable⟩ := h.listening hstarted
    rw [configure_of_ok (h.phase_eq.trans hstarted) hreceiver]
    exact ⟨_, hshown, h.phase_eq, h.retransmit_eq, rfl, h.line_good, h.unread_eq,
      fun _ => ⟨hreader, hreliable.reconfigure hreceiver⟩⟩

theorem Presents.close_agrees (hsteady : Steady good) (h : adapter.Presents good plain) :
    Agrees (Presents good) adapter.close (plain.meet (.request .close)) := by
  rcases plain.meet_close with ⟨hclosed, hshown⟩ | ⟨hopen, hshown⟩
  · rw [close_of_closed (h.phase_eq.trans hclosed)]
    exact ⟨plain, hshown, h⟩
  · have hline : good (if adapter.phase = .started then (writeAll adapter.line closeCommand).1 else adapter.line) := by
      by_cases hstarted : adapter.phase = .started
      · rw [if_pos hstarted]
        exact (hsteady.writeAll h.line_good closeCommand).2
      · rw [if_neg hstarted]
        exact h.line_good
    rw [close_of_ne (h.phase_eq ▸ hopen)]
    exact ⟨_, hshown, rfl, h.retransmit_eq, h.bank_eq, hline, h.unread_eq, nofun⟩

theorem Presents.meet_send (hsteady : Steady good) (h : adapter.Presents good plain) {frames : List Frame}
    {inTime : Nat} (htime : frames.length ≤ inTime) :
    (adapter.meet (.request (.send frames inTime))).2 = (plain.meet (.request (.send frames inTime))).2 ∧
      (adapter.meet (.request (.send frames inTime))).1.Presents good
        (plain.meet (.request (.send frames inTime))).1 := by
  have hguard : takesOn adapter.phase frames (wire Port).maxPayload = takesOn plain.phase frames Plain.maxPayload := by
    rw [h.phase_eq]
    rfl
  rw [meet, respond, sendWithin, Wire.transmit, hguard, Plain.meet]
  cases htakes : takesOn plain.phase frames Plain.maxPayload with
  | error fault =>
    dsimp only
    rw [Plain.showing, ← h.retransmit_eq]
    exact ⟨rfl, h⟩
  | ok _ =>
    obtain ⟨hstarted, hcheck⟩ := takesOn_eq_ok_iff.1 htakes
    obtain ⟨-, -, hfit, -⟩ := Batch.check_eq_ok_iff.1 hcheck
    obtain ⟨hreader, hreliable⟩ := h.listening hstarted
    obtain ⟨last, hlast, hgood⟩ := takes_of_steady hsteady h.line_good hfit
    have hsending := (sendEach_course (wire Port).write adapter.line adapter.receiver inTime 0 frames).of_reliable
      hreliable hlast htime
    dsimp only
    rw [hsending, Plain.showing, ← h.retransmit_eq, ← h.bank_eq]
    refine ⟨?_, h.phase_eq, h.retransmit_eq, h.bank_eq, hgood, h.unread_eq,
      fun _ => ⟨hreader, hreliable.afterCalls _⟩⟩
    show (⟨.sent (0 + frames.length), _, List.flatMap _ _⟩ : Observation) = _
    rw [Nat.zero_add, Receiver.flatMap_singles]

theorem Presents.meet_arrival (h : adapter.Presents good plain) {frame : Frame}
    (hallowed : Happening.Allowed plain.phase (.arrival frame)) :
    (adapter.meet (.arrival frame)).2 = (plain.meet (.arrival frame)).2 ∧
      (adapter.meet (.arrival frame)).1.Presents good (plain.meet (.arrival frame)).1 := by
  obtain ⟨hstarted, hfit⟩ := hallowed
  obtain ⟨hreader, hreliable⟩ := h.listening hstarted
  have hlistening : adapter.Listening [] :=
    ⟨h.phase_eq.trans hstarted, hreader, h.unread_eq, hreliable, Reader.unfinished_nil⟩
  have hdrain : Reader.drain (Utterance.frame frame).line = ([.frame (frame.tagged false)], []) := by
    have hfits : (Utterance.frame frame).Fits := fun sent hsent => Option.some.inj hsent ▸ hfit
    rw [Utterance.line, Reader.drain_line (Utterance.unfinished_body hfits) (by decide), Utterance.readLine_body hfits,
      Reader.drain_of_unfinished Reader.unfinished_nil]
    rfl
  have hreceive : adapter.receive (Utterance.frame frame).line = adapter.taking [.frame (frame.tagged false)] [] := by
    rw [receive_eq hlistening, List.nil_append, hdrain]
  rw [meet, encode_eq hfit]
  dsimp only
  rw [hreceive, Plain.meet, Plain.showing, ← h.retransmit_eq, ← h.bank_eq]
  refine ⟨?_, h.phase_eq, h.retransmit_eq, h.bank_eq, h.line_good, h.unread_eq,
    fun _ => ⟨rfl, hreliable.afterCalls _⟩⟩
  show (⟨.done, _, (adapter.receiver.singles [frame.tagged false]).flatMap _⟩ : Observation) = _
  rw [Receiver.flatMap_singles]
  rfl

/-- An SLCAN adapter on a steady port is seen as a plain one. -/
theorem refines (hsteady : Steady good) : Refines (meet : Adapter Port → _) (Presents good) := by
  intro adapter plain happening h hallowed
  cases happening with
  | arrival frame => exact h.meet_arrival hallowed
  | request request =>
    cases request with
    | start noRetransmit failsAt =>
      obtain rfl : failsAt = [] := hallowed
      exact (h.start_agrees hsteady noRetransmit).settled Presents.retransmit_eq
    | configure filters => exact (h.configure_agrees filters).settled Presents.retransmit_eq
    | send frames inTime => exact h.meet_send hsteady hallowed
    | close => exact (h.close_agrees hsteady).settled Presents.retransmit_eq

end Slcan.Adapter

/-! ## Kernel sockets -/

namespace SocketCan

namespace Socket

/-- The other end is there, and no call to come is going to fail. -/
structure Sure (socket : Socket) : Prop where
  connected : socket.connected = true
  ahead_eq : socket.ahead = []

variable {socket : Socket}

theorem Sure.call (h : socket.Sure) : socket.call = (socket, none) := by rw [Socket.call, h.ahead_eq]

theorem Sure.write (h : socket.Sure) {frame : Frame} (hfit : frame.payload.length ≤ maxPayload) :
    (wire KernelFrame.library limit put).write socket frame =
      .whole { socket with written := socket.written ++ [KernelFrame.ofFitting frame] } := by
  have hencode : (wire KernelFrame.library limit put).encode frame = .ok (KernelFrame.ofFitting frame) :=
    KernelFrame.ofFrame_of_fits hfit
  have hlimit : (wire KernelFrame.library limit put).limit socket = (socket, none) := by
    show (socket.call.1, socket.call.2.map _) = _
    rw [h.call]
    rfl
  have hput : (wire KernelFrame.library limit put).put socket (KernelFrame.ofFitting frame) =
      ({ socket with written := socket.written ++ [KernelFrame.ofFitting frame] }, none) := by
    show socket.put _ = _
    rw [put, if_pos h.connected, h.call]
  rw [Wire.write, hencode]
  dsimp only
  rw [hlimit]
  dsimp only
  rw [hput]

/-- All frames that fit can be written. -/
theorem Sure.takes (h : socket.Sure) {frames : List Frame}
    (hfit : ∀ frame ∈ frames, frame.payload.length ≤ maxPayload) :
    ∃ last, Takes (wire KernelFrame.library limit put).write socket frames last ∧ last.Sure := by
  induction frames generalizing socket with
  | nil => exact ⟨socket, .nil socket, h⟩
  | cons frame rest ih =>
    obtain ⟨hframe, hrest⟩ := List.forall_mem_cons.1 hfit
    have hnext : Sure { socket with written := socket.written ++ [KernelFrame.ofFitting frame] } :=
      ⟨h.connected, h.ahead_eq⟩
    obtain ⟨last, htakes, hlast⟩ := ih hnext hrest
    exact ⟨last, .cons (h.write hframe) htakes, hlast⟩

end Socket

namespace Adapter

/-- The adapter presents a plain adapter: its socket holds, and while it is started it listens with a handler that
never fails. -/
structure Presents (adapter : Adapter) (plain : Plain) : Prop where
  phase_eq : adapter.phase = plain.phase
  retransmit_eq : adapter.retransmit = plain.retransmit
  bank_eq : adapter.receiver.bank = plain.bank
  socket_sure : adapter.socket.Sure
  unread_eq : adapter.unread = []
  listening : plain.phase = .started → adapter.reading = true ∧ adapter.receiver.Reliable

variable {adapter : Adapter} {plain : Plain}

theorem Presents.start_agrees (h : adapter.Presents plain) (noRetransmit : Bool) :
    Agrees Presents (adapter.start noRetransmit []) (plain.meet (.request (.start noRetransmit []))) := by
  rcases plain.meet_start noRetransmit [] with ⟨hne, hshown⟩ | ⟨hcreated, hshown⟩
  · rw [start_of_ne (h.phase_eq ▸ hne)]
    exact ⟨plain, hshown, h⟩
  · rw [start_of_call (h.phase_eq.trans hcreated) h.socket_sure.call]
    exact ⟨_, hshown, rfl, rfl, h.bank_eq, h.socket_sure, h.unread_eq,
      fun _ => ⟨rfl, adapter.receiver.reliable_register⟩⟩

theorem Presents.configure_agrees (h : adapter.Presents plain) (filters : List Filter) :
    Agrees Presents (adapter.configure filters) (plain.meet (.request (.configure filters))) := by
  rcases plain.meet_configure h.bank_eq filters with
    ⟨hne, hshown⟩ | ⟨hstarted, ⟨fault, hreceiver, hshown⟩ | ⟨receiver, hreceiver, hshown⟩⟩
  · rw [configure_of_ne (h.phase_eq ▸ hne)]
    exact ⟨plain, hshown, h⟩
  · rw [configure_of_error (h.phase_eq.trans hstarted) hreceiver]
    exact ⟨plain, hshown, h⟩
  · obtain ⟨hreading, hreliable⟩ := h.listening hstarted
    rw [configure_of_ok (h.phase_eq.trans hstarted) hreceiver]
    exact ⟨_, hshown, h.phase_eq, h.retransmit_eq, rfl, h.socket_sure, h.unread_eq,
      fun _ => ⟨hreading, hreliable.reconfigure hreceiver⟩⟩

theorem Presents.close_agrees (h : adapter.Presents plain) :
    Agrees Presents adapter.close (plain.meet (.request .close)) := by
  rcases plain.meet_close with ⟨hclosed, hshown⟩ | ⟨hopen, hshown⟩
  · rw [close_of_closed (h.phase_eq.trans hclosed)]
    exact ⟨plain, hshown, h⟩
  · rw [close_of_ne (h.phase_eq ▸ hopen)]
    exact ⟨_, hshown, rfl, h.retransmit_eq, h.bank_eq, h.socket_sure, h.unread_eq, nofun⟩

theorem Presents.meet_send (h : adapter.Presents plain) {frames : List Frame} {inTime : Nat}
    (htime : frames.length ≤ inTime) :
    (adapter.meet (.request (.send frames inTime))).2 = (plain.meet (.request (.send frames inTime))).2 ∧
      (adapter.meet (.request (.send frames inTime))).1.Presents
        (plain.meet (.request (.send frames inTime))).1 := by
  have hguard : takesOn adapter.phase frames (wire KernelFrame.library Socket.limit Socket.put).maxPayload =
      takesOn plain.phase frames Plain.maxPayload := by
    rw [h.phase_eq]
    rfl
  rw [meet, respond, sendWithin, Wire.transmit, hguard, Plain.meet]
  cases htakes : takesOn plain.phase frames Plain.maxPayload with
  | error fault =>
    dsimp only
    rw [Plain.showing, ← h.retransmit_eq]
    exact ⟨rfl, h⟩
  | ok _ =>
    obtain ⟨hstarted, hcheck⟩ := takesOn_eq_ok_iff.1 htakes
    obtain ⟨-, -, hfit, -⟩ := Batch.check_eq_ok_iff.1 hcheck
    obtain ⟨hreading, hreliable⟩ := h.listening hstarted
    obtain ⟨last, hlast, hsure⟩ := h.socket_sure.takes hfit
    have hsending := (sendEach_course (wire KernelFrame.library Socket.limit Socket.put).write adapter.socket
      adapter.receiver inTime 0 frames).of_reliable hreliable hlast htime
    dsimp only
    rw [hsending, Plain.showing, ← h.retransmit_eq, ← h.bank_eq]
    refine ⟨?_, h.phase_eq, h.retransmit_eq, h.bank_eq, hsure, h.unread_eq,
      fun _ => ⟨hreading, hreliable.afterCalls _⟩⟩
    show (⟨.sent (0 + frames.length), _, List.flatMap _ _⟩ : Observation) = _
    rw [Nat.zero_add, Receiver.flatMap_singles]

/-- One kernel frame that has a frame is one call at most. -/
theorem act_singleton (hreliable : adapter.receiver.Reliable) {kernel : KernelFrame} {frame : Frame}
    (hframe : kernel.toFrame? = some frame) :
    adapter.act [kernel] =
      ⟨{ adapter with
          receiver := adapter.receiver.afterCalls (adapter.receiver.singles [frame.tagged false]), unread := [] },
        adapter.receiver.singles [frame.tagged false]⟩ := by
  have hshort : [frame.tagged false].length ≤ 1 := Nat.le_refl 1
  rw [act, hframe]
  dsimp only
  rw [hreliable.offer_short hshort, Receiver.singles_singleton]
  by_cases haccepts : adapter.receiver.bank.accepts (frame.tagged false)
  · rw [if_pos haccepts]
    rfl
  · rw [if_neg haccepts]
    rfl

theorem Presents.meet_arrival (h : adapter.Presents plain) {frame : Frame}
    (hallowed : Happening.Allowed plain.phase (.arrival frame)) :
    (adapter.meet (.arrival frame)).2 = (plain.meet (.arrival frame)).2 ∧
      (adapter.meet (.arrival frame)).1.Presents (plain.meet (.arrival frame)).1 := by
  obtain ⟨hstarted, hfit⟩ := hallowed
  obtain ⟨hreading, hreliable⟩ := h.listening hstarted
  have hreceive : adapter.receive [KernelFrame.ofFitting frame] =
      ⟨{ adapter with
          receiver := adapter.receiver.afterCalls (adapter.receiver.singles [frame.tagged false]), unread := [] },
        adapter.receiver.singles [frame.tagged false]⟩ := by
    rw [receive, if_pos hreading, h.unread_eq, List.nil_append,
      act_singleton hreliable (KernelFrame.toFrame?_ofFitting hfit)]
    rfl
  rw [meet, KernelFrame.ofFrame_of_fits hfit]
  dsimp only
  rw [hreceive, Plain.meet, Plain.showing, ← h.retransmit_eq, ← h.bank_eq]
  refine ⟨?_, h.phase_eq, h.retransmit_eq, h.bank_eq, h.socket_sure, rfl,
    fun _ => ⟨hreading, hreliable.afterCalls _⟩⟩
  show (⟨.done, _, (adapter.receiver.singles [frame.tagged false]).flatMap _⟩ : Observation) = _
  rw [Receiver.flatMap_singles]

/-- An adapter on a kernel socket is seen as a plain one. -/
theorem refines : Refines meet Presents := by
  intro adapter plain happening h hallowed
  cases happening with
  | arrival frame => exact h.meet_arrival hallowed
  | request request =>
    cases request with
    | start noRetransmit failsAt =>
      obtain rfl : failsAt = [] := hallowed
      exact (h.start_agrees noRetransmit).settled Presents.retransmit_eq
    | configure filters => exact (h.configure_agrees filters).settled Presents.retransmit_eq
    | send frames inTime => exact h.meet_send hallowed
    | close => exact h.close_agrees.settled Presents.retransmit_eq

end Adapter

end SocketCan

end CanBus
