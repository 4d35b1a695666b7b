import CanBus.Proofs.Transmission
import CanBus.Slcan.Session

/-!
# Effects — every way in which an event can go

An `Effect` pairs an event at an SLCAN adapter, on a port of any kind, with the reaction to it and the guards under
which that is the reaction.  There are no others (`react_effect`).  From them follows what holds throughout a session:
a handler is registered exactly while the adapter is started (`Attended.effect`), and it is not called by what arrives
otherwise (`receive_unattended`).
-/

namespace CanBus.Slcan.Adapter

open Reader (Reading)

variable {Port : Type} {adapter : Adapter Port}

section Effects

variable [SerialPort Port]

/-! ## Effects -/

/-- A request, the fault with which the adapter itself declines it, and why. -/
inductive Declined (adapter : Adapter Port) : Request → Fault → Prop where
  | start (hphase : adapter.phase ≠ .created) (noRetransmit : Bool) (failsAt : List Nat) :
      Declined adapter (.start noRetransmit failsAt) .closed
  | configure (hphase : adapter.phase ≠ .started) (filters : List Filter) :
      Declined adapter (.configure filters) .closed
  | filters {filters : List Filter} {fault : Fault} (hphase : adapter.phase = .started)
      (hreceiver : adapter.receiver.reconfigure filters = .error fault) : Declined adapter (.configure filters) fault
  | send (hphase : adapter.phase ≠ .started) (frames : List Frame) (inTime : Nat) :
      Declined adapter (.send frames inTime) .closed
  | batch {frames : List Frame} {fault : Fault} (hphase : adapter.phase = .started)
      (hcheck : Batch.check frames maxPayload = .error fault) (inTime : Nat) :
      Declined adapter (.send frames inTime) fault
  | close (hphase : adapter.phase = .closed) : Declined adapter .close .closed

/-- An event, a reaction to it, and when that is the reaction. -/
inductive Effect (adapter : Adapter Port) : Event → Reaction Port → Prop where
  | declined {request : Request} {fault : Fault} (h : Declined adapter request fault) :
      Effect adapter (.request request) ⟨adapter, .refused fault, [], []⟩
  | start (hphase : adapter.phase = .created) {line : Port} (hopening : opening adapter.line = (line, none))
      (noRetransmit : Bool) (failsAt : List Nat) :
      Effect adapter (.request (.start noRetransmit failsAt)) ⟨{ adapter with
        line := line, receiver := adapter.receiver.register failsAt, phase := .started, retransmit := !noRetransmit,
        reader := some [] }, .done, [], []⟩
  | startFailed (hphase : adapter.phase = .created) {line : Port} {fault : Fault}
      (hopening : opening adapter.line = (line, some fault)) (noRetransmit : Bool) (failsAt : List Nat) :
      Effect adapter (.request (.start noRetransmit failsAt)) ⟨{ adapter with
        line := line, receiver := adapter.receiver.unregister, reader := none }, .refused fault, [], []⟩
  | configure {filters : List Filter} {receiver : Receiver} (hphase : adapter.phase = .started)
      (hreceiver : adapter.receiver.reconfigure filters = .ok receiver) :
      Effect adapter (.request (.configure filters)) ⟨{ adapter with receiver := receiver }, .done, [], []⟩
  | send {frames : List Frame} (hphase : adapter.phase = .started) (hcheck : Batch.check frames maxPayload = .ok ())
      {inTime : Nat} {sending : Sending Port}
      (hcourse : Course (wire Port).write adapter.line adapter.receiver inTime 0 frames sending) :
      Effect adapter (.request (.send frames inTime)) ⟨{ adapter with
        line := sending.line, receiver := sending.receiver }, .ofOutcome sending.outcome, sending.deliveries, []⟩
  | close (hphase : adapter.phase ≠ .closed) :
      Effect adapter (.request .close) ⟨{ adapter with
        line := if adapter.phase = .started then (SerialPort.writeAll adapter.line closeCommand).1 else adapter.line,
        receiver := adapter.receiver.unregister, phase := .closed, reader := none }, .done, [], []⟩
  | arrive (bytes : List UInt8) :
      Effect adapter (.arrive bytes)
        ⟨(adapter.receive bytes).adapter, .done, (adapter.receive bytes).deliveries, (adapter.receive bytes).refusals⟩
  | hangUp : Effect adapter .hangUp ⟨adapter.hangUp, .done, [], []⟩

theorem start_effect (adapter : Adapter Port) (noRetransmit : Bool) (failsAt : List Nat) :
    Effect adapter (.request (.start noRetransmit failsAt)) (adapter.respond (.start noRetransmit failsAt)) := by
  rw [respond]
  by_cases hphase : adapter.phase = .created
  · rcases hopening : opening adapter.line with ⟨line, _ | fault⟩
    · rw [start_of_opened hphase hopening]
      exact .start hphase hopening noRetransmit failsAt
    · rw [start_of_failed hphase hopening]
      exact .startFailed hphase hopening noRetransmit failsAt
  · rw [start_of_ne hphase]
    exact .declined (.start hphase noRetransmit failsAt)

theorem configure_effect (adapter : Adapter Port) (filters : List Filter) :
    Effect adapter (.request (.configure filters)) (adapter.respond (.configure filters)) := by
  rw [respond]
  by_cases hphase : adapter.phase = .started
  · cases hreceiver : adapter.receiver.reconfigure filters with
    | error fault =>
      rw [configure_of_error hphase hreceiver]
      exact .declined (.filters hphase hreceiver)
    | ok receiver =>
      rw [configure_of_ok hphase hreceiver]
      exact .configure hphase hreceiver
  · rw [configure_of_ne hphase]
    exact .declined (.configure hphase filters)

theorem send_effect (adapter : Adapter Port) (frames : List Frame) (inTime : Nat) :
    Effect adapter (.request (.send frames inTime)) (adapter.respond (.send frames inTime)) := by
  have hmax : (wire Port).maxPayload = maxPayload := rfl
  rw [respond, sendWithin, Wire.transmit, takesOn, hmax]
  by_cases hphase : adapter.phase = .started
  · rw [Phase.requireStarted_eq_ok_iff.2 hphase]
    cases hcheck : Batch.check frames maxPayload with
    | error fault => exact .declined (.batch hphase hcheck inTime)
    | ok _ => exact .send hphase hcheck (sendEach_course _ adapter.line adapter.receiver inTime 0 frames)
  · rw [Phase.requireStarted_of_ne hphase]
    exact .declined (.send hphase frames inTime)

theorem close_effect (adapter : Adapter Port) : Effect adapter (.request .close) (adapter.respond .close) := by
  rw [respond]
  by_cases hphase : adapter.phase = .closed
  · rw [close_of_closed hphase]
    exact .declined (.close hphase)
  · rw [close_of_ne hphase]
    exact .close hphase

/-- Every event has one of the effects. -/
theorem react_effect (adapter : Adapter Port) (event : Event) : Effect adapter event (adapter.react event) := by
  cases event with
  | request request =>
    cases request with
    | start noRetransmit failsAt => exact start_effect adapter noRetransmit failsAt
    | configure filters => exact configure_effect adapter filters
    | send frames inTime => exact send_effect adapter frames inTime
    | close => exact close_effect adapter
  | arrive bytes => exact .arrive bytes
  | hangUp => exact .hangUp

end Effects

/-! ## What reading leaves alone -/

/-- What lines say changes neither the line nor the phase, and it neither registers a handler nor forgets one. -/
theorem act_keeps (adapter : Adapter Port) (pending : List UInt8) (readings : List Reading) :
    (adapter.act pending readings).adapter.line = adapter.line ∧
      (adapter.act pending readings).adapter.phase = adapter.phase ∧
        (adapter.act pending readings).adapter.receiver.handler.isSome = adapter.receiver.handler.isSome := by
  induction readings generalizing adapter with
  | nil => exact ⟨rfl, rfl, rfl⟩
  | cons reading readings ih =>
    cases reading with
    | refused fault => exact ih adapter
    | frame frame =>
      have hoffer := adapter.receiver.offer_handler_isSome [frame.tagged false]
      rw [act]
      rcases hpair : adapter.receiver.offer [frame.tagged false] with ⟨receiver, delivery⟩
      rw [hpair] at hoffer
      have hlater := ih { adapter with receiver := receiver }
      rw [hoffer] at hlater
      cases delivery with
      | none => exact hlater
      | some delivery =>
        dsimp only
        cases delivery.completed with
        | false => exact ⟨rfl, rfl, hoffer⟩
        | true => exact hlater

theorem receive_keeps (adapter : Adapter Port) (bytes : List UInt8) :
    (adapter.receive bytes).adapter.line = adapter.line ∧ (adapter.receive bytes).adapter.phase = adapter.phase ∧
      (adapter.receive bytes).adapter.receiver.handler.isSome = adapter.receiver.handler.isSome := by
  unfold receive
  split
  · exact ⟨rfl, rfl, rfl⟩
  · exact act_keeps { adapter with unread := [] } _ _

/-- Without a handler nothing is delivered. -/
theorem act_unattended (h : adapter.receiver.handler = none) (pending : List UInt8) (readings : List Reading) :
    (adapter.act pending readings).deliveries = [] := by
  induction readings with
  | nil => rfl
  | cons reading readings ih =>
    cases reading with
    | refused fault => exact ih
    | frame frame =>
      rw [act, Receiver.offer_of_silent (.inr h)]
      exact ih

theorem receive_unattended (h : adapter.receiver.handler = none) (bytes : List UInt8) :
    (adapter.receive bytes).deliveries = [] := by
  unfold receive
  split
  · rfl
  · have hnone : ({ adapter with unread := [] } : Adapter Port).receiver.handler = none := h
    exact act_unattended hnone _ _

/-! ## Who listens -/

/-- A handler is registered exactly while the adapter is started, and otherwise no reader runs. -/
structure Attended (adapter : Adapter Port) : Prop where
  handler_iff : adapter.receiver.handler.isSome ↔ adapter.phase = .started
  reader_eq : adapter.phase ≠ .started → adapter.reader = none

/-- Without a handler there is none to be forgotten. -/
theorem Attended.unregister_eq (h : adapter.Attended) (hphase : adapter.phase ≠ .started) :
    adapter.receiver.unregister = adapter.receiver := by
  have hnone : adapter.receiver.handler = none := Option.not_isSome_iff_eq_none.1 (hphase ∘ h.handler_iff.1)
  rw [Receiver.handler, Guarded.lock_eq] at hnone
  rw [Receiver.unregister, Guarded.set, ← hnone]

section Attended

variable [SerialPort Port]

theorem attended_of_connect {line : Except Fault Port} {bitrate : Bitrate} {slots : Nat}
    (h : connect line bitrate slots = .ok adapter) : adapter.Attended ∧ adapter.phase = .created := by
  cases line with
  | error fault =>
    unfold connect at h
    split at h <;> cases h
  | ok line =>
    obtain ⟨-, line, -, rfl⟩ := connect_eq_ok_iff.1 h
    exact ⟨⟨by simp, fun _ => rfl⟩, rfl⟩

theorem Attended.effect (h : adapter.Attended) {event : Event} {reaction : Reaction Port}
    (heffect : Effect adapter event reaction) : reaction.adapter.Attended := by
  cases heffect with
  | declined hdeclined => exact h
  | start hphase hopening noRetransmit failsAt => exact ⟨by simp, fun hne => absurd rfl hne⟩
  | startFailed hphase hopening noRetransmit failsAt => exact ⟨by simp [hphase], fun _ => rfl⟩
  | configure hphase hreceiver =>
    exact ⟨by rw [Receiver.handler_of_reconfigure hreceiver]; exact h.handler_iff, h.reader_eq⟩
  | send hphase hcheck hcourse => exact ⟨by rw [hcourse.handler_isSome]; exact h.handler_iff, h.reader_eq⟩
  | close hphase => exact ⟨by simp, fun _ => rfl⟩
  | arrive bytes =>
    obtain ⟨-, hphase, hhandler⟩ := adapter.receive_keeps bytes
    refine ⟨by rw [hphase, hhandler]; exact h.handler_iff, fun hne => ?_⟩
    -- without a reader, bytes only wait
    have hreader := h.reader_eq (hphase ▸ hne)
    simp only [receive, hreader]
  | hangUp => exact ⟨h.handler_iff, h.reader_eq⟩

end Attended

/-! ## Sessions, event by event -/

/-- One event of a session: the adapter that met it, the event, and the reaction. -/
structure Passage (Port : Type) where
  before : Adapter Port
  event : Event
  reaction : Reaction Port

/-- A start that succeeded. -/
def Passage.opens (passage : Passage Port) : Bool :=
  match passage.event, passage.reaction.reply with
  | .request (.start _ _), .done => true
  | _, _ => false

/-- A close that succeeded. -/
def Passage.closes (passage : Passage Port) : Bool :=
  match passage.event, passage.reaction.reply with
  | .request .close, .done => true
  | _, _ => false

variable [SerialPort Port]

/-- The events of a session with the adapters that met them and the reactions. -/
def session (adapter : Adapter Port) : List Event → List (Passage Port)
  | [] => []
  | event :: events => ⟨adapter, event, adapter.react event⟩ :: (adapter.react event).adapter.session events

@[simp] theorem session_nil (adapter : Adapter Port) : adapter.session [] = [] := rfl

@[simp] theorem session_cons (adapter : Adapter Port) (event : Event) (events : List Event) :
    adapter.session (event :: events) =
      ⟨adapter, event, adapter.react event⟩ :: (adapter.react event).adapter.session events := rfl

end CanBus.Slcan.Adapter
