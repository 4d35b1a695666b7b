import CanBus.Network.Operation
import CanBus.Slcan.Session
import CanBus.SocketCan.Session

/-!
# Plain adapters — what every kind of adapter amounts to

A user sees of an adapter how it answers, whether it retransmits and what it hands to the handler.  A plain adapter
has a phase, a flag and a bank, and nothing else.  A kind of adapter refines it if its states present plain adapters
and every happening keeps it so with the same observation (`Refines`); then a whole run is observed alike
(`Refines.observations_eq`).
-/

namespace CanBus

/-! ## Happenings -/

/-- What happens to an adapter: a request of its user, or a frame that arrives from outside. -/
inductive Happening where
  | request (request : Request)
  | arrival (frame : Frame)
  deriving DecidableEq

/-- What a user sees of a happening: the answer, whether the adapter retransmits afterwards, and the frames that the
handler got. -/
structure Observation where
  answer : Network.Answer
  retransmit : Option Bool
  heard : List Frame
  deriving DecidableEq

/-- The reply as an answer. -/
def Reply.answer : Reply → Network.Answer
  | .done => .done
  | .sent count => .sent count
  | .refused fault => .refused fault
  | .handlerFailed => .handlerFailed

/-- What is seen of happenings, one after the other. -/
def observations {σ : Type} (meet : σ → Happening → σ × Observation) (state : σ) : List Happening → List Observation
  | [] => []
  | happening :: rest => (meet state happening).2 :: observations meet (meet state happening).1 rest

/-! ## The kinds of adapters -/

/-- An SLCAN adapter: a frame arrives as its line. -/
def Slcan.Adapter.meet {Port : Type} [SerialPort Port] (adapter : Adapter Port) :
    Happening → Adapter Port × Observation
  | .request request =>
    let reaction := adapter.respond request
    (reaction.adapter,
      ⟨reaction.reply.answer, some reaction.adapter.retransmit, reaction.deliveries.flatMap (·.batch)⟩)
  | .arrival frame =>
    match Line.encode frame with
    | .error fault => (adapter, ⟨.refused fault, some adapter.retransmit, []⟩)
    | .ok bytes =>
      let reception := adapter.receive bytes
      (reception.adapter, ⟨.done, some reception.adapter.retransmit, reception.deliveries.flatMap (·.batch)⟩)

/-- An adapter on a kernel socket: a frame arrives as its kernel frame. -/
def SocketCan.Adapter.meet (adapter : Adapter) : Happening → Adapter × Observation
  | .request request =>
    let reaction := adapter.respond request
    (reaction.adapter,
      ⟨reaction.reply.answer, some reaction.adapter.retransmit, reaction.deliveries.flatMap (·.batch)⟩)
  | .arrival frame =>
    match KernelFrame.ofFrame frame with
    | .error fault => (adapter, ⟨.refused fault, some adapter.retransmit, []⟩)
    | .ok kernel =>
      let reception := adapter.receive [kernel]
      (reception.adapter, ⟨.done, some reception.adapter.retransmit, reception.deliveries.flatMap (·.batch)⟩)

namespace Network

/-- The happening as an operation on station 0; a frame that arrives is injected. -/
def operationFor : Happening → Operation
  | .request (.start noRetransmit failsAt) => .start 0 noRetransmit failsAt
  | .request (.configure filters) => .configure 0 filters
  | .request (.send frames _) => .send 0 frames
  | .request .close => .close 0
  | .arrival frame => .inject 0 [frame.tagged false]

/-- Station 0 of a virtual network. -/
def meet (net : Network) (happening : Happening) : Network × Observation :=
  let reaction := net.apply (operationFor happening)
  (reaction.net,
    ⟨reaction.answer, (reaction.net.station? 0).map (·.retransmit),
      (reaction.calls.filter (·.station == 0)).flatMap (·.delivery.batch)⟩)

end Network

/-! ## Plain adapters -/

/-- A phase, whether to retransmit, and a bank. -/
structure Plain where
  phase : Phase
  retransmit : Bool
  bank : Bank

namespace Plain

/-- The longest payload, that of a classic frame. -/
def maxPayload : Nat := 8

/-- The plain adapter with what a user sees of it. -/
def showing (plain : Plain) (answer : Network.Answer) (heard : List Frame) : Plain × Observation :=
  (plain, ⟨answer, some plain.retransmit, heard⟩)

def meet (plain : Plain) : Happening → Plain × Observation
  | .request (.start noRetransmit _) =>
    match plain.phase.start with
    | .error fault => plain.showing (.refused fault) []
    | .ok phase => { plain with phase := phase, retransmit := !noRetransmit }.showing .done []
  | .request (.configure filters) =>
    match plain.phase.requireStarted with
    | .error fault => plain.showing (.refused fault) []
    | .ok () =>
      match plain.bank.reconfigure filters with
      | .error fault => plain.showing (.refused fault) []
      | .ok bank => { plain with bank := bank }.showing .done []
  | .request (.send frames _) =>
    match takesOn plain.phase frames maxPayload with
    | .error fault => plain.showing (.refused fault) []
    | .ok () => plain.showing (.sent frames.length) ((Batch.echoed frames).filter plain.bank.accepts)
  | .request .close =>
    match plain.phase.close with
    | .error fault => plain.showing (.refused fault) []
    | .ok phase => { plain with phase := phase }.showing .done []
  | .arrival frame => plain.showing .done ([frame.tagged false].filter plain.bank.accepts)

end Plain

/-! ## Allowed runs -/

namespace Happening

/-- No handler is registered that may fail, the time of a transmission does not run out, and frames that a classic
line carries arrive at started adapters only. -/
def Allowed (phase : Phase) : Happening → Prop
  | .request (.start _ failsAt) => failsAt = []
  | .request (.send frames inTime) => frames.length ≤ inTime
  | .request _ => True
  | .arrival frame => phase = .started ∧ frame.payload.length ≤ Plain.maxPayload

/-- The phase of an adapter after a happening. -/
def phaseAfter (phase : Phase) : Happening → Phase
  | .request (.start ..) => phase.start.toOption.getD phase
  | .request .close => phase.close.toOption.getD phase
  | _ => phase

/-- Happenings that are allowed one after the other. -/
def AllAllowed (phase : Phase) : List Happening → Prop
  | [] => True
  | happening :: rest => happening.Allowed phase ∧ AllAllowed (happening.phaseAfter phase) rest

end Happening

theorem Plain.phase_meet (plain : Plain) (happening : Happening) :
    (plain.meet happening).1.phase = happening.phaseAfter plain.phase := by
  cases happening with
  | arrival frame => rfl
  | request request =>
    cases request with
    | start noRetransmit failsAt =>
      rw [meet, Happening.phaseAfter]
      cases plain.phase.start <;> rfl
    | close =>
      rw [meet, Happening.phaseAfter]
      cases plain.phase.close <;> rfl
    | configure filters =>
      rw [meet]
      cases plain.phase.requireStarted with
      | error fault => rfl
      | ok _ => cases plain.bank.reconfigure filters <;> rfl
    | send frames inTime =>
      rw [meet]
      cases takesOn plain.phase frames maxPayload <;> rfl

/-! ## Refinement -/

/-- States that present a plain adapter go on presenting one through every allowed happening, and it is observed
alike. -/
def Refines {σ : Type} (meet : σ → Happening → σ × Observation) (Presents : σ → Plain → Prop) : Prop :=
  ∀ {state plain happening}, Presents state plain → happening.Allowed plain.phase →
    (meet state happening).2 = (plain.meet happening).2 ∧ Presents (meet state happening).1 (plain.meet happening).1

/-- **A refinement is observed like the plain adapter**, over every allowed run. -/
theorem Refines.observations_eq {σ : Type} {meet : σ → Happening → σ × Observation} {Presents : σ → Plain → Prop}
    (h : Refines meet Presents) {state : σ} {plain : Plain} (hstate : Presents state plain)
    {happenings : List Happening} (hallowed : Happening.AllAllowed plain.phase happenings) :
    observations meet state happenings = observations Plain.meet plain happenings := by
  induction happenings generalizing state plain with
  | nil => rfl
  | cons happening rest ih =>
    obtain ⟨hfirst, hrest⟩ := hallowed
    obtain ⟨hseen, hnext⟩ := h hstate hfirst
    rw [← plain.phase_meet happening] at hrest
    rw [observations, observations, hseen, ih hnext hrest]

/-- A request with this result is shown by a plain adapter in the same way: with the same answer, and as a plain adapter
that the state afterwards presents. -/
def Agrees {σ : Type} (Presents : σ → Plain → Prop) (result : σ × Option Fault) (shown : Plain × Observation) : Prop :=
  ∃ plain, shown = plain.showing (Reply.ofFault? result.2).answer [] ∧ Presents result.1 plain

theorem Agrees.settled {σ : Type} {Presents : σ → Plain → Prop} {result : σ × Option Fault}
    {shown : Plain × Observation} (h : Agrees Presents result shown) {retransmit : σ → Bool}
    (hretransmit : ∀ {state plain}, Presents state plain → retransmit state = plain.retransmit) :
    (⟨(Reply.ofFault? result.2).answer, some (retransmit result.1), []⟩ : Observation) = shown.2 ∧
      Presents result.1 shown.1 := by
  obtain ⟨plain, rfl, hpresents⟩ := h
  refine ⟨?_, hpresents⟩
  rw [hretransmit hpresents]
  rfl

namespace Plain

variable (plain : Plain)

/-! ### What a plain adapter makes of requests -/

theorem meet_start (noRetransmit : Bool) (failsAt : List Nat) :
    plain.phase ≠ .created ∧
        plain.meet (.request (.start noRetransmit failsAt)) = plain.showing (.refused .closed) [] ∨
      plain.phase = .created ∧ plain.meet (.request (.start noRetransmit failsAt)) =
        { plain with phase := .started, retransmit := !noRetransmit }.showing .done [] := by
  by_cases h : plain.phase = .created
  · exact .inr ⟨h, by rw [meet, h]; rfl⟩
  · exact .inl ⟨h, by rw [meet, Phase.start_of_ne h]⟩

/-- A plain adapter is reconfigured like a receiver with the same bank. -/
theorem meet_configure {receiver : Receiver} (hbank : receiver.bank = plain.bank) (filters : List Filter) :
    plain.phase ≠ .started ∧ plain.meet (.request (.configure filters)) = plain.showing (.refused .closed) [] ∨
      plain.phase = .started ∧
        ((∃ fault, receiver.reconfigure filters = .error fault ∧
            plain.meet (.request (.configure filters)) = plain.showing (.refused fault) []) ∨
          ∃ receiver', receiver.reconfigure filters = .ok receiver' ∧
            plain.meet (.request (.configure filters)) = { plain with bank := receiver'.bank }.showing .done []) := by
  by_cases h : plain.phase = .started
  · rw [meet, h, Receiver.reconfigure, hbank]
    refine .inr ⟨rfl, ?_⟩
    cases plain.bank.reconfigure filters with
    | error fault => exact .inl ⟨fault, rfl, rfl⟩
    | ok bank => exact .inr ⟨_, rfl, rfl⟩
  · exact .inl ⟨h, by rw [meet, Phase.requireStarted_of_ne h]⟩

theorem meet_close :
    plain.phase = .closed ∧ plain.meet (.request .close) = plain.showing (.refused .closed) [] ∨
      plain.phase ≠ .closed ∧ plain.meet (.request .close) = { plain with phase := .closed }.showing .done [] := by
  by_cases h : plain.phase = .closed
  · exact .inl ⟨h, by rw [meet, h]; rfl⟩
  · exact .inr ⟨h, by rw [meet, Phase.close_eq_ok_iff.2 ⟨h, rfl⟩]⟩

end Plain

end CanBus
