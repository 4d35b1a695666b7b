import CanBus.Proofs.Media.Plain
import CanBus.Proofs.Network.Delivery

/-!
# A station alone on its bus — a refinement of plain adapters

A virtual network with one bus and one station on it that takes classic frames is seen as a plain adapter, as long as
no fault is armed and its handlers never fail (`Network.refines`).  A transmission there reaches nobody but the
sender.
-/

namespace CanBus

/-- The station presents a plain adapter. -/
structure Station.Presents (station : Station) (plain : Plain) : Prop where
  bus_eq : station.bus = 0
  mtu_eq : station.mtu = Plain.maxPayload
  fault_eq : station.fault = none
  phase_eq : station.phase = plain.phase
  retransmit_eq : station.retransmit = plain.retransmit
  bank_eq : station.receiver.bank = plain.bank
  reliable : plain.phase = .started → station.receiver.Reliable

theorem Station.Presents.afterCalls {station : Station} {plain : Plain} (h : station.Presents plain)
    (ds : List Delivery) : (station.afterCalls ds).Presents plain :=
  ⟨h.bus_eq, h.mtu_eq, h.fault_eq, h.phase_eq, h.retransmit_eq, h.bank_eq,
    fun hstarted => (h.reliable hstarted).afterCalls ds⟩

namespace Network

/-- The network of one bus and one station, which is on the roster until it is closed. -/
def solo (station : Station) : Network :=
  ⟨[if station.phase = .closed then [] else [⟨0, Plain.maxPayload⟩]], [some station]⟩

/-- The network of one station that presents a plain adapter. -/
def Presents (net : Network) (plain : Plain) : Prop := ∃ station, net = solo station ∧ station.Presents plain

@[simp] theorem station?_solo (station : Station) : (solo station).station? 0 = some station := rfl

theorem put_solo {station station' : Station} (h : station'.phase = .closed ↔ station.phase = .closed) :
    (solo station).put 0 station' = solo station' := by
  unfold solo
  simp only [h]
  rfl

/-- A station that closes empties the roster. -/
theorem leave_solo {station station' : Station} (hopen : station.phase ≠ .closed) (hclosed : station'.phase = .closed) :
    ((solo station).put 0 station').leave 0 0 = solo station' := by
  unfold solo
  rw [if_neg hopen, if_pos hclosed]
  rfl

/-- Nobody else hears a station that is alone. -/
theorem broadcast_solo (station : Station) (frames : List Frame) :
    (solo station).broadcast 0 0 frames = [(0, Batch.echoed frames)] := by
  have hnobody : ((solo station).members 0).filter (·.station != 0) = [] := by
    refine List.filter_eq_nil_iff.2 fun member hmember => ?_
    have hroster : member ∈ (solo station).roster 0 := (List.mem_filter.1 hmember).1
    have hzero : member.station = 0 := by
      have hsolo : member ∈ (if station.phase = .closed then [] else [(⟨0, Plain.maxPayload⟩ : Member)]) := hroster
      by_cases hclosed : station.phase = .closed
      · rw [if_pos hclosed] at hsolo
        cases hsolo
      · rw [if_neg hclosed] at hsolo
        rw [List.mem_singleton.1 hsolo]
    rw [hzero]
    decide
  rw [broadcast, hnobody]
  rfl

/-- An offer to the one station, whose handler never fails. -/
theorem delivering_solo {station : Station} (h : station.receiver.Reliable) (frames : List Frame) (value : Answer) :
    (solo station).delivering [(0, frames)] value =
      ⟨solo (station.afterCalls (Receiver.completedCalls (frames.filter station.receiver.bank.accepts))), value,
        (Receiver.completedCalls (frames.filter station.receiver.bank.accepts)).map (⟨0, ·⟩)⟩ := by
  have hsame : ∀ ds, (solo station).put 0 (station.afterCalls ds) = solo (station.afterCalls ds) :=
    fun ds => put_solo Iff.rfl
  have hoffer : (solo station).offerTo 0 frames =
      (Receiver.completedCalls (frames.filter station.receiver.bank.accepts)).head?.map fun delivery =>
        (solo (station.afterCalls (Receiver.completedCalls (frames.filter station.receiver.bank.accepts))),
          ⟨0, delivery⟩) := by
    rw [offerTo, station?_solo, Option.bind_some, h.offer, ← hsame]
    rfl
  rw [delivering, deliver, hoffer]
  unfold Receiver.completedCalls
  by_cases hbatch : frames.filter station.receiver.bank.accepts = []
  · rw [if_pos hbatch, Station.afterCalls_nil]
    rfl
  · rw [if_neg hbatch]
    rfl

/-- What the handler of the one station hears in an offer. -/
theorem heard_completedCalls (batch : List Frame) :
    (((Receiver.completedCalls batch).map fun delivery => (⟨0, delivery⟩ : Call)).filter (·.station == 0)).flatMap
      (·.delivery.batch) = batch := by
  have hall : ∀ call ∈ (Receiver.completedCalls batch).map fun delivery => (⟨0, delivery⟩ : Call),
      (call.station == 0) = true := by
    intro call hcall
    obtain ⟨delivery, -, rfl⟩ := List.mem_map.1 hcall
    rfl
  rw [List.filter_eq_self.2 hall, List.flatMap_map]
  exact Receiver.flatMap_completedCalls batch

/-! ## Happenings -/

variable {station : Station} {plain : Plain}

/-- A reaction of the one station is observed as what a plain adapter shows. -/
theorem meet_of_reaction {happening : Happening} {station' : Station} {plain' : Plain} {answer : Answer}
    {calls : List Call} (h : station'.Presents plain')
    (hreaction : (solo station).apply (operationFor happening) = ⟨solo station', answer, calls⟩) :
    ((solo station).meet happening).2 =
        (plain'.showing answer ((calls.filter (·.station == 0)).flatMap (·.delivery.batch))).2 ∧
      Presents ((solo station).meet happening).1
        (plain'.showing answer ((calls.filter (·.station == 0)).flatMap (·.delivery.batch))).1 := by
  rw [meet, hreaction]
  refine ⟨?_, station', rfl, h⟩
  show (⟨answer, some station'.retransmit, _⟩ : Observation) = ⟨answer, some plain'.retransmit, _⟩
  rw [h.retransmit_eq]

theorem meet_start (h : station.Presents plain) (noRetransmit : Bool) :
    ((solo station).meet (.request (.start noRetransmit []))).2 =
        (plain.meet (.request (.start noRetransmit []))).2 ∧
      Presents ((solo station).meet (.request (.start noRetransmit []))).1
        (plain.meet (.request (.start noRetransmit []))).1 := by
  have hstart : (solo station).apply (operationFor (.request (.start noRetransmit []))) =
      (solo station).start 0 station noRetransmit [] := rfl
  rcases plain.meet_start noRetransmit [] with ⟨hne, hshown⟩ | ⟨hcreated, hshown⟩
  · rw [start, h.phase_eq, Phase.start_of_ne hne] at hstart
    rw [hshown]
    exact meet_of_reaction h hstart
  · let begun : Station :=
      { station with phase := .started, retransmit := !noRetransmit, receiver := station.receiver.register [] }
    have hphase : station.phase = .created := h.phase_eq.trans hcreated
    have hput : (solo station).put 0 begun = solo begun := put_solo (by simp [begun, hphase])
    have hbegun : begun.Presents { plain with phase := .started, retransmit := !noRetransmit } :=
      ⟨h.bus_eq, h.mtu_eq, h.fault_eq, rfl, rfl, h.bank_eq, fun _ => station.receiver.reliable_register⟩
    rw [start, Phase.start_eq_ok_iff.2 ⟨hphase, rfl⟩] at hstart
    rw [hshown]
    exact meet_of_reaction hbegun (hstart.trans (congrArg (·.quiet .done) hput))

theorem meet_configure (h : station.Presents plain) (filters : List Filter) :
    ((solo station).meet (.request (.configure filters))).2 = (plain.meet (.request (.configure filters))).2 ∧
      Presents ((solo station).meet (.request (.configure filters))).1
        (plain.meet (.request (.configure filters))).1 := by
  have hconfigure : (solo station).apply (operationFor (.request (.configure filters))) =
      (solo station).configure 0 station filters := rfl
  have hphase : station.phase.requireStarted = plain.phase.requireStarted := by rw [h.phase_eq]
  rw [configure, hphase] at hconfigure
  rcases plain.meet_configure h.bank_eq filters with
    ⟨hne, hshown⟩ | ⟨hstarted, ⟨fault, hreceiver, hshown⟩ | ⟨receiver, hreceiver, hshown⟩⟩
  · rw [Phase.requireStarted_of_ne hne] at hconfigure
    rw [hshown]
    exact meet_of_reaction h hconfigure
  · rw [Phase.requireStarted_eq_ok_iff.2 hstarted] at hconfigure
    dsimp only at hconfigure
    rw [hreceiver] at hconfigure
    rw [hshown]
    exact meet_of_reaction h hconfigure
  · have hput : (solo station).put 0 { station with receiver := receiver } =
        solo { station with receiver := receiver } := put_solo Iff.rfl
    have hpresents : { station with receiver := receiver : Station }.Presents { plain with bank := receiver.bank } :=
      ⟨h.bus_eq, h.mtu_eq, h.fault_eq, h.phase_eq, h.retransmit_eq, rfl,
        fun hstarted => (h.reliable hstarted).reconfigure hreceiver⟩
    rw [Phase.requireStarted_eq_ok_iff.2 hstarted] at hconfigure
    dsimp only at hconfigure
    rw [hreceiver] at hconfigure
    rw [hshown]
    exact meet_of_reaction hpresents (hconfigure.trans (congrArg (·.quiet .done) hput))

theorem meet_close (h : station.Presents plain) :
    ((solo station).meet (.request .close)).2 = (plain.meet (.request .close)).2 ∧
      Presents ((solo station).meet (.request .close)).1 (plain.meet (.request .close)).1 := by
  have hclose : (solo station).apply (operationFor (.request .close)) = (solo station).close 0 station := rfl
  rcases plain.meet_close with ⟨hclosed, hshown⟩ | ⟨hopen, hshown⟩
  · rw [close, h.phase_eq, hclosed] at hclose
    rw [hshown]
    exact meet_of_reaction h hclose
  · let ended : Station := { station with phase := .closed, receiver := station.receiver.unregister }
    have hphase : station.phase ≠ .closed := fun hclosed => hopen (h.phase_eq.symm.trans hclosed)
    have hleave : ((solo station).put 0 ended).leave station.bus 0 = solo ended := by
      rw [h.bus_eq]
      exact leave_solo hphase rfl
    have hended : ended.Presents { plain with phase := .closed } :=
      ⟨h.bus_eq, h.mtu_eq, h.fault_eq, rfl, h.retransmit_eq, h.bank_eq, nofun⟩
    rw [close, Phase.close_eq_ok_iff.2 ⟨hphase, rfl⟩] at hclose
    rw [hshown]
    exact meet_of_reaction hended (hclose.trans (congrArg (·.quiet .done) hleave))

theorem meet_send (h : station.Presents plain) (frames : List Frame) (inTime : Nat) :
    ((solo station).meet (.request (.send frames inTime))).2 = (plain.meet (.request (.send frames inTime))).2 ∧
      Presents ((solo station).meet (.request (.send frames inTime))).1
        (plain.meet (.request (.send frames inTime))).1 := by
  rw [Plain.meet]
  cases htakes : takesOn plain.phase frames Plain.maxPayload with
  | error fault =>
    have hreaction : (solo station).apply (operationFor (.request (.send frames inTime))) =
        ⟨solo station, .refused fault, []⟩ := by
      show (solo station).send 0 station frames = _
      by_cases hstarted : plain.phase = .started
      · rw [hstarted] at htakes
        have hcheck : Batch.check frames Plain.maxPayload = .error fault := htakes
        rw [send, h.phase_eq, hstarted, h.fault_eq, h.mtu_eq]
        dsimp only [Phase.requireStarted]
        rw [hcheck]
        rfl
      · rw [takesOn, Phase.requireStarted_of_ne hstarted] at htakes
        cases htakes
        rw [send, h.phase_eq, Phase.requireStarted_of_ne hstarted]
        rfl
    exact meet_of_reaction h hreaction
  | ok _ =>
    obtain ⟨hstarted, hcheck⟩ := takesOn_eq_ok_iff.1 htakes
    have hreaction : (solo station).apply (operationFor (.request (.send frames inTime))) =
        (solo station).delivering [(0, Batch.echoed frames)] (.sent frames.length) := by
      show (solo station).send 0 station frames = _
      rw [send, h.phase_eq, hstarted, h.fault_eq, h.mtu_eq, h.bus_eq]
      dsimp only [Phase.requireStarted]
      rw [hcheck, broadcast_solo]
    rw [delivering_solo (h.reliable hstarted)] at hreaction
    have hmeet := meet_of_reaction (h.afterCalls _) hreaction
    rw [heard_completedCalls, h.bank_eq] at hmeet
    exact hmeet

theorem meet_arrival (h : station.Presents plain) {frame : Frame}
    (hallowed : Happening.Allowed plain.phase (.arrival frame)) :
    ((solo station).meet (.arrival frame)).2 = (plain.meet (.arrival frame)).2 ∧
      Presents ((solo station).meet (.arrival frame)).1 (plain.meet (.arrival frame)).1 := by
  obtain ⟨hstarted, -⟩ := hallowed
  have hreaction : (solo station).apply (operationFor (.arrival frame)) =
      (solo station).delivering [(0, [frame.tagged false])] .done := by
    show (solo station).inject 0 station [frame.tagged false] = _
    rw [inject, h.phase_eq, hstarted]
    rfl
  rw [delivering_solo (h.reliable hstarted)] at hreaction
  have hmeet := meet_of_reaction (h.afterCalls _) hreaction
  rw [heard_completedCalls, h.bank_eq] at hmeet
  exact hmeet

/-- A station alone on its bus is seen as a plain adapter. -/
theorem refines : Refines meet Presents := by
  rintro net plain happening ⟨station, rfl, h⟩ hallowed
  cases happening with
  | arrival frame => exact meet_arrival h hallowed
  | request request =>
    cases request with
    | start noRetransmit failsAt =>
      obtain rfl : failsAt = [] := hallowed
      exact meet_start h noRetransmit
    | configure filters => exact meet_configure h filters
    | send frames inTime => exact meet_send h frames inTime
    | close => exact meet_close h

end Network

end CanBus
