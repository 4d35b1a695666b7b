import CanBus.Proofs.Media.Refused
import CanBus.Proofs.Network.Containment
import CanBus.Proofs.Network.History
import Mathlib.Data.List.DropRight

/-!
# Armed faults — met once, and by nothing but a transmission

Arming a station and a transmission of the station while it is started are the only operations that have to do with its
fault: every other one reacts as it does under any other fault of the station (`apply_rearmed`).  So what a station has
armed is told by the armings since its last attempt to transmit (`Remembers.fault_eq`), and a transmission meets the
last of them or goes by the rules of the batch (`fault_met_once`).
-/

namespace CanBus

/-- Station `p` with this fault armed, if it is station `n`. -/
def Station.rearmed (station : Station) (n p : Nat) (fault : Option Fault) : Station :=
  if p = n then { station with fault := fault } else station

namespace Station

variable (station : Station) (n p : Nat) (fault : Option Fault)

@[simp] theorem rearmed_self : station.rearmed n n fault = { station with fault := fault } := if_pos rfl

theorem rearmed_of_ne {p n : Nat} (h : p ≠ n) : station.rearmed n p fault = station := if_neg h

@[simp] theorem rearmed_bus : (station.rearmed n p fault).bus = station.bus := by
  unfold rearmed
  split <;> rfl

@[simp] theorem rearmed_mtu : (station.rearmed n p fault).mtu = station.mtu := by
  unfold rearmed
  split <;> rfl

@[simp] theorem rearmed_phase : (station.rearmed n p fault).phase = station.phase := by
  unfold rearmed
  split <;> rfl

@[simp] theorem rearmed_receiver : (station.rearmed n p fault).receiver = station.receiver := by
  unfold rearmed
  split <;> rfl

/-- What is done to a station without regard to its fault. -/
theorem rearmed_update (f : Station → Station)
    (hf : ∀ (station : Station) (fault : Option Fault),
      f { station with fault := fault } = { f station with fault := fault }) :
    (f station).rearmed n p fault = f (station.rearmed n p fault) := by
  unfold rearmed
  split
  · exact (hf station fault).symm
  · rfl

end Station

namespace Network

variable {net : Network} {n : Nat} {fault : Option Fault}

/-- The network with this fault armed at station `n`, or with none armed. -/
def rearmed (net : Network) (n : Nat) (fault : Option Fault) : Network :=
  { net with stations := net.stations.modify n (·.map ({ · with fault := fault })) }

/-! ## Networks with another fault armed -/

theorem ext_station? {net net' : Network} (hrosters : net.rosters = net'.rosters)
    (hlength : net.stations.length = net'.stations.length) (hstation : ∀ p, net.station? p = net'.station? p) :
    net = net' := by
  have hstations : net.stations = net'.stations := by
    refine List.ext_getElem hlength fun p hp hp' => ?_
    have hjoin := hstation p
    rwa [station?, station?, List.getElem?_eq_getElem hp, List.getElem?_eq_getElem hp', Option.join_some,
      Option.join_some] at hjoin
  cases net
  cases net'
  exact congr (congrArg Network.mk hrosters) hstations

@[simp] theorem rosters_rearmed (net : Network) (n : Nat) (fault : Option Fault) :
    (net.rearmed n fault).rosters = net.rosters := rfl

@[simp] theorem length_stations_rearmed (net : Network) (n : Nat) (fault : Option Fault) :
    (net.rearmed n fault).stations.length = net.stations.length := List.length_modify ..

theorem station?_rearmed (net : Network) (n : Nat) (fault : Option Fault) (p : Nat) :
    (net.rearmed n fault).station? p = (net.station? p).map (·.rearmed n p fault) := by
  unfold station? rearmed
  rw [List.getElem?_modify]
  cases net.stations[p]? with
  | none => simp
  | some station =>
    by_cases hp : p = n
    · subst hp
      cases station <;> simp
    · cases station <;> simp [Ne.symm hp, Station.rearmed_of_ne _ _ hp]

@[simp] theorem isLive_rearmed (net : Network) (n : Nat) (fault : Option Fault) :
    (net.rearmed n fault).isLive = net.isLive := by
  funext member
  rw [isLive, isLive, station?_rearmed, Option.isSome_map]

theorem rearmed_self {station : Station} (h : net.station? n = some station) : net.rearmed n station.fault = net := by
  refine ext_station? rfl (length_stations_rearmed ..) fun p => ?_
  rw [station?_rearmed]
  by_cases hp : p = n
  · subst hp
    rw [h, Option.map_some, Station.rearmed_self]
  · cases net.station? p with
    | none => rfl
    | some other => rw [Option.map_some, Station.rearmed_of_ne _ _ hp]

theorem rearmed_put {p : Nat} (hp : p < net.stations.length) (station : Station) :
    (net.put p station).rearmed n fault = (net.rearmed n fault).put p (station.rearmed n p fault) := by
  refine ext_station? rfl (by simp) fun q => ?_
  by_cases hq : q = p
  · subst hq
    rw [station?_rearmed, station?_put_self hp, station?_put_self (by simpa using hp), Option.map_some]
  · rw [station?_rearmed, station?_put_of_ne hq, station?_put_of_ne hq, station?_rearmed]

/-- A station to which something is done without regard to its fault. -/
theorem put_rearmed {p : Nat} {station : Station} (h : net.station? p = some station) (f : Station → Station)
    (hf : ∀ (station : Station) (fault : Option Fault),
      f { station with fault := fault } = { f station with fault := fault }) :
    (net.rearmed n fault).put p (f (station.rearmed n p fault)) = (net.put p (f station)).rearmed n fault := by
  rw [rearmed_put (lt_of_station? h), Station.rearmed_update station n p fault f hf]

theorem put_receiver_rearmed {p : Nat} {station : Station} (h : net.station? p = some station) (receiver : Receiver) :
    (net.rearmed n fault).put p { station.rearmed n p fault with receiver := receiver } =
      (net.put p { station with receiver := receiver }).rearmed n fault :=
  put_rearmed h ({ · with receiver := receiver }) fun _ _ => rfl

theorem rearmed_discard (net : Network) (p : Nat) :
    (net.discard p).rearmed n fault = (net.rearmed n fault).discard p := by
  refine ext_station? rfl (by simp) fun q => ?_
  by_cases hq : q = p
  · subst hq
    rw [station?_rearmed, station?_discard_self, station?_discard_self, Option.map_none]
  · rw [station?_rearmed, station?_discard_of_ne hq, station?_discard_of_ne hq, station?_rearmed]

theorem rearmed_leave (net : Network) (bus p : Nat) :
    (net.leave bus p).rearmed n fault = (net.rearmed n fault).leave bus p := by
  unfold leave
  rw [isLive_rearmed]
  rfl

/-- A station that is made later is another one. -/
theorem rearmed_enrol (hn : n < net.stations.length) (bus mtu slots : Nat) :
    (net.enrol bus mtu slots).rearmed n fault = (net.rearmed n fault).enrol bus mtu slots := by
  refine ext_station? ?_ (by simp [enrol]) fun p => ?_
  · simp [enrol]
  · rw [station?_rearmed, station?_enrol, station?_enrol, station?_rearmed, length_stations_rearmed]
    by_cases hp : p = net.stations.length
    · rw [if_pos hp, if_pos hp, Option.map_some, Station.rearmed_of_ne _ _ (by omega)]
    · rw [if_neg hp, if_neg hp]

/-! ## Reactions under another fault -/

theorem offerTo_rearmed (net : Network) (n : Nat) (fault : Option Fault) (p : Nat) (frames : List Frame) :
    (net.rearmed n fault).offerTo p frames =
      (net.offerTo p frames).map fun made => (made.1.rearmed n fault, made.2) := by
  unfold offerTo
  rw [station?_rearmed]
  cases hstation : net.station? p with
  | none => rfl
  | some station =>
    rw [Option.map_some, Option.bind_some, Option.bind_some, Station.rearmed_receiver]
    rcases station.receiver.offer frames with ⟨receiver, _ | delivery⟩
    · rfl
    · exact congrArg (fun next => some (next, (⟨p, delivery⟩ : Call))) (put_receiver_rearmed hstation receiver)

/-- Deliveries have nothing to do with any fault. -/
theorem deliver_rearmed (net : Network) (offers : List (Nat × List Frame)) :
    (net.rearmed n fault).deliver offers = ((net.deliver offers).1.rearmed n fault, (net.deliver offers).2) := by
  induction offers generalizing net with
  | nil => rfl
  | cons offer rest ih =>
    obtain ⟨p, frames⟩ := offer
    have hoffer := offerTo_rearmed net n fault p frames
    cases hmade : net.offerTo p frames with
    | none =>
      rw [hmade, Option.map_none] at hoffer
      rw [deliver_cons_of_none hoffer, deliver_cons_of_none hmade, ih]
    | some made =>
      obtain ⟨next, call⟩ := made
      rw [hmade, Option.map_some] at hoffer
      cases hdone : call.delivery.completed with
      | false => rw [deliver_cons_of_failed hoffer hdone, deliver_cons_of_failed hmade hdone]
      | true => rw [deliver_cons_of_completed hoffer hdone, deliver_cons_of_completed hmade hdone, ih]

/-- The reaction with this fault armed at station `n` afterwards. -/
def Reaction.rearmed (reaction : Reaction) (n : Nat) (fault : Option Fault) : Reaction :=
  { reaction with net := reaction.net.rearmed n fault }

theorem quiet_rearmed (net : Network) (answer : Answer) :
    (net.rearmed n fault).quiet answer = (net.quiet answer).rearmed n fault := rfl

theorem delivering_rearmed (net : Network) (offers : List (Nat × List Frame)) (value : Answer) :
    (net.rearmed n fault).delivering offers value = (net.delivering offers value).rearmed n fault := by
  unfold delivering
  rw [deliver_rearmed]
  rfl

theorem broadcast_rearmed (net : Network) (n : Nat) (fault : Option Fault) :
    (net.rearmed n fault).broadcast = net.broadcast := by
  funext p bus frames
  rw [broadcast, broadcast, members, members, isLive_rearmed]
  rfl

theorem withStation_rearmed {p : Nat} {act act' : Station → Reaction}
    (hact : ∀ station, net.station? p = some station →
      act' (station.rearmed n p fault) = (act station).rearmed n fault) :
    (net.rearmed n fault).withStation p act' = (net.withStation p act).rearmed n fault := by
  unfold withStation
  rw [station?_rearmed]
  cases hstation : net.station? p with
  | none => rfl
  | some station => exact hact station hstation

section Operations

variable {p : Nat} {station : Station} (h : net.station? p = some station)

include h

theorem start_rearmed (noRetransmit : Bool) (failsAt : List Nat) :
    (net.rearmed n fault).start p (station.rearmed n p fault) noRetransmit failsAt =
      (net.start p station noRetransmit failsAt).rearmed n fault := by
  unfold start
  rw [Station.rearmed_phase]
  cases station.phase.start with
  | error met => rfl
  | ok phase =>
    let f (station : Station) : Station :=
      { station with phase := phase, retransmit := !noRetransmit, receiver := station.receiver.register failsAt }
    exact congrArg (·.quiet .done) (put_rearmed h f fun _ _ => rfl)

theorem configure_rearmed (filters : List Filter) :
    (net.rearmed n fault).configure p (station.rearmed n p fault) filters =
      (net.configure p station filters).rearmed n fault := by
  have hphase : (station.rearmed n p fault).phase.requireStarted = station.phase.requireStarted := by
    rw [Station.rearmed_phase]
  unfold configure
  rw [hphase, Station.rearmed_receiver]
  cases station.phase.requireStarted with
  | error met => rfl
  | ok _ =>
    cases station.receiver.reconfigure filters with
    | error met => rfl
    | ok receiver =>
      exact congrArg (·.quiet .done) (put_receiver_rearmed h receiver)

omit h in
theorem inject_rearmed (frames : List Frame) :
    (net.rearmed n fault).inject p (station.rearmed n p fault) frames =
      (net.inject p station frames).rearmed n fault := by
  unfold inject
  rw [Station.rearmed_phase]
  cases station.phase.requireStarted with
  | error met => rfl
  | ok _ => exact delivering_rearmed net _ _

theorem close_rearmed :
    (net.rearmed n fault).close p (station.rearmed n p fault) = (net.close p station).rearmed n fault := by
  have hphase : (station.rearmed n p fault).phase.close = station.phase.close := by rw [Station.rearmed_phase]
  unfold close
  rw [hphase]
  cases station.phase.close with
  | error met => rfl
  | ok phase =>
    let f (station : Station) : Station :=
      { station with phase := phase, receiver := station.receiver.unregister }
    have hput : (net.rearmed n fault).put p (f (station.rearmed n p fault)) = (net.put p (f station)).rearmed n fault :=
      put_rearmed h f fun _ _ => rfl
    show (((net.rearmed n fault).put p (f (station.rearmed n p fault))).leave
      (station.rearmed n p fault).bus p).quiet .done = _
    rw [hput, Station.rearmed_bus, ← rearmed_leave]
    rfl

theorem pop_rearmed :
    (net.rearmed n fault).pop p (station.rearmed n p fault) = (net.pop p station).rearmed n fault := by
  unfold pop
  rw [Station.rearmed_receiver]
  cases station.receiver.pop with
  | error met => rfl
  | ok taken =>
    exact congrArg (·.quiet (.popped taken.1)) (put_receiver_rearmed h taken.2)

end Operations

/-- A transmission of another station, or of one that is not started. -/
theorem send_rearmed {p : Nat} {station : Station} (h : net.station? p = some station)
    (hidle : p = n → station.phase ≠ .started) (frames : List Frame) :
    (net.rearmed n fault).send p (station.rearmed n p fault) frames =
      (net.send p station frames).rearmed n fault := by
  unfold send
  rw [Station.rearmed_phase, Station.rearmed_mtu, Station.rearmed_bus, broadcast_rearmed]
  by_cases hphase : station.phase = .started
  · have hp : p ≠ n := fun hp => hidle hp hphase
    rw [Phase.requireStarted_eq_ok_iff.2 hphase, Station.rearmed_of_ne _ _ hp]
    dsimp only
    cases station.fault with
    | some met =>
      dsimp only
      rw [← quiet_rearmed, rearmed_put (lt_of_station? h), Station.rearmed_of_ne _ _ hp]
    | none =>
      dsimp only
      cases Batch.check frames station.mtu with
      | error fault => rfl
      | ok _ => exact delivering_rearmed net _ _
  · rw [Phase.requireStarted_of_ne hphase]
    rfl

theorem join_rearmed (hn : n < net.stations.length) (bus mtu slots : Nat) :
    (net.rearmed n fault).apply (.join bus mtu slots) = (net.apply (.join bus mtu slots)).rearmed n fault := by
  have hrosters : net.rosters.length = (net.rearmed n fault).rosters.length := rfl
  rcases apply_join_cases hrosters (length_stations_rearmed net n fault).symm bus mtu slots with
    ⟨answer, hnet, hrearmed⟩ | ⟨answer, hnet, hrearmed⟩
  · rw [hnet, hrearmed, quiet_rearmed]
  · rw [hnet, hrearmed, ← rearmed_enrol hn, quiet_rearmed]

/-! ## Attempts -/

/-- The operation is a transmission of station `n`, which is started. -/
def attempts (net : Network) (n : Nat) : Operation → Bool
  | .send p _ => p == n && (net.station? n).any (·.phase == .started)
  | _ => false

theorem attempts_eq_true_iff {op : Operation} :
    net.attempts n op = true ↔ ∃ frames station, op = .send n frames ∧ net.station? n = some station ∧
      station.phase = .started := by
  cases op with
  | send p frames =>
    simp only [attempts, Bool.and_eq_true, beq_iff_eq, Option.any_eq_true]
    constructor
    · rintro ⟨rfl, station, h, hphase⟩
      exact ⟨frames, station, rfl, h, hphase⟩
    · rintro ⟨_, station, hop, h, hphase⟩
      cases hop
      exact ⟨rfl, station, h, hphase⟩
  | _ => simp [attempts]

/-- **Nothing else** than arming a station and its attempts to transmit has to do with its fault: another operation has
the same answer and makes the same calls whatever fault is armed, and leaves it armed. -/
theorem apply_rearmed (hn : n < net.stations.length) {op : Operation} (hattempts : net.attempts n op = false)
    (harm : ∀ fault, op ≠ .arm n fault) (fault : Option Fault) :
    (net.rearmed n fault).apply op = (net.apply op).rearmed n fault := by
  cases op with
  | addBus => rfl
  | join bus mtu slots => exact join_rearmed hn bus mtu slots
  | start p noRetransmit failsAt => exact withStation_rearmed fun _ h => start_rearmed h noRetransmit failsAt
  | configure p filters => exact withStation_rearmed fun _ h => configure_rearmed h filters
  | inject p frames => exact withStation_rearmed fun _ _ => inject_rearmed frames
  | send p frames =>
    refine withStation_rearmed fun station h => send_rearmed h ?_ frames
    rintro rfl hphase
    simp [attempts, h, hphase] at hattempts
  | arm p met =>
    refine withStation_rearmed fun station h => ?_
    have hp : p ≠ n := fun hp => harm met (hp ▸ rfl)
    rw [← quiet_rearmed, rearmed_put (lt_of_station? h), Station.rearmed_of_ne _ _ hp, Station.rearmed_of_ne _ _ hp]
  | close p => exact withStation_rearmed fun _ h => close_rearmed h
  | drop p =>
    refine withStation_rearmed fun station h => ?_
    rw [← rearmed_discard, quiet_rearmed]
  | pop p => exact withStation_rearmed fun _ h => pop_rearmed h

/-- Nothing else changes the fault. -/
theorem fault_eq_of_apply {op : Operation} {station station' : Station} (h : net.station? n = some station)
    (hattempts : net.attempts n op = false) (harm : ∀ fault, op ≠ .arm n fault)
    (h' : (net.apply op).net.station? n = some station') : station'.fault = station.fault := by
  have hsame := apply_rearmed (lt_of_station? h) hattempts harm station.fault
  rw [rearmed_self h] at hsame
  rw [hsame] at h'
  have hrearmed := (station?_rearmed (net.apply op).net n station.fault n).symm.trans h'
  obtain ⟨other, -, rfl⟩ := Option.map_eq_some_iff.1 hrearmed
  rw [Station.rearmed_self]

/-- An attempt leaves no fault armed. -/
theorem fault_of_attempt {op : Operation} {station' : Station} (hattempts : net.attempts n op = true)
    (h' : (net.apply op).net.station? n = some station') : station'.fault = none := by
  obtain ⟨frames, station, rfl, h, hphase⟩ := attempts_eq_true_iff.1 hattempts
  cases hfault : station.fault with
  | some fault =>
    rw [apply_of_armed h hphase hfault] at h'
    cases (station?_put_self (lt_of_station? h) _).symm.trans h'
    rfl
  | none =>
    have hkept : station' = station → station'.fault = none := fun hsame => hsame ▸ hfault
    have heffect := apply_effect net (.send n frames)
    generalize net.apply (.send n frames) = reaction at heffect h'
    cases heffect with
    | absent op => exact hkept (Option.some.inj (h'.symm.trans h))
    | refused hdeclined => exact hkept (Option.some.inj (h'.symm.trans h))
    | meetFault hstation hphase hmet frames =>
      cases hstation.symm.trans h
      rw [hfault] at hmet
      cases hmet
    | send hstation hphase hfault' hcheck =>
      have hcalls := (deliver_station? net _ n).symm.trans h'
      rw [h, Option.map_some] at hcalls
      cases hcalls
      exact hfault

/-- A station that is made has no fault armed. -/
theorem fault_of_made {op : Operation} {station' : Station} (h : net.station? n = none)
    (h' : (net.apply op).net.station? n = some station') : net.stations.length ≤ n ∧ station'.fault = none := by
  have heffect := apply_effect net op
  by_cases hn : n = net.stations.length
  · subst hn
    refine ⟨Nat.le_refl _, ?_⟩
    have hlength := heffect.length_eq
    have hlt := lt_of_station? h'
    cases horigin : origin? (op, (net.apply op).answer) with
    | none =>
      rw [horigin] at hlength
      exact absurd hlt (by simp [hlength])
    | some origin =>
      obtain ⟨-, -, hfresh⟩ := heffect.made horigin
      cases hfresh.symm.trans h'
      rfl
  · have hfate := heffect.fate hn
    rw [h, h'] at hfate
    cases hfate

/-! ## What a run tells of armed faults -/

/-- The operations of a run, each with the network that it meets. -/
def steps (net : Network) : List Operation → List (Network × Operation)
  | [] => []
  | op :: ops => (net, op) :: (net.apply op).net.steps ops

theorem steps_concat (net : Network) (ops : List Operation) (op : Operation) :
    net.steps (ops ++ [op]) = net.steps ops ++ [(net.after ops, op)] := by
  induction ops generalizing net with
  | nil => rfl
  | cons first ops ih => rw [List.cons_append, steps, ih, after_cons, steps, List.cons_append]

/-- The fault that a step arms at station `n`. -/
def arming? (n : Nat) : Network × Operation → Option Fault
  | (net, .arm p fault) => if p = n ∧ (net.station? n).isSome then some fault else none
  | _ => none

theorem arming?_eq_some_iff {op : Operation} {fault : Fault} :
    arming? n (net, op) = some fault ↔ op = .arm n fault ∧ (net.station? n).isSome := by
  cases op with
  | arm p met => by_cases hp : p = n <;> simp [arming?, hp, and_comm]
  | _ => simp [arming?]

theorem arming?_of_none {op : Operation} (h : net.station? n = none) : arming? n (net, op) = none := by
  refine Option.eq_none_iff_forall_ne_some.2 fun fault harming => ?_
  simpa [h] using (arming?_eq_some_iff.1 harming).2

/-- The faults armed at station `n` since it last attempted to transmit. -/
def armedSince (n : Nat) (past : List (Network × Operation)) : List Fault :=
  (past.rtakeWhile fun step => !step.1.attempts n step.2).filterMap (arming? n)

section

variable {past : List (Network × Operation)} {op : Operation}

theorem armedSince_of_attempt (h : net.attempts n op = true) : armedSince n (past ++ [(net, op)]) = [] := by
  rw [armedSince, List.rtakeWhile_concat_neg _ _ _ (by simp [h]), List.filterMap_nil]

theorem armedSince_of_other (h : net.attempts n op = false) :
    armedSince n (past ++ [(net, op)]) = armedSince n past ++ (arming? n (net, op)).toList := by
  rw [armedSince, List.rtakeWhile_concat_pos _ _ _ (by simp [h]), List.filterMap_append, armedSince]
  cases harming : arming? n (net, op) <;> simp [harming]

end

/-- What station `n` has armed is told by the past, which tells nothing of a station that is not made yet. -/
structure Remembers (n : Nat) (past : List (Network × Operation)) (net : Network) : Prop where
  fault_eq : ∀ {station}, net.station? n = some station → station.fault = (armedSince n past).getLast?
  unmade : net.stations.length ≤ n → armedSince n past = []

/-- **One step.** -/
theorem Remembers.step {past : List (Network × Operation)} (h : Remembers n past net) (op : Operation) :
    Remembers n (past ++ [(net, op)]) (net.apply op).net := by
  have hgrows : net.stations.length ≤ (net.apply op).net.stations.length := by
    rw [(apply_effect net op).length_eq]
    exact Nat.le_add_right _ _
  constructor
  · intro station' h'
    cases hattempts : net.attempts n op with
    | true =>
      rw [armedSince_of_attempt hattempts, fault_of_attempt hattempts h']
      rfl
    | false =>
      rw [armedSince_of_other hattempts]
      cases hstation : net.station? n with
      | none =>
        obtain ⟨hmade, hnone⟩ := fault_of_made hstation h'
        rw [h.unmade hmade, arming?_of_none hstation, hnone]
        rfl
      | some station =>
        cases harming : arming? n (net, op) with
        | some fault =>
          obtain ⟨rfl, -⟩ := arming?_eq_some_iff.1 harming
          rw [apply, withStation, hstation] at h'
          cases (station?_put_self (lt_of_station? hstation) _).symm.trans h'
          simp
        | none =>
          have harm : ∀ fault, op ≠ .arm n fault := by
            rintro fault rfl
            simp [arming?, hstation] at harming
          rw [fault_eq_of_apply hstation hattempts harm h', h.fault_eq hstation, Option.toList_none, List.append_nil]
  · intro hn
    have hnone : net.station? n = none :=
      Option.eq_none_iff_forall_ne_some.2 fun station hstation => by
        have hlt := lt_of_station? hstation
        omega
    have hattempts : net.attempts n op = false := by
      refine Bool.eq_false_iff.2 fun htrue => ?_
      obtain ⟨-, station, -, hstation, -⟩ := attempts_eq_true_iff.1 htrue
      rw [hnone] at hstation
      cases hstation
    rw [armedSince_of_other hattempts, arming?_of_none hnone, h.unmade (hgrows.trans hn)]
    rfl

/-- **A whole run.** -/
theorem remembers_after (n : Nat) (ops : List Operation) : Remembers n (empty.steps ops) (empty.after ops) := by
  induction ops using List.reverseRecOn with
  | nil => exact ⟨nofun, fun _ => rfl⟩
  | append_singleton ops op ih =>
    rw [steps_concat, after_append]
    exact ih.step op

/-! ## Transmissions -/

theorem rearmed_eq_put {station : Station} (h : net.station? n = some station) (fault : Option Fault) :
    net.rearmed n fault = net.put n { station with fault := fault } := by
  refine ext_station? rfl (by simp) fun p => ?_
  rw [station?_rearmed]
  by_cases hp : p = n
  · subst hp
    rw [h, Option.map_some, Station.rearmed_self, station?_put_self (lt_of_station? h)]
  · rw [station?_put_of_ne hp]
    cases net.station? p with
    | none => rfl
    | some other => rw [Option.map_some, Station.rearmed_of_ne _ _ hp]

theorem apply_of_idle {station : Station} (h : net.station? n = some station) (hphase : station.phase ≠ .started)
    (frames : List Frame) : net.apply (.send n frames) = net.quiet (.refused .closed) := by
  rw [apply, withStation, h]
  simp only [send, Phase.requireStarted_of_ne hphase]

/-- With no fault armed the rules of the batch decide. -/
theorem apply_of_unarmed {station : Station} (h : net.station? n = some station) (hphase : station.phase = .started)
    (hfault : station.fault = none) (frames : List Frame) :
    net.apply (.send n frames) =
      match Batch.check frames station.mtu with
      | .error fault => net.quiet (.refused fault)
      | .ok () => net.delivering (net.broadcast n station.bus frames) (.sent frames.length) := by
  rw [apply, withStation, h]
  cases hcheck : Batch.check frames station.mtu <;>
    simp only [send, Phase.requireStarted_eq_ok_iff.2 hphase, hfault, hcheck]

theorem harmless_empty : empty.Harmless := by
  intro n station h
  cases h

/-- Deliveries end in their value unless a handler fails. -/
theorem answer_delivering_cases (net : Network) (offers : List (Nat × List Frame)) (value : Answer) :
    (net.delivering offers value).answer = value ∨ (net.delivering offers value).answer = .handlerFailed := by
  rw [answer_delivering]
  split
  · exact .inl rfl
  · exact .inr rfl

/-! ## The theorem -/

/-- **Faults are met once.**  After any run a station that is not started refuses to transmit as closed, whatever is
armed.  A started one meets the last fault that was armed since it last attempted to transmit, whatever the batch, and
this fault is gone then and nothing else has changed.  If none was armed since, the rules of the batch decide, and a
batch that keeps them is sent in full, unless a handler fails that may.  Every operation but an attempt and an arming
of this station goes as it would under any other fault, and leaves the fault as it is. -/
theorem fault_met_once (ops : List Operation) {n : Nat} {station : Station}
    (h : (empty.after ops).station? n = some station) :
    let net := empty.after ops
    let armed := armedSince n (empty.steps ops)
    (station.phase ≠ .started → ∀ frames, net.apply (.send n frames) = net.quiet (.refused .closed)) ∧
    (station.phase = .started → ∀ frames,
      (∀ fault, armed.getLast? = some fault →
        net.apply (.send n frames) = (net.rearmed n none).quiet (.refused fault)) ∧
      (armed = [] → ∀ fault, Batch.check frames station.mtu = .error fault →
        net.apply (.send n frames) = net.quiet (.refused fault)) ∧
      (armed = [] → Batch.check frames station.mtu = .ok () →
        (net.apply (.send n frames)).answer = .sent frames.length ∨
          (net.apply (.send n frames)).answer = .handlerFailed ∧ ¬ ∀ op ∈ ops, op.Harmless)) ∧
    ∀ op, net.attempts n op = false → (∀ fault, op ≠ .arm n fault) →
      (∀ fault, (net.rearmed n fault).apply op = (net.apply op).rearmed n fault) ∧
        ∀ station', (net.apply op).net.station? n = some station' → station'.fault = station.fault := by
  intro net armed
  have htold : station.fault = armed.getLast? := (remembers_after n ops).fault_eq h
  refine ⟨apply_of_idle h, fun hphase frames => ⟨fun fault hlast => ?_, fun hnone fault hcheck => ?_,
    fun hnone hcheck => ?_⟩, fun op hattempts harm => ⟨apply_rearmed (lt_of_station? h) hattempts harm,
    fun station' => fault_eq_of_apply h hattempts harm⟩⟩
  · rw [rearmed_eq_put h]
    exact apply_of_armed h hphase (htold.trans hlast) frames
  · rw [hnone] at htold
    rw [apply_of_unarmed h hphase htold, hcheck]
  · rw [hnone] at htold
    have happly := apply_of_unarmed h hphase htold frames
    rw [hcheck] at happly
    rcases answer_delivering_cases net (net.broadcast n station.bus frames) (.sent frames.length) with
      hsent | hfailed
    · exact .inl ((congrArg (·.answer) happly).trans hsent)
    · have hanswer := (congrArg (·.answer) happly).trans hfailed
      exact .inr ⟨hanswer, fun hops => (harmless_empty.after hops).apply _ hanswer⟩

/-- Two faults armed before a station is started, one afterwards, and a transmission between them. -/
def rearming : List Operation :=
  [.addBus, .join 0 8 1, .arm 0 .timeout, .send 0 [], .arm 0 .closed, .start 0 false [], .arm 0 (.io "bus off")]

theorem fault_met_once_rearming :
    ((empty.after rearming).apply (.send 0 [])).answer = .refused (.io "bus off") ∧
      ((empty.after (rearming ++ [.send 0 []])).apply (.send 0 [])).answer = .refused (.contract .emptyBatch) := by
  have hstation : (empty.after rearming).station? 0 =
      some ⟨0, 8, .started, true, some (.io "bus off"), ⟨.ofSize 1, .fresh (some ⟨0, []⟩), []⟩⟩ := by decide
  have hafter : (empty.after (rearming ++ [.send 0 []])).station? 0 =
      some ⟨0, 8, .started, true, none, ⟨.ofSize 1, .fresh (some ⟨0, []⟩), []⟩⟩ := by decide
  have hfirst := ((fault_met_once _ hstation).2.1 rfl []).1 (.io "bus off") (by decide)
  have hsecond := ((fault_met_once _ hafter).2.1 rfl []).2.1 (by decide) (.contract .emptyBatch) rfl
  exact ⟨congrArg (·.answer) hfirst, congrArg (·.answer) hsecond⟩

end Network

end CanBus
