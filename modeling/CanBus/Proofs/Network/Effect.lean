import CanBus.Network.Operation

/-!
# Effects — every way in which an operation can go

An `Effect` pairs an operation with the reaction to it and the guards under which that is the reaction.  There are no
others (`apply_effect`), so what is said of operations is proved by cases on their effects.
-/

namespace CanBus.Network

/-- An operation, the fault with which it is declined, and why. -/
inductive Declined (net : Network) : Operation → Fault → Prop where
  | join {bus mtu slots : Nat} {fault : Fault} (hbus : bus < net.rosters.length)
      (h : net.join bus mtu slots = .error fault) : Declined net (.join bus mtu slots) fault
  | start {n : Nat} {station : Station} (h : net.station? n = some station) (hphase : station.phase ≠ .created)
      (noRetransmit : Bool) (failsAt : List Nat) : Declined net (.start n noRetransmit failsAt) .closed
  | configure {n : Nat} {station : Station} (h : net.station? n = some station) (hphase : station.phase ≠ .started)
      (filters : List Filter) : Declined net (.configure n filters) .closed
  | filters {n : Nat} {station : Station} {filters : List Filter} {fault : Fault} (h : net.station? n = some station)
      (hphase : station.phase = .started) (hreceiver : station.receiver.reconfigure filters = .error fault) :
      Declined net (.configure n filters) fault
  | inject {n : Nat} {station : Station} (h : net.station? n = some station) (hphase : station.phase ≠ .started)
      (frames : List Frame) : Declined net (.inject n frames) .closed
  | send {n : Nat} {station : Station} (h : net.station? n = some station) (hphase : station.phase ≠ .started)
      (frames : List Frame) : Declined net (.send n frames) .closed
  | batch {n : Nat} {station : Station} {frames : List Frame} {fault : Fault} (h : net.station? n = some station)
      (hphase : station.phase = .started) (hfault : station.fault = none)
      (hcheck : Batch.check frames station.mtu = .error fault) : Declined net (.send n frames) fault
  | close {n : Nat} {station : Station} (h : net.station? n = some station) (hphase : station.phase = .closed) :
      Declined net (.close n) .closed
  | pop {n : Nat} {station : Station} {fault : Fault} (h : net.station? n = some station)
      (hpop : station.receiver.pop = .error fault) : Declined net (.pop n) fault

/-- An operation, a reaction to it, and when that is the reaction. -/
inductive Effect (net : Network) : Operation → Reaction → Prop where
  | absent (op : Operation) : Effect net op (net.quiet .absent)
  | refused {op : Operation} {fault : Fault} (h : Declined net op fault) : Effect net op (net.quiet (.refused fault))
  | addBus : Effect net .addBus (net.addBus.1.quiet (.bus net.addBus.2))
  | join {bus mtu slots : Nat} (hbus : bus < net.rosters.length) (hmtu : mtu ∈ Length.offered) (hslots : slots ≠ 0) :
      Effect net (.join bus mtu slots) ((net.enrol bus mtu slots).quiet (.joined net.stations.length))
  | start {n : Nat} {station : Station} (h : net.station? n = some station) (hphase : station.phase = .created)
      (noRetransmit : Bool) (failsAt : List Nat) :
      Effect net (.start n noRetransmit failsAt) ((net.put n { station with
        phase := .started, retransmit := !noRetransmit, receiver := station.receiver.register failsAt }).quiet .done)
  | configure {n : Nat} {station : Station} {filters : List Filter} {receiver : Receiver}
      (h : net.station? n = some station) (hphase : station.phase = .started)
      (hreceiver : station.receiver.reconfigure filters = .ok receiver) :
      Effect net (.configure n filters) ((net.put n { station with receiver := receiver }).quiet .done)
  | inject {n : Nat} {station : Station} (h : net.station? n = some station) (hphase : station.phase = .started)
      (frames : List Frame) : Effect net (.inject n frames) (net.delivering [(n, frames)] .done)
  | meetFault {n : Nat} {station : Station} {fault : Fault} (h : net.station? n = some station)
      (hphase : station.phase = .started) (hfault : station.fault = some fault) (frames : List Frame) :
      Effect net (.send n frames) ((net.put n { station with fault := none }).quiet (.refused fault))
  | send {n : Nat} {station : Station} {frames : List Frame} (h : net.station? n = some station)
      (hphase : station.phase = .started) (hfault : station.fault = none)
      (hcheck : Batch.check frames station.mtu = .ok ()) :
      Effect net (.send n frames) (net.delivering (net.broadcast n station.bus frames) (.sent frames.length))
  | arm {n : Nat} {station : Station} (h : net.station? n = some station) (fault : Fault) :
      Effect net (.arm n fault) ((net.put n { station with fault := some fault }).quiet .done)
  | close {n : Nat} {station : Station} (h : net.station? n = some station) (hphase : station.phase ≠ .closed) :
      Effect net (.close n) (((net.put n { station with
        phase := .closed, receiver := station.receiver.unregister }).leave station.bus n).quiet .done)
  | drop {n : Nat} {station : Station} (h : net.station? n = some station) :
      Effect net (.drop n) ((net.discard n).quiet .done)
  | pop {n : Nat} {station : Station} {frame : Frame} {receiver : Receiver} (h : net.station? n = some station)
      (hpop : station.receiver.pop = .ok (frame, receiver)) :
      Effect net (.pop n) ((net.put n { station with receiver := receiver }).quiet (.popped frame))

variable {net : Network}

theorem withStation_effect {op : Operation} {n : Nat} {act : Station → Reaction}
    (hact : ∀ station, net.station? n = some station → Effect net op (act station)) :
    Effect net op (net.withStation n act) := by
  unfold withStation
  cases hstation : net.station? n with
  | none => exact .absent op
  | some station => exact hact station hstation

theorem start_effect {n : Nat} {station : Station} (h : net.station? n = some station) (noRetransmit : Bool)
    (failsAt : List Nat) : Effect net (.start n noRetransmit failsAt) (net.start n station noRetransmit failsAt) := by
  unfold start
  by_cases hphase : station.phase = .created
  · rw [hphase]
    exact .start h hphase noRetransmit failsAt
  · rw [Phase.start_of_ne hphase]
    exact .refused (.start h hphase noRetransmit failsAt)

theorem configure_effect {n : Nat} {station : Station} (h : net.station? n = some station) (filters : List Filter) :
    Effect net (.configure n filters) (net.configure n station filters) := by
  unfold configure
  by_cases hphase : station.phase = .started
  · rw [Phase.requireStarted_eq_ok_iff.2 hphase]
    cases hreceiver : station.receiver.reconfigure filters with
    | error fault => exact .refused (.filters h hphase hreceiver)
    | ok receiver => exact .configure h hphase hreceiver
  · rw [Phase.requireStarted_of_ne hphase]
    exact .refused (.configure h hphase filters)

theorem inject_effect {n : Nat} {station : Station} (h : net.station? n = some station) (frames : List Frame) :
    Effect net (.inject n frames) (net.inject n station frames) := by
  unfold inject
  by_cases hphase : station.phase = .started
  · rw [Phase.requireStarted_eq_ok_iff.2 hphase]
    exact .inject h hphase frames
  · rw [Phase.requireStarted_of_ne hphase]
    exact .refused (.inject h hphase frames)

theorem send_effect {n : Nat} {station : Station} (h : net.station? n = some station) (frames : List Frame) :
    Effect net (.send n frames) (net.send n station frames) := by
  unfold send
  by_cases hphase : station.phase = .started
  · rw [Phase.requireStarted_eq_ok_iff.2 hphase]
    cases hfault : station.fault with
    | some fault => exact .meetFault h hphase hfault frames
    | none =>
      cases hcheck : Batch.check frames station.mtu with
      | error fault => exact .refused (.batch h hphase hfault hcheck)
      | ok _ => exact .send h hphase hfault hcheck
  · rw [Phase.requireStarted_of_ne hphase]
    exact .refused (.send h hphase frames)

theorem close_effect {n : Nat} {station : Station} (h : net.station? n = some station) :
    Effect net (.close n) (net.close n station) := by
  unfold close
  by_cases hphase : station.phase = .closed
  · rw [hphase]
    exact .refused (.close h hphase)
  · rw [Phase.close_eq_ok_iff.2 ⟨hphase, rfl⟩]
    exact .close h hphase

theorem pop_effect {n : Nat} {station : Station} (h : net.station? n = some station) :
    Effect net (.pop n) (net.pop n station) := by
  unfold pop
  cases hpop : station.receiver.pop with
  | error fault => exact .refused (.pop h hpop)
  | ok taken => exact .pop h hpop

theorem join_effect (net : Network) (bus mtu slots : Nat) :
    Effect net (.join bus mtu slots) (net.apply (.join bus mtu slots)) := by
  rw [apply]
  by_cases hbus : bus < net.rosters.length
  · rw [if_pos hbus]
    cases hjoin : net.join bus mtu slots with
    | error fault => exact .refused (.join hbus hjoin)
    | ok joined =>
      obtain ⟨net', n⟩ := joined
      obtain ⟨⟨hmtu, hslots⟩, rfl, rfl⟩ := join_eq_ok_iff.1 hjoin
      exact .join hbus hmtu hslots
  · rw [if_neg hbus]
    exact .absent _

/-- Networks with as many buses and as many stations take a joining in the same way. -/
theorem apply_join_cases {net' : Network} (hrosters : net.rosters.length = net'.rosters.length)
    (hstations : net.stations.length = net'.stations.length) (bus mtu slots : Nat) :
    (∃ answer, net.apply (.join bus mtu slots) = net.quiet answer ∧
      net'.apply (.join bus mtu slots) = net'.quiet answer) ∨
    ∃ answer, net.apply (.join bus mtu slots) = (net.enrol bus mtu slots).quiet answer ∧
      net'.apply (.join bus mtu slots) = (net'.enrol bus mtu slots).quiet answer := by
  rw [apply, apply, join, join, hrosters, hstations]
  by_cases hbus : bus < net'.rosters.length
  · rw [if_pos hbus, if_pos hbus]
    by_cases hmtu : mtu ∉ Length.offered
    · rw [if_pos hmtu, if_pos hmtu]
      exact .inl ⟨_, rfl, rfl⟩
    · rw [if_neg hmtu, if_neg hmtu]
      by_cases hslots : slots = 0
      · rw [if_pos hslots, if_pos hslots]
        exact .inl ⟨_, rfl, rfl⟩
      · rw [if_neg hslots, if_neg hslots]
        exact .inr ⟨_, rfl, rfl⟩
  · rw [if_neg hbus, if_neg hbus]
    exact .inl ⟨_, rfl, rfl⟩

/-- Every operation has one of the effects. -/
theorem apply_effect (net : Network) (op : Operation) : Effect net op (net.apply op) := by
  cases op with
  | addBus => exact .addBus
  | join bus mtu slots => exact join_effect net bus mtu slots
  | start n noRetransmit failsAt => exact withStation_effect fun _ h => start_effect h noRetransmit failsAt
  | configure n filters => exact withStation_effect fun _ h => configure_effect h filters
  | inject n frames => exact withStation_effect fun _ h => inject_effect h frames
  | send n frames => exact withStation_effect fun _ h => send_effect h frames
  | arm n fault => exact withStation_effect fun _ h => .arm h fault
  | close n => exact withStation_effect fun _ h => close_effect h
  | drop n => exact withStation_effect fun _ h => .drop h
  | pop n => exact withStation_effect fun _ h => pop_effect h

end CanBus.Network
