import CanBus.Proofs.Network.Delivery

/-!
# Containment — what the failure of a handler leaves behind

Networks are `Alike` if they differ at most in what the handlers of their stations do and have collected, and in which
of their locks are poisoned.  Alike networks react to every operation with the same calls and the same answer, up to the
first handler that fails in one of them, and stay alike whatever handlers fail (`Alike.apply`, `Alike.after`).  So a
failure cuts the calls of its operation short, poisons one lock, which everybody ignores, and changes nothing else
(`failure_contained`).
-/

namespace CanBus

/-- The receiver with a handler that never fails in the place of its own. -/
def Receiver.calmed (receiver : Receiver) : Receiver :=
  { receiver with slot := receiver.slot.set (receiver.handler.map fun handler => { handler with failsAt := [] }) }

theorem Receiver.handler_calmed (receiver : Receiver) :
    receiver.calmed.handler = receiver.handler.map fun handler => { handler with failsAt := [] } :=
  Guarded.lock_set _ _

/-- The call as it is when the handler fails at it. -/
def Call.failed (call : Call) : Call := ⟨call.station, ⟨call.delivery.batch, false⟩⟩

/-- The stations differ at most in what their handlers do and have collected, and in whether locks are poisoned. -/
structure Station.Alike (station station' : Station) : Prop where
  bus_eq : station.bus = station'.bus
  mtu_eq : station.mtu = station'.mtu
  phase_eq : station.phase = station'.phase
  retransmit_eq : station.retransmit = station'.retransmit
  fault_eq : station.fault = station'.fault
  bank_eq : station.receiver.bank = station'.receiver.bank
  handler_eq : station.receiver.handler.isSome = station'.receiver.handler.isSome

namespace Station

theorem Alike.refl (station : Station) : station.Alike station := ⟨rfl, rfl, rfl, rfl, rfl, rfl, rfl⟩

theorem Alike.symm {a b : Station} (h : a.Alike b) : b.Alike a :=
  ⟨h.bus_eq.symm, h.mtu_eq.symm, h.phase_eq.symm, h.retransmit_eq.symm, h.fault_eq.symm, h.bank_eq.symm,
    h.handler_eq.symm⟩

theorem Alike.trans {a b c : Station} (h : a.Alike b) (h' : b.Alike c) : a.Alike c :=
  ⟨h.bus_eq.trans h'.bus_eq, h.mtu_eq.trans h'.mtu_eq, h.phase_eq.trans h'.phase_eq,
    h.retransmit_eq.trans h'.retransmit_eq, h.fault_eq.trans h'.fault_eq, h.bank_eq.trans h'.bank_eq,
    h.handler_eq.trans h'.handler_eq⟩

/-- Calls of its handler leave a station alike. -/
theorem alike_afterCalls (station : Station) (deliveries : List Delivery) :
    station.Alike (station.afterCalls deliveries) := by
  refine ⟨rfl, rfl, rfl, rfl, rfl, rfl, ?_⟩
  rw [afterCalls, Receiver.handler_afterCalls, Option.isSome_map]

end Station

namespace Network

/-- The networks differ at most in what the handlers of their stations do and have collected, and in poisoned locks. -/
structure Alike (net net' : Network) : Prop where
  rosters_eq : net.rosters = net'.rosters
  length_eq : net.stations.length = net'.stations.length
  stations : ∀ n, Option.Rel Station.Alike (net.station? n) (net'.station? n)

variable {net net' net'' : Network}

theorem Alike.refl (net : Network) : net.Alike net where
  rosters_eq := rfl
  length_eq := rfl
  stations n := by
    cases net.station? n with
    | none => exact .none
    | some station => exact .some (.refl station)

theorem Alike.symm (h : net.Alike net') : net'.Alike net where
  rosters_eq := h.rosters_eq.symm
  length_eq := h.length_eq.symm
  stations n := by
    have hn := h.stations n
    generalize net.station? n = left at hn ⊢
    generalize net'.station? n = right at hn ⊢
    cases hn with
    | none => exact .none
    | some hstation => exact .some hstation.symm

theorem Alike.trans (h : net.Alike net') (h' : net'.Alike net'') : net.Alike net'' where
  rosters_eq := h.rosters_eq.trans h'.rosters_eq
  length_eq := h.length_eq.trans h'.length_eq
  stations n := by
    have hleft := h.stations n
    have hright := h'.stations n
    generalize net.station? n = left at hleft ⊢
    generalize net'.station? n = middle at hleft hright
    generalize net''.station? n = right at hright ⊢
    cases hleft with
    | none =>
      cases hright with
      | none => exact .none
    | some hstation =>
      cases hright with
      | some hstation' => exact .some (hstation.trans hstation')

theorem Alike.station?_eq_none (h : net.Alike net') {n : Nat} (hn : net.station? n = none) :
    net'.station? n = none := by
  have hstations := h.stations n
  rw [hn] at hstations
  generalize net'.station? n = right at hstations ⊢
  cases hstations with
  | none => rfl

theorem Alike.station?_eq_some (h : net.Alike net') {n : Nat} {station : Station} (hn : net.station? n = some station) :
    ∃ station', net'.station? n = some station' ∧ station.Alike station' := by
  have hstations := h.stations n
  rw [hn] at hstations
  generalize net'.station? n = right at hstations ⊢
  cases hstations with
  | some hstation => exact ⟨_, rfl, hstation⟩

/-! ## Alike networks have the same members -/

theorem Alike.isLive_eq (h : net.Alike net') : net.isLive = net'.isLive := by
  funext member
  unfold isLive
  cases hstation : net.station? member.station with
  | none => rw [h.station?_eq_none hstation]
  | some station =>
    obtain ⟨station', hstation', -⟩ := h.station?_eq_some hstation
    rw [hstation']
    rfl

theorem Alike.members_eq (h : net.Alike net') : net.members = net'.members := by
  funext bus
  rw [members, members, roster, roster, h.rosters_eq, h.isLive_eq]

theorem Alike.broadcast_eq (h : net.Alike net') : net.broadcast = net'.broadcast := by
  funext n bus frames
  rw [broadcast, broadcast, h.members_eq]

/-! ## What keeps networks alike -/

/-- A station's state replaced in both. -/
theorem Alike.put (h : net.Alike net') {n : Nat} {station station' : Station} (hn : n < net.stations.length)
    (hstation : station.Alike station') : (net.put n station).Alike (net'.put n station') where
  rosters_eq := h.rosters_eq
  length_eq := by rw [length_stations_put, length_stations_put, h.length_eq]
  stations p := by
    by_cases hp : p = n
    · subst hp
      rw [station?_put_self hn, station?_put_self (h.length_eq ▸ hn)]
      exact .some hstation
    · rw [station?_put_of_ne hp, station?_put_of_ne hp]
      exact h.stations p

/-- A station's state replaced by one that is alike. -/
theorem alike_put {n : Nat} {station station' : Station} (hn : net.station? n = some station)
    (hstation : station.Alike station') : net.Alike (net.put n station') where
  rosters_eq := rfl
  length_eq := (length_stations_put net n station').symm
  stations p := by
    by_cases hp : p = n
    · subst hp
      rw [station?_put_self (lt_of_station? hn), hn]
      exact .some hstation
    · rw [station?_put_of_ne hp]
      exact (Alike.refl net).stations p

theorem Alike.discard (h : net.Alike net') (n : Nat) : (net.discard n).Alike (net'.discard n) where
  rosters_eq := h.rosters_eq
  length_eq := by rw [length_stations_discard, length_stations_discard, h.length_eq]
  stations p := by
    by_cases hp : p = n
    · subst hp
      rw [station?_discard_self, station?_discard_self]
      exact .none
    · rw [station?_discard_of_ne hp, station?_discard_of_ne hp]
      exact h.stations p

theorem Alike.leave (h : net.Alike net') (bus n : Nat) : (net.leave bus n).Alike (net'.leave bus n) where
  rosters_eq := by
    simp only [Network.leave]
    rw [h.rosters_eq, h.isLive_eq]
  length_eq := h.length_eq
  stations := h.stations

theorem Alike.enrol (h : net.Alike net') (bus mtu slots : Nat) :
    (net.enrol bus mtu slots).Alike (net'.enrol bus mtu slots) where
  rosters_eq := by
    simp only [Network.enrol]
    rw [h.rosters_eq, h.length_eq, h.isLive_eq]
  length_eq := by simp [Network.enrol, h.length_eq]
  stations p := by
    rw [station?_enrol, station?_enrol, h.length_eq]
    by_cases hp : p = net'.stations.length
    · rw [if_pos hp, if_pos hp]
      exact .some (.refl _)
    · rw [if_neg hp, if_neg hp]
      exact h.stations p

theorem Alike.addBus (h : net.Alike net') : net.addBus.1.Alike net'.addBus.1 where
  rosters_eq := by
    simp only [Network.addBus]
    rw [h.rosters_eq]
  length_eq := h.length_eq
  stations := h.stations

/-- Deliveries leave a network alike, whatever handlers fail on the way. -/
theorem alike_deliver (net : Network) (offers : List (Nat × List Frame)) : net.Alike (net.deliver offers).1 where
  rosters_eq := (deliver_rosters net offers).symm
  length_eq := (deliver_length net offers).symm
  stations n := by
    rw [deliver_station?]
    cases net.station? n with
    | none => exact .none
    | some station => exact .some (station.alike_afterCalls _)

/-! ## Calls in alike networks -/

theorem Alike.callsAt_eq (h : net.Alike net') (n : Nat) (frames : List Frame) :
    net.callsAt n frames = net'.callsAt n frames := by
  unfold callsAt
  cases hstation : net.station? n with
  | none => rw [h.station?_eq_none hstation]
  | some station =>
    obtain ⟨station', hstation', hsame⟩ := h.station?_eq_some hstation
    rw [hstation']
    dsimp only
    rw [hsame.handler_eq, hsame.bank_eq]

/-- An offer does nothing in either network, or it calls the same handler with the same batch in both. -/
theorem Alike.offerTo_cases (h : net.Alike net') (n : Nat) (frames : List Frame) :
    net.offerTo n frames = none ∧ net'.offerTo n frames = none ∨
      ∃ left right delivery delivery', net.offerTo n frames = some (left, ⟨n, delivery⟩) ∧
        net'.offerTo n frames = some (right, ⟨n, delivery'⟩) ∧ delivery.batch = delivery'.batch ∧ left.Alike right := by
  have hcalls := h.callsAt_eq n frames
  rcases net.offerTo_cases n frames with ⟨hnone, hsilent⟩ | ⟨station, delivery, hstation, hsome, hcall⟩
  · rcases net'.offerTo_cases n frames with ⟨hnone', -⟩ | ⟨station', delivery', hstation', hsome', hcall'⟩
    · exact .inl ⟨hnone, hnone'⟩
    · rw [hsilent, hcall'] at hcalls
      cases hcalls
  · rcases net'.offerTo_cases n frames with ⟨hnone', hsilent'⟩ | ⟨station', delivery', hstation', hsome', hcall'⟩
    · rw [hcall, hsilent'] at hcalls
      cases hcalls
    · rw [hcall, hcall'] at hcalls
      have hleft := alike_put hstation (station.alike_afterCalls [delivery])
      have hright := alike_put hstation' (station'.alike_afterCalls [delivery'])
      exact .inr ⟨_, _, delivery, delivery', hsome, hsome', by simpa using hcalls, (hleft.symm.trans h).trans hright⟩

/-- `calls` are the first of `full`, and the handler failed at the last of them. -/
def CutShort (calls full : List Call) : Prop :=
  ∃ front call back, full = front ++ call :: back ∧ calls = front ++ [call.failed]

theorem CutShort.cons {calls full : List Call} (h : CutShort calls full) (call : Call) :
    CutShort (call :: calls) (call :: full) := by
  obtain ⟨front, last, back, rfl, rfl⟩ := h
  exact ⟨call :: front, last, back, rfl, rfl⟩

/-- How the calls of two deliveries compare: they are the same, or those of the one are cut short. -/
inductive Compares (calls calls' : List Call) : Bool → Bool → Prop where
  | same (completed : Bool) (h : calls = calls') : Compares calls calls' completed completed
  | left (completed : Bool) (h : CutShort calls calls') : Compares calls calls' false completed
  | right (completed : Bool) (h : CutShort calls' calls) : Compares calls calls' completed false

theorem Compares.cons {calls calls' : List Call} {completed completed' : Bool}
    (h : Compares calls calls' completed completed') (call : Call) :
    Compares (call :: calls) (call :: calls') completed completed' := by
  cases h with
  | same _ h => exact .same _ (congrArg _ h)
  | left _ h => exact .left _ (h.cons call)
  | right _ h => exact .right _ (h.cons call)

/-- **Deliveries in alike networks** make the same calls up to the first handler that fails. -/
theorem Alike.deliver (h : net.Alike net') (offers : List (Nat × List Frame)) :
    Compares (net.deliver offers).2.1 (net'.deliver offers).2.1 (net.deliver offers).2.2 (net'.deliver offers).2.2 := by
  induction offers generalizing net net' with
  | nil => exact .same true rfl
  | cons offer rest ih =>
    obtain ⟨n, frames⟩ := offer
    rcases h.offerTo_cases n frames with ⟨hnone, hnone'⟩ | ⟨left, right, ⟨batch, completed⟩, ⟨batch', completed'⟩,
      hsome, hsome', hbatch, hnext⟩
    · rw [deliver_cons_of_none hnone, deliver_cons_of_none hnone']
      exact ih h
    · obtain rfl : batch = batch' := hbatch
      cases completed with
      | true =>
        rw [deliver_cons_of_completed hsome rfl]
        cases completed' with
        | true =>
          rw [deliver_cons_of_completed hsome' rfl]
          exact (ih hnext).cons _
        | false =>
          rw [deliver_cons_of_failed hsome' rfl]
          exact .right _ ⟨[], _, _, rfl, rfl⟩
      | false =>
        rw [deliver_cons_of_failed hsome rfl]
        cases completed' with
        | true =>
          rw [deliver_cons_of_completed hsome' rfl]
          exact .left _ ⟨[], _, _, rfl, rfl⟩
        | false =>
          rw [deliver_cons_of_failed hsome' rfl]
          exact .same false rfl

/-! ## Reactions of alike networks -/

/-- How the reactions of two networks compare: the networks are alike afterwards, and the calls and the answer are the
same unless a handler fails in one of them, whose calls are then cut short. -/
structure Reaction.Alike (reaction reaction' : Reaction) : Prop where
  net_alike : reaction.net.Alike reaction'.net
  compares : reaction.answer = reaction'.answer ∧ reaction.calls = reaction'.calls ∨
    reaction.answer = .handlerFailed ∧ CutShort reaction.calls reaction'.calls ∨
      reaction'.answer = .handlerFailed ∧ CutShort reaction'.calls reaction.calls

theorem Alike.quiet (h : net.Alike net') (answer : Answer) : (net.quiet answer).Alike (net'.quiet answer) :=
  ⟨h, .inl ⟨rfl, rfl⟩⟩

theorem Alike.delivering (h : net.Alike net') (offers : List (Nat × List Frame)) (value : Answer) :
    (net.delivering offers value).Alike (net'.delivering offers value) := by
  refine ⟨((alike_deliver net offers).symm.trans h).trans (alike_deliver net' offers), ?_⟩
  have hcompares := h.deliver offers
  unfold Network.delivering
  dsimp only
  generalize (net.deliver offers).2.2 = completed at hcompares ⊢
  generalize (net'.deliver offers).2.2 = completed' at hcompares ⊢
  cases hcompares with
  | same _ hcalls => exact .inl ⟨rfl, hcalls⟩
  | left _ hcut => exact .inr (.inl ⟨rfl, hcut⟩)
  | right _ hcut => exact .inr (.inr ⟨rfl, hcut⟩)

theorem Alike.withStation (h : net.Alike net') {n : Nat} {act act' : Station → Reaction}
    (hact : ∀ station station', n < net.stations.length → station.Alike station' →
      (act station).Alike (act' station')) : (net.withStation n act).Alike (net'.withStation n act') := by
  unfold Network.withStation
  cases hstation : net.station? n with
  | none =>
    rw [h.station?_eq_none hstation]
    exact h.quiet .absent
  | some station =>
    obtain ⟨station', hstation', hsame⟩ := h.station?_eq_some hstation
    rw [hstation']
    exact hact station station' (lt_of_station? hstation) hsame

section Operations

variable {n : Nat} {station station' : Station} (h : net.Alike net') (hn : n < net.stations.length)
  (hstation : station.Alike station')

include h hn hstation

theorem Alike.start (noRetransmit : Bool) (failsAt : List Nat) :
    (net.start n station noRetransmit failsAt).Alike (net'.start n station' noRetransmit failsAt) := by
  unfold Network.start
  rw [hstation.phase_eq]
  cases station'.phase.start with
  | error fault => exact h.quiet _
  | ok phase =>
    refine (h.put hn ?_).quiet _
    exact ⟨hstation.bus_eq, hstation.mtu_eq, rfl, rfl, hstation.fault_eq, hstation.bank_eq, by simp⟩

theorem Alike.configure (filters : List Filter) :
    (net.configure n station filters).Alike (net'.configure n station' filters) := by
  unfold Network.configure Receiver.reconfigure
  rw [hstation.phase_eq, hstation.bank_eq]
  cases station'.phase.requireStarted with
  | error fault => exact h.quiet _
  | ok _ =>
    cases station'.receiver.bank.reconfigure filters with
    | error fault => exact h.quiet _
    | ok bank =>
      refine (h.put hn ?_).quiet _
      exact ⟨hstation.bus_eq, hstation.mtu_eq, rfl, hstation.retransmit_eq, hstation.fault_eq, rfl,
        hstation.handler_eq⟩

omit hn in
theorem Alike.inject (frames : List Frame) :
    (net.inject n station frames).Alike (net'.inject n station' frames) := by
  unfold Network.inject
  rw [hstation.phase_eq]
  cases station'.phase.requireStarted with
  | error fault => exact h.quiet _
  | ok _ => exact h.delivering _ _

theorem Alike.send (frames : List Frame) : (net.send n station frames).Alike (net'.send n station' frames) := by
  unfold Network.send
  rw [hstation.phase_eq, hstation.fault_eq, hstation.mtu_eq, hstation.bus_eq, h.broadcast_eq]
  cases station'.phase.requireStarted with
  | error fault => exact h.quiet _
  | ok _ =>
    cases station'.fault with
    | some fault =>
      refine (h.put hn ?_).quiet _
      exact ⟨rfl, rfl, rfl, hstation.retransmit_eq, rfl, hstation.bank_eq, hstation.handler_eq⟩
    | none =>
      cases Batch.check frames station'.mtu with
      | error fault => exact h.quiet _
      | ok _ => exact h.delivering _ _

theorem Alike.arm (fault : Fault) :
    ((net.put n { station with fault := some fault }).quiet .done).Alike
      ((net'.put n { station' with fault := some fault }).quiet .done) := by
  refine (h.put hn ?_).quiet _
  exact ⟨hstation.bus_eq, hstation.mtu_eq, hstation.phase_eq, hstation.retransmit_eq, rfl, hstation.bank_eq,
    hstation.handler_eq⟩

theorem Alike.close : (net.close n station).Alike (net'.close n station') := by
  unfold Network.close
  rw [hstation.phase_eq, hstation.bus_eq]
  cases station'.phase.close with
  | error fault => exact h.quiet _
  | ok phase =>
    refine ((h.put hn ?_).leave _ n).quiet _
    exact ⟨rfl, hstation.mtu_eq, rfl, hstation.retransmit_eq, hstation.fault_eq, hstation.bank_eq, by simp⟩

end Operations

theorem Alike.join (h : net.Alike net') (bus mtu slots : Nat) :
    (net.apply (.join bus mtu slots)).Alike (net'.apply (.join bus mtu slots)) := by
  rcases apply_join_cases (congrArg _ h.rosters_eq) h.length_eq bus mtu slots with
    ⟨answer, hleft, hright⟩ | ⟨answer, hleft, hright⟩
  · rw [hleft, hright]
    exact h.quiet answer
  · rw [hleft, hright]
    exact (h.enrol bus mtu slots).quiet answer

/-- **One operation** on alike networks.  Only what a handler has collected, and so the answer of a pop, may differ. -/
theorem Alike.apply (h : net.Alike net') {op : Operation} (hop : ∀ n, op ≠ .pop n) :
    (net.apply op).Alike (net'.apply op) := by
  cases op with
  | addBus =>
    have hnumber : net.addBus.2 = net'.addBus.2 := congrArg List.length h.rosters_eq
    rw [Network.apply, Network.apply, hnumber]
    exact h.addBus.quiet _
  | join bus mtu slots => exact h.join bus mtu slots
  | start n noRetransmit failsAt => exact h.withStation fun _ _ hn hs => h.start hn hs noRetransmit failsAt
  | configure n filters => exact h.withStation fun _ _ hn hs => h.configure hn hs filters
  | inject n frames => exact h.withStation fun _ _ _ hs => h.inject hs frames
  | send n frames => exact h.withStation fun _ _ hn hs => h.send hn hs frames
  | arm n fault => exact h.withStation fun _ _ hn hs => h.arm hn hs fault
  | close n => exact h.withStation fun _ _ hn hs => h.close hn hs
  | drop n => exact h.withStation fun _ _ _ _ => (h.discard n).quiet _
  | pop n => exact absurd rfl (hop n)

/-- Taking what a handler has collected leaves a network alike. -/
theorem alike_pop (net : Network) (n : Nat) : net.Alike (net.apply (.pop n)).net := by
  have heffect := apply_effect net (.pop n)
  generalize net.apply (.pop n) = reaction at heffect ⊢
  cases heffect with
  | absent op => exact .refl net
  | refused hdeclined => exact .refl net
  | pop hstation hpop =>
    obtain ⟨rest, -, rfl⟩ := Receiver.pop_eq_ok_iff.1 hpop
    exact alike_put hstation ⟨rfl, rfl, rfl, rfl, rfl, rfl, rfl⟩

/-- **A whole run** from alike networks ends in alike networks, whatever handlers fail on the way. -/
theorem Alike.after (h : net.Alike net') (ops : List Operation) : (net.after ops).Alike (net'.after ops) := by
  induction ops generalizing net net' with
  | nil => exact h
  | cons op ops ih =>
    rw [after_cons, after_cons]
    refine ih ?_
    by_cases hpop : ∃ n, op = .pop n
    · obtain ⟨n, rfl⟩ := hpop
      exact ((alike_pop net n).symm.trans h).trans (alike_pop net' n)
    · exact (h.apply fun n hn => hpop ⟨n, hn⟩).net_alike

/-! ## Failures -/

/-- A handler fails during deliveries only. -/
theorem apply_failed {op : Operation} (h : (net.apply op).answer = .handlerFailed) :
    (∀ n, op ≠ .pop n) ∧ ∃ offers value, net.apply op = net.delivering offers value := by
  have heffect := apply_effect net op
  generalize net.apply op = reaction at heffect h ⊢
  cases heffect with
  | inject hstation hphase frames => exact ⟨nofun, _, _, rfl⟩
  | send hstation hphase hfault hcheck => exact ⟨nofun, _, _, rfl⟩
  | _ => cases h

/-- If no handler fails, every call comes to its end. -/
theorem deliver_completed (offers : List (Nat × List Frame)) (hdone : (net.deliver offers).2.2 = true) :
    ∀ call ∈ (net.deliver offers).2.1, call.delivery.completed = true := by
  induction offers generalizing net with
  | nil => simp
  | cons offer rest ih =>
    obtain ⟨n, frames⟩ := offer
    rcases offerTo_cases net n frames with ⟨hnone, -⟩ | ⟨station, delivery, -, hoffer, -⟩
    · rw [deliver_cons_of_none hnone] at hdone ⊢
      exact ih hdone
    · cases hcompleted : delivery.completed with
      | false =>
        rw [deliver_cons_of_failed hoffer hcompleted] at hdone
        cases hdone
      | true =>
        rw [deliver_cons_of_completed hoffer hcompleted] at hdone ⊢
        exact List.forall_mem_cons.2 ⟨hcompleted, ih hdone⟩

theorem delivering_completed {offers : List (Nat × List Frame)} {value : Answer}
    (hdone : (net.delivering offers value).answer ≠ .handlerFailed) :
    ∀ call ∈ (net.delivering offers value).calls, call.delivery.completed = true := by
  refine deliver_completed offers ?_
  cases hflag : (net.deliver offers).2.2 with
  | true => rfl
  | false =>
    refine absurd ?_ hdone
    rw [answer_delivering, hflag]
    rfl

theorem apply_completed {op : Operation} (h : (net.apply op).answer ≠ .handlerFailed) :
    ∀ call ∈ (net.apply op).calls, call.delivery.completed = true := by
  have heffect := apply_effect net op
  generalize net.apply op = reaction at heffect h ⊢
  cases heffect with
  | inject hstation hphase frames => exact delivering_completed h
  | send hstation hphase hfault hcheck => exact delivering_completed h
  | _ => simp [quiet]

/-! ## Networks without failing handlers -/

/-- The network with handlers that never fail in the place of its own. -/
def calmed (net : Network) : Network :=
  ⟨net.rosters, net.stations.map (·.map fun station => { station with receiver := station.receiver.calmed })⟩

theorem station?_calmed (net : Network) (n : Nat) :
    net.calmed.station? n =
      (net.station? n).map fun station => { station with receiver := station.receiver.calmed } := by
  simp only [station?, calmed, List.getElem?_map]
  cases net.stations[n]? <;> rfl

theorem alike_calmed (net : Network) : net.calmed.Alike net where
  rosters_eq := rfl
  length_eq := List.length_map ..
  stations n := by
    rw [station?_calmed]
    cases net.station? n with
    | none => exact .none
    | some station =>
      refine .some ⟨rfl, rfl, rfl, rfl, rfl, rfl, ?_⟩
      rw [Receiver.handler_calmed, Option.isSome_map]

/-- No station has a handler that may fail. -/
def Harmless (net : Network) : Prop := ∀ n station, net.station? n = some station → station.receiver.Harmless

theorem harmless_calmed (net : Network) : net.calmed.Harmless := by
  intro n station hstation
  rw [station?_calmed] at hstation
  obtain ⟨own, -, rfl⟩ := Option.map_eq_some_iff.1 hstation
  have hcalmed := own.receiver.handler_calmed
  cases hhandler : own.receiver.handler with
  | none => exact .inl (by rw [hcalmed, hhandler]; rfl)
  | some handler => exact .inr ⟨handler.calls, by rw [hcalmed, hhandler]; rfl⟩

theorem Harmless.put (h : net.Harmless) {n : Nat} {station station' : Station}
    (hstation : net.station? n = some station) (hreceiver : station'.receiver.Harmless) :
    (net.put n station').Harmless := by
  intro p other hother
  rcases station?_put_cases (lt_of_station? hstation) hother with ⟨-, rfl⟩ | ⟨-, hother⟩
  · exact hreceiver
  · exact h p other hother

theorem Harmless.net_deliver (h : net.Harmless) (offers : List (Nat × List Frame)) :
    (net.deliver offers).1.Harmless := by
  intro p other hother
  rw [deliver_station?] at hother
  obtain ⟨station, hstation, rfl⟩ := Option.map_eq_some_iff.1 hother
  exact (h p station hstation).afterCalls _

theorem Harmless.deliver (h : net.Harmless) (offers : List (Nat × List Frame)) : (net.deliver offers).2.2 = true := by
  induction offers generalizing net with
  | nil => rfl
  | cons offer rest ih =>
    obtain ⟨n, frames⟩ := offer
    cases hoffer : net.offerTo n frames with
    | none =>
      rw [deliver_cons_of_none hoffer]
      exact ih h
    | some made =>
      obtain ⟨next, call⟩ := made
      obtain ⟨station, hstation, hcall⟩ := Option.bind_eq_some_iff.1 hoffer
      obtain ⟨delivery, hdelivery, hmade⟩ := Option.map_eq_some_iff.1 hcall
      cases hmade
      obtain ⟨hreceiver, hcompleted⟩ := (h n station hstation).offer frames
      rw [deliver_cons_of_completed hoffer (hcompleted delivery hdelivery)]
      exact ih (h.put hstation hreceiver)

theorem Harmless.apply (h : net.Harmless) (op : Operation) : (net.apply op).answer ≠ .handlerFailed := by
  have heffect := apply_effect net op
  generalize net.apply op = reaction at heffect ⊢
  cases heffect with
  | @inject n station hstation hphase frames => simp [Network.delivering, h.deliver]
  | @send n station frames hstation hphase hfault hcheck => simp [Network.delivering, h.deliver]
  | _ => simp [Network.quiet]

/-- No handler that may fail is registered by the operation. -/
def Operation.Harmless (op : Operation) : Prop :=
  ∀ n noRetransmit failsAt, op = .start n noRetransmit failsAt → failsAt = []

theorem Harmless.step (h : net.Harmless) {op : Operation} (hop : op.Harmless) : (net.apply op).net.Harmless := by
  have heffect := apply_effect net op
  generalize net.apply op = reaction at heffect ⊢
  cases heffect with
  | absent op => exact h
  | refused hdeclined => exact h
  | addBus => exact h
  | join hbus hmtu hslots =>
    intro p station hstation
    have henrol := (station?_enrol net _ _ _ p).symm.trans hstation
    by_cases hp : p = net.stations.length
    · rw [if_pos hp] at henrol
      cases henrol
      exact .inl rfl
    · rw [if_neg hp] at henrol
      exact h p station henrol
  | start hstation hphase noRetransmit failsAt =>
    obtain rfl := hop _ noRetransmit failsAt rfl
    exact h.put hstation (.inr (Receiver.reliable_register _))
  | configure hstation hphase hreceiver =>
    have hbefore := h _ _ hstation
    exact h.put hstation (hbefore.reconfigure hreceiver)
  | inject hstation hphase frames => exact h.net_deliver [(_, frames)]
  | meetFault hstation hphase hfault frames =>
    have hbefore := h _ _ hstation
    exact h.put hstation hbefore
  | send hstation hphase hfault hcheck => exact h.net_deliver (net.broadcast _ _ _)
  | arm hstation fault =>
    have hbefore := h _ _ hstation
    exact h.put hstation hbefore
  | close hstation hphase => exact h.put hstation (.inl (Receiver.handler_unregister _))
  | @drop n station hstation =>
    intro p other hother
    by_cases hp : p = n
    · subst hp
      cases (station?_discard_self net p).symm.trans hother
    · exact h p other ((station?_discard_of_ne hp).symm.trans hother)
  | pop hstation hpop =>
    obtain ⟨rest, -, rfl⟩ := Receiver.pop_eq_ok_iff.1 hpop
    have hbefore := h _ _ hstation
    exact h.put hstation hbefore

/-- A run that registers no handler that may fail. -/
theorem Harmless.after (h : net.Harmless) {ops : List Operation} (hops : ∀ op ∈ ops, op.Harmless) :
    (net.after ops).Harmless := by
  induction ops generalizing net with
  | nil => exact h
  | cons op ops ih =>
    obtain ⟨hop, hlater⟩ := List.forall_mem_cons.1 hops
    exact ih (h.step hop) hlater

/-! ## The theorem -/

/-- What a station collects of calls that come to their end but for the last one. -/
theorem collected_cutShort {front : List Call} (hfront : ∀ call ∈ front, call.delivery.completed = true) (call : Call)
    (p : Nat) (station : Station) :
    (station.afterCalls (deliveriesTo p (front ++ [call.failed]))).receiver.collected =
      station.receiver.collected ++ (deliveriesTo p front).flatMap (·.batch) := by
  have hkept : (deliveriesTo p front).filter (·.completed) = deliveriesTo p front := by
    refine List.filter_eq_self.2 fun delivery hdelivery => ?_
    obtain ⟨made, hmade, rfl⟩ := List.mem_map.1 hdelivery
    exact hfront made (List.mem_filter.1 hmade).1
  have hlast : (deliveriesTo p [call.failed]).filter (·.completed) = [] := by
    refine List.filter_eq_nil_iff.2 fun delivery hdelivery => ?_
    obtain ⟨made, hmade, rfl⟩ := List.mem_map.1 hdelivery
    rw [List.mem_singleton.1 (List.mem_filter.1 hmade).1]
    exact Bool.false_ne_true
  simp only [Station.afterCalls, Receiver.afterCalls, deliveriesTo_append, List.filter_append, hkept, hlast,
    List.append_nil]

/-- The lock of a station is poisoned by the calls that come to their end but for the last one, if that is its own. -/
theorem poisoned_cutShort {front : List Call} (hfront : ∀ call ∈ front, call.delivery.completed = true) (call : Call)
    (p : Nat) (station : Station) :
    (station.afterCalls (deliveriesTo p (front ++ [call.failed]))).receiver.slot.poisoned =
      (station.receiver.slot.poisoned || call.station == p) := by
  have hkept : (deliveriesTo p front).any (!·.completed) = false := by
    refine List.any_eq_false.2 fun delivery hdelivery => ?_
    obtain ⟨made, hmade, rfl⟩ := List.mem_map.1 hdelivery
    simp [hfront made (List.mem_filter.1 hmade).1]
  have hlast : (deliveriesTo p [call.failed]).any (!·.completed) = (call.station == p) := by
    by_cases hp : call.station = p <;> simp [deliveriesTo, Call.failed, hp]
  simp only [Station.afterCalls, Receiver.afterCalls, deliveriesTo_append, List.any_append, hkept, hlast,
    Bool.false_or]

/-- **The failure of a handler is contained.**  Take an operation in which a handler fails, and the same operation on
any network that is alike and in which none fails; the network with its handlers calmed is one.  The calls made are
those of the second up to the one that fails.  The batch of that one is not collected, the lock of its handler is
poisoned, and of no other, and the networks are alike afterwards.  They stay so over whatever follows, and a later
operation has the same answer and makes the same calls unless a handler fails again. -/
theorem failure_contained {op : Operation} (hfailed : (net.apply op).answer = .handlerFailed) :
    (net.calmed.Alike net ∧ (net.calmed.apply op).answer ≠ .handlerFailed) ∧
    ∀ calm : Network, calm.Alike net → (calm.apply op).answer ≠ .handlerFailed →
      (∃ front call back, (calm.apply op).calls = front ++ call :: back ∧
        (net.apply op).calls = front ++ [call.failed] ∧
        ∀ p station, net.station? p = some station → ∃ station', (net.apply op).net.station? p = some station' ∧
          station'.receiver.collected =
            station.receiver.collected ++ (deliveriesTo p front).flatMap (·.batch) ∧
          station'.receiver.slot.poisoned = (station.receiver.slot.poisoned || call.station == p)) ∧
      (net.apply op).net.Alike (calm.apply op).net ∧
      ∀ between later,
        let after := (net.apply op).net.after between
        let calmAfter := (calm.apply op).net.after between
        after.Alike calmAfter ∧ ((∀ n, later ≠ .pop n) →
          (after.apply later).answer ≠ .handlerFailed → (calmAfter.apply later).answer ≠ .handlerFailed →
            (after.apply later).answer = (calmAfter.apply later).answer ∧
              (after.apply later).calls = (calmAfter.apply later).calls) := by
  obtain ⟨hop, offers, value, happly⟩ := apply_failed hfailed
  refine ⟨⟨alike_calmed net, (harmless_calmed net).apply op⟩, fun calm halike hcalm => ?_⟩
  have hreaction := halike.symm.apply hop
  rcases hreaction.compares with ⟨hanswer, -⟩ | ⟨-, front, call, back, hfull, hcut⟩ | ⟨hfailed', -⟩
  · exact absurd (hanswer.symm.trans hfailed) hcalm
  · have hfront : ∀ call ∈ front, call.delivery.completed = true := fun made hmade =>
      apply_completed hcalm made (hfull ▸ List.mem_append_left _ hmade)
    refine ⟨⟨front, call, back, hfull, hcut, fun p station hp => ?_⟩, hreaction.net_alike, fun between later => ?_⟩
    · refine ⟨_, ?_, collected_cutShort hfront call p station, poisoned_cutShort hfront call p station⟩
      rw [← hcut, happly]
      exact (deliver_station? net offers p).trans (by rw [hp]; rfl)
    · have hafter := hreaction.net_alike.after between
      refine ⟨hafter, fun hlater hnot hnot' => ?_⟩
      rcases (hafter.apply hlater).compares with hsame | ⟨hagain, -⟩ | ⟨hagain, -⟩
      · exact hsame
      · exact absurd hagain hnot
      · exact absurd hagain hnot'
  · exact absurd hfailed' hcalm

/-- Station 0 sends to 1, 2 and 3; the handler of 2 fails at its first call. -/
def brittle : Network :=
  empty.after [.addBus, .join 0 8 1, .join 0 8 1, .join 0 8 1, .join 0 8 1, .start 0 false [], .start 1 false [],
    .start 2 false [1], .start 3 false [], .configure 1 [.promiscuous none], .configure 2 [.promiscuous none],
    .configure 3 [.promiscuous none]]

/-- `failure_contained` where the handler of 2 fails: its lock is poisoned, yet 2 is called by what 3 sends later. -/
theorem failure_contained_brittle :
    let batch := mixedBatch.take 1
    let heard := batch.map (·.tagged false)
    let failed := brittle.apply (.send 0 batch)
    let calm := brittle.calmed.apply (.send 0 batch)
    failed.answer = .handlerFailed ∧ calm.answer = .sent 1 ∧
      calm.calls = callWith 1 heard ++ callWith 2 heard ++ callWith 3 heard ∧
      failed.calls = callWith 1 heard ++ [⟨2, ⟨heard, false⟩⟩] ∧ failed.net.Alike calm.net ∧
      (∀ station, failed.net.station? 2 = some station →
        station.receiver.slot.acquire = .error station.receiver.handler) ∧
      ((failed.net.after [.join 0 8 1]).apply (.send 3 batch)).calls =
        callWith 1 heard ++ callWith 2 heard ++ callWith 3 (Batch.echoed batch) ∧
      ((failed.net.after [.join 0 8 1]).apply (.send 3 batch)).calls =
        ((calm.net.after [.join 0 8 1]).apply (.send 3 batch)).calls := by
  have hfailed : (brittle.apply (.send 0 (mixedBatch.take 1))).answer = .handlerFailed := by decide
  obtain ⟨⟨halike, hcalm⟩, hcontained⟩ := failure_contained hfailed
  obtain ⟨⟨front, call, back, -, hcut, hstations⟩, hnets, hlater⟩ := hcontained brittle.calmed halike hcalm
  obtain ⟨-, hsame⟩ := hlater [.join 0 8 1] (.send 3 (mixedBatch.take 1))
  refine ⟨hfailed, by decide, by decide, by decide, hnets, fun station hstation => Guarded.acquire_of_poisoned ?_,
    by decide, (hsame nofun (by decide) (by decide)).2⟩
  -- the call that failed is the last one, and it is one of station 2
  have hcalls : (brittle.apply (.send 0 (mixedBatch.take 1))).calls =
      callWith 1 ((mixedBatch.take 1).map (·.tagged false)) ++
        [⟨2, ⟨(mixedBatch.take 1).map (·.tagged false), false⟩⟩] := by
    decide
  obtain ⟨-, hlast⟩ := List.append_inj' (hcut.symm.trans hcalls) rfl
  have htwo : call.station = 2 := congrArg Call.station (List.singleton_inj.1 hlast)
  obtain ⟨own, hown⟩ : ∃ own, brittle.station? 2 = some own := Option.isSome_iff_exists.1 (by decide)
  obtain ⟨station', hafter, -, hpoisoned⟩ := hstations 2 own hown
  rw [hstation] at hafter
  cases hafter
  rw [hpoisoned, htwo]
  simp

end Network

end CanBus
