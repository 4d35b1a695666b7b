import CanBus.Proofs.Network.History

/-!
# Separation — buses do not interfere

What happens on a bus depends on what is asked of the stations made on it, and on the making of buses and stations,
which numbers them.  A run from which everything asked of other stations is struck out shows the same of the bus: the
answers to what is left, the calls of its stations, what they have collected, and who is on it (`buses_apart`).  Both
runs are compared step by step: a step that stays is the same in both (`SameAt.apply`), and one that is struck out
does not reach the stations of the bus (`apply_elsewhere`).
-/

namespace CanBus

namespace Network

/-- The station that an operation is asked of. -/
def Operation.station? : Operation → Option Nat
  | .addBus | .join _ _ _ => none
  | .start n _ _ | .configure n _ | .inject n _ | .send n _ | .arm n _ | .close n | .drop n | .pop n => some n

/-- Whether station `n` was made on the bus, by the list of all that were made. -/
def madeOn (made : List Origin) (bus n : Nat) : Bool := made[n]?.any (·.bus == bus)

/-- Whether an operation is left in a run that is reduced to a bus: it makes a bus or a station, or it is asked of a
station made on the bus. -/
def Operation.concerns (made : List Origin) (bus : Nat) (op : Operation) : Bool := op.station?.all (madeOn made bus)

variable {home : Nat → Bool} {bus : Nat} {net alone : Network}

/-! ## Networks that are the same at home -/

/-- The networks have as many buses and stations, and at home the same stations. -/
structure SameAt (home : Nat → Bool) (net alone : Network) : Prop where
  rosters_length : net.rosters.length = alone.rosters.length
  stations_length : net.stations.length = alone.stations.length
  station_eq : ∀ {n}, home n = true → net.station? n = alone.station? n

theorem SameAt.refl (home : Nat → Bool) (net : Network) : SameAt home net net := ⟨rfl, rfl, fun _ => rfl⟩

theorem SameAt.trans {between : Network} (h : SameAt home net between) (h' : SameAt home between alone) :
    SameAt home net alone :=
  ⟨h.rosters_length.trans h'.rosters_length, h.stations_length.trans h'.stations_length,
    fun hn => (h.station_eq hn).trans (h'.station_eq hn)⟩

theorem SameAt.symm (h : SameAt home net alone) : SameAt home alone net :=
  ⟨h.rosters_length.symm, h.stations_length.symm, fun hn => (h.station_eq hn).symm⟩

/-- At home are the stations of the bus and no others. -/
def Placed (home : Nat → Bool) (bus : Nat) (net : Network) : Prop :=
  ∀ {n station}, net.station? n = some station → (station.bus = bus ↔ home n = true)

/-- Who is on the bus is seen at home. -/
theorem SameAt.members_eq (h : SameAt home net alone) (hnet : net.Sound) (halone : alone.Sound)
    (hplaced : Placed home bus net) (hplaced' : Placed home bus alone) : net.members bus = alone.members bus := by
  have habroad : ∀ {net : Network}, Placed home bus net → ∀ {n}, home n = false →
      (net.station? n).bind (·.seat? bus n) = none := by
    intro net hplaced n hn
    cases hstation : net.station? n with
    | none => rfl
    | some station =>
      have hbus : station.bus ≠ bus := fun hbus => by
        rw [(hplaced hstation).1 hbus] at hn
        cases hn
      simp [Station.seat?, hbus]
  rw [hnet.members_eq, halone.members_eq]
  refine attached_congr h.stations_length fun n => ?_
  cases hn : home n with
  | true => rw [h.station_eq hn]
  | false => rw [habroad hplaced hn, habroad hplaced' hn]

/-- Whoever is on the bus is at home. -/
theorem home_of_member (hnet : net.Sound) (hplaced : Placed home bus net) {member : Member}
    (h : member ∈ net.members bus) : home member.station = true := by
  rw [hnet.members_eq] at h
  obtain ⟨station, hstation, hseat⟩ := mem_attached.1 h
  exact (hplaced hstation).1 (Station.seat?_eq_some_iff.1 hseat).1.1

/-! ## What keeps networks the same at home -/

theorem SameAt.put (h : SameAt home net alone) {n : Nat} (hn : n < net.stations.length) (station : Station) :
    SameAt home (net.put n station) (alone.put n station) where
  rosters_length := h.rosters_length
  stations_length := by rw [length_stations_put, length_stations_put, h.stations_length]
  station_eq {p} hp := by
    by_cases hpn : p = n
    · subst hpn
      rw [station?_put_self hn, station?_put_self (h.stations_length ▸ hn)]
    · rw [station?_put_of_ne hpn, station?_put_of_ne hpn, h.station_eq hp]

theorem SameAt.discard (h : SameAt home net alone) (n : Nat) : SameAt home (net.discard n) (alone.discard n) where
  rosters_length := h.rosters_length
  stations_length := by rw [length_stations_discard, length_stations_discard, h.stations_length]
  station_eq {p} hp := by
    by_cases hpn : p = n
    · rw [hpn, station?_discard_self, station?_discard_self]
    · rw [station?_discard_of_ne hpn, station?_discard_of_ne hpn, h.station_eq hp]

theorem SameAt.leave (h : SameAt home net alone) (bus n : Nat) : SameAt home (net.leave bus n) (alone.leave bus n) where
  rosters_length := by rw [length_rosters_leave, length_rosters_leave, h.rosters_length]
  stations_length := h.stations_length
  station_eq := h.station_eq

theorem SameAt.enrol (h : SameAt home net alone) (bus mtu slots : Nat) :
    SameAt home (net.enrol bus mtu slots) (alone.enrol bus mtu slots) where
  rosters_length := by simp [Network.enrol, h.rosters_length]
  stations_length := by simp [Network.enrol, h.stations_length]
  station_eq hp := by rw [station?_enrol, station?_enrol, h.stations_length, h.station_eq hp]

theorem SameAt.addBus (h : SameAt home net alone) : SameAt home net.addBus.1 alone.addBus.1 where
  rosters_length := by simp [Network.addBus, h.rosters_length]
  stations_length := h.stations_length
  station_eq := h.station_eq

/-- An offer at home does nothing in either network, or it makes the same call in both. -/
theorem SameAt.offerTo (h : SameAt home net alone) {n : Nat} (hn : home n = true) (frames : List Frame) :
    net.offerTo n frames = none ∧ alone.offerTo n frames = none ∨
      ∃ left right call, net.offerTo n frames = some (left, call) ∧ alone.offerTo n frames = some (right, call) ∧
        SameAt home left right := by
  unfold Network.offerTo
  rw [← h.station_eq hn]
  cases hstation : net.station? n with
  | none => exact .inl ⟨rfl, rfl⟩
  | some station =>
    rcases hoffer : station.receiver.offer frames with ⟨receiver, _ | delivery⟩
    · exact .inl ⟨by simp [hoffer], by simp [hoffer]⟩
    · have hput := h.put (lt_of_station? hstation) { station with receiver := receiver }
      exact .inr ⟨_, _, ⟨n, delivery⟩, by simp [hoffer], by simp [hoffer], hput⟩

/-- **What is offered at home** is taken in the same way. -/
theorem SameAt.deliver (h : SameAt home net alone) {offers : List (Nat × List Frame)}
    (hoffers : ∀ offer ∈ offers, home offer.1 = true) :
    SameAt home (net.deliver offers).1 (alone.deliver offers).1 ∧
      (net.deliver offers).2 = (alone.deliver offers).2 := by
  induction offers generalizing net alone with
  | nil => exact ⟨h, rfl⟩
  | cons offer rest ih =>
    obtain ⟨n, frames⟩ := offer
    obtain ⟨hn, hrest⟩ := List.forall_mem_cons.1 hoffers
    rcases h.offerTo hn frames with ⟨hnone, hnone'⟩ | ⟨left, right, call, hsome, hsome', hnext⟩
    · rw [deliver_cons_of_none hnone, deliver_cons_of_none hnone']
      exact ih h hrest
    · cases hdone : call.delivery.completed with
      | false =>
        rw [deliver_cons_of_failed hsome hdone, deliver_cons_of_failed hsome' hdone]
        exact ⟨hnext, rfl⟩
      | true =>
        rw [deliver_cons_of_completed hsome hdone, deliver_cons_of_completed hsome' hdone]
        obtain ⟨hlast, hsame⟩ := ih hnext hrest
        exact ⟨hlast, by rw [hsame]⟩

/-! ## What is done at home -/

/-- The reactions are the same, as far as seen from home. -/
structure Reaction.SameAt (home : Nat → Bool) (reaction reaction' : Reaction) : Prop where
  net_same : Network.SameAt home reaction.net reaction'.net
  answer_eq : reaction.answer = reaction'.answer
  calls_eq : reaction.calls = reaction'.calls

theorem SameAt.quiet (h : SameAt home net alone) (answer : Answer) :
    (net.quiet answer).SameAt home (alone.quiet answer) := ⟨h, rfl, rfl⟩

theorem SameAt.delivering (h : SameAt home net alone) {offers : List (Nat × List Frame)}
    (hoffers : ∀ offer ∈ offers, home offer.1 = true) (value : Answer) :
    (net.delivering offers value).SameAt home (alone.delivering offers value) := by
  obtain ⟨hnet, hsame⟩ := h.deliver hoffers
  refine ⟨hnet, ?_, congrArg (·.1) hsame⟩
  rw [answer_delivering, answer_delivering, hsame]

theorem SameAt.withStation (h : SameAt home net alone) {n : Nat} (hn : home n = true) {act act' : Station → Reaction}
    (hact : ∀ station, net.station? n = some station → (act station).SameAt home (act' station)) :
    (net.withStation n act).SameAt home (alone.withStation n act') := by
  unfold Network.withStation
  rw [← h.station_eq hn]
  cases hstation : net.station? n with
  | none => exact h.quiet .absent
  | some station => exact hact station hstation

section Operations

variable {n : Nat} {station : Station} (h : SameAt home net alone) (hstation : net.station? n = some station)

include h hstation

theorem SameAt.start (noRetransmit : Bool) (failsAt : List Nat) :
    (net.start n station noRetransmit failsAt).SameAt home (alone.start n station noRetransmit failsAt) := by
  unfold Network.start
  cases station.phase.start with
  | error fault => exact h.quiet _
  | ok phase => exact (h.put (lt_of_station? hstation) _).quiet _

theorem SameAt.configure (filters : List Filter) :
    (net.configure n station filters).SameAt home (alone.configure n station filters) := by
  unfold Network.configure
  cases station.phase.requireStarted with
  | error fault => exact h.quiet _
  | ok _ =>
    cases station.receiver.reconfigure filters with
    | error fault => exact h.quiet _
    | ok receiver => exact (h.put (lt_of_station? hstation) _).quiet _

omit hstation in
theorem SameAt.inject (hn : home n = true) (frames : List Frame) :
    (net.inject n station frames).SameAt home (alone.inject n station frames) := by
  unfold Network.inject
  cases station.phase.requireStarted with
  | error fault => exact h.quiet _
  | ok _ => exact h.delivering (by simpa using hn) _

/-- Whoever hears a station of the bus is at home. -/
theorem SameAt.send (hnet : net.Sound) (halone : alone.Sound) (hplaced : Placed home bus net)
    (hplaced' : Placed home bus alone) (hn : home n = true) (frames : List Frame) :
    (net.send n station frames).SameAt home (alone.send n station frames) := by
  have hbus : station.bus = bus := (hplaced hstation).2 hn
  have hoffers : ∀ offer ∈ net.broadcast n bus frames, home offer.1 = true := by
    intro offer hoffer
    rcases List.mem_append.1 hoffer with hother | hself
    · obtain ⟨member, hmember, rfl⟩ := List.mem_map.1 hother
      exact home_of_member hnet hplaced (List.mem_filter.1 hmember).1
    · rw [List.mem_singleton.1 hself]
      exact hn
  have hbroadcast : alone.broadcast n bus frames = net.broadcast n bus frames := by
    rw [broadcast, broadcast, h.members_eq hnet halone hplaced hplaced']
  unfold Network.send
  rw [hbus, hbroadcast]
  cases station.phase.requireStarted with
  | error fault => exact h.quiet _
  | ok _ =>
    cases station.fault with
    | some fault => exact (h.put (lt_of_station? hstation) _).quiet _
    | none =>
      cases Batch.check frames station.mtu with
      | error fault => exact h.quiet _
      | ok _ => exact h.delivering hoffers _

theorem SameAt.close : (net.close n station).SameAt home (alone.close n station) := by
  unfold Network.close
  cases station.phase.close with
  | error fault => exact h.quiet _
  | ok phase => exact ((h.put (lt_of_station? hstation) _).leave _ n).quiet _

theorem SameAt.pop : (net.pop n station).SameAt home (alone.pop n station) := by
  unfold Network.pop
  cases station.receiver.pop with
  | error fault => exact h.quiet _
  | ok taken => exact (h.put (lt_of_station? hstation) _).quiet _

end Operations

theorem SameAt.join (h : SameAt home net alone) (bus mtu slots : Nat) :
    (net.apply (.join bus mtu slots)).SameAt home (alone.apply (.join bus mtu slots)) := by
  rcases apply_join_cases h.rosters_length h.stations_length bus mtu slots with
    ⟨answer, hleft, hright⟩ | ⟨answer, hleft, hright⟩
  · rw [hleft, hright]
    exact h.quiet answer
  · rw [hleft, hright]
    exact (h.enrol bus mtu slots).quiet answer

/-- **A step at home** is the same in both networks. -/
theorem SameAt.apply (h : SameAt home net alone) (hnet : net.Sound) (halone : alone.Sound)
    (hplaced : Placed home bus net) (hplaced' : Placed home bus alone) {op : Operation}
    (hop : op.station?.all home = true) : (net.apply op).SameAt home (alone.apply op) := by
  cases op with
  | addBus =>
    refine ⟨h.addBus, ?_, rfl⟩
    show Answer.bus net.rosters.length = .bus alone.rosters.length
    rw [h.rosters_length]
  | join bus mtu slots => exact h.join bus mtu slots
  | start n noRetransmit failsAt => exact h.withStation hop fun _ hn => h.start hn noRetransmit failsAt
  | configure n filters => exact h.withStation hop fun _ hn => h.configure hn filters
  | inject n frames => exact h.withStation hop fun _ _ => h.inject hop frames
  | send n frames => exact h.withStation hop fun _ hn => h.send hn hnet halone hplaced hplaced' hop frames
  | arm n fault => exact h.withStation hop fun _ hn => (h.put (lt_of_station? hn) _).quiet _
  | close n => exact h.withStation hop fun _ hn => h.close hn
  | drop n => exact h.withStation hop fun _ _ => (h.discard n).quiet _
  | pop n => exact h.withStation hop fun _ hn => h.pop hn

/-! ## What is done elsewhere -/

theorem sameAt_put {n : Nat} (hn : home n = false) (station : Station) : SameAt home net (net.put n station) where
  rosters_length := rfl
  stations_length := (length_stations_put net n station).symm
  station_eq {p} hp := by
    have hne : p ≠ n := by
      rintro rfl
      rw [hn] at hp
      cases hp
    rw [station?_put_of_ne hne]

theorem sameAt_deliver {offers : List (Nat × List Frame)} (hoffers : ∀ offer ∈ offers, home offer.1 = false) :
    SameAt home net (net.deliver offers).1 ∧ ∀ call ∈ (net.deliver offers).2.1, home call.station = false := by
  have hcalls : ∀ call ∈ (net.deliver offers).2.1, home call.station = false := by
    intro call hcall
    obtain ⟨offer, hoffer, heq⟩ := List.mem_map.1 (mem_deliver hcall).1
    rw [← heq]
    exact hoffers offer hoffer
  refine ⟨⟨by rw [deliver_rosters], (deliver_length net offers).symm, fun {p} hp => ?_⟩, hcalls⟩
  have hnone : deliveriesTo p (net.deliver offers).2.1 = [] := by
    rw [deliveriesTo, List.filter_eq_nil_iff.2, List.map_nil]
    intro call hcall hself
    rw [← beq_iff_eq.1 hself, hcalls call hcall] at hp
    cases hp
  rw [deliver_station?, hnone]
  cases net.station? p <;> simp

/-- Whoever hears a station of another bus is not at home. -/
theorem away_of_broadcast (hnet : net.Sound) (hplaced : Placed home bus net) {n : Nat} {station : Station}
    (hstation : net.station? n = some station) (hn : home n = false) (frames : List Frame) :
    ∀ offer ∈ net.broadcast n station.bus frames, home offer.1 = false := by
  intro offer hoffer
  rcases List.mem_append.1 hoffer with hother | hself
  · obtain ⟨member, hmember, rfl⟩ := List.mem_map.1 hother
    have hmember := (List.mem_filter.1 hmember).1
    rw [hnet.members_eq] at hmember
    obtain ⟨other, hother, hseat⟩ := mem_attached.1 hmember
    obtain ⟨⟨hbus, -⟩, -⟩ := Station.seat?_eq_some_iff.1 hseat
    rw [Bool.eq_false_iff, ne_eq, ← hplaced hother, hbus, hplaced hstation, hn]
    exact Bool.false_ne_true
  · rw [List.mem_singleton.1 hself]
    exact hn

/-- **A step elsewhere** changes nothing at home and calls no handler there. -/
theorem apply_elsewhere (hnet : net.Sound) (hplaced : Placed home bus net) {op : Operation}
    (hop : op.station?.all home = false) :
    SameAt home net (net.apply op).net ∧ ∀ call ∈ (net.apply op).calls, home call.station = false := by
  have heffect := apply_effect net op
  generalize net.apply op = reaction at heffect ⊢
  cases heffect with
  | absent op => exact ⟨.refl home net, nofun⟩
  | refused hdeclined => exact ⟨.refl home net, nofun⟩
  | addBus => cases hop
  | join hbus hmtu hslots => cases hop
  | start h hphase noRetransmit failsAt => exact ⟨sameAt_put hop _, nofun⟩
  | configure h hphase hreceiver => exact ⟨sameAt_put hop _, nofun⟩
  | @inject n station h hphase frames =>
    have hn : home n = false := hop
    have hoffers : ∀ offer ∈ [(n, frames)], home offer.1 = false := by simpa using hn
    exact sameAt_deliver hoffers
  | meetFault h hphase hfault frames => exact ⟨sameAt_put hop _, nofun⟩
  | send h hphase hfault hcheck => exact sameAt_deliver (away_of_broadcast hnet hplaced h hop _)
  | arm h fault => exact ⟨sameAt_put hop _, nofun⟩
  | @close n station h hphase =>
    have hput : SameAt home net (net.put n { station with
        phase := .closed, receiver := station.receiver.unregister }) := sameAt_put hop _
    refine ⟨⟨?_, hput.stations_length, hput.station_eq⟩, nofun⟩
    exact (length_rosters_leave (net.put n _) station.bus n).symm
  | @drop n station h =>
    refine ⟨⟨rfl, (length_stations_discard net n).symm, fun {p} hp => ?_⟩, nofun⟩
    have hne : p ≠ n := by
      rintro rfl
      exact absurd (hop.symm.trans hp) Bool.false_ne_true
    exact (station?_discard_of_ne hne).symm
  | pop h hpop => exact ⟨sameAt_put hop _, nofun⟩

/-! ## Whole runs -/

/-- The stations of the bus stay at home, if a station made on the bus is at home from the start. -/
theorem Placed.step (hplaced : Placed home bus net) (op : Operation)
    (hnew : ∀ {origin}, origin? (op, (net.apply op).answer) = some origin →
      (origin.bus = bus ↔ home net.stations.length = true)) : Placed home bus (net.apply op).net := by
  have heffect := apply_effect net op
  generalize net.apply op = reaction at heffect hnew ⊢
  intro p station hstation
  by_cases hp : p = net.stations.length
  · have hlength := heffect.length_eq
    have hlt := lt_of_station? hstation
    cases hmade : origin? (op, reaction.answer) with
    | none =>
      rw [hmade, Option.toList_none, List.length_nil] at hlength
      omega
    | some origin =>
      subst hp
      obtain ⟨-, -, hfresh⟩ := heffect.made hmade
      obtain rfl := Option.some.inj (hstation.symm.trans hfresh)
      exact hnew hmade
  · have hfate := heffect.fate hp
    rw [hstation] at hfate
    generalize hold : net.station? p = old at hfate
    cases hfate with
    | kept hentry hkept =>
      rw [hkept.bus_eq]
      exact hplaced hold

/-- The number of a new station is its place in the list of all that are made. -/
theorem origins_eq_some {before after : List Operation} {op : Operation} {origin : Origin}
    (h : origin? (op, ((empty.after before).apply op).answer) = some origin) :
    (empty.history (before ++ op :: after)).origins[(empty.after before).stations.length]? = some origin := by
  rw [(after_tells before).length_eq, history_append, history]
  simp [History.origins, List.filterMap_cons_some h]

/-- **The two runs** lead to networks that are the same at home, and the stations of the bus are at home in both. -/
theorem apart_after (before after : List Operation) (bus : Nat) :
    let made := (empty.history (before ++ after)).origins
    let net := empty.after before
    let alone := empty.after (before.filter (·.concerns made bus))
    SameAt (madeOn made bus) net alone ∧ Placed (madeOn made bus) bus net ∧ Placed (madeOn made bus) bus alone := by
  -- operations move to the end of the first part, so that the list of all that is made stays the same
  induction before using List.reverseRecOn generalizing after with
  | nil => exact ⟨.refl _ _, fun h => by simp [station?, empty] at h, fun h => by simp [station?, empty] at h⟩
  | append_singleton before op ih =>
    rw [List.append_assoc, List.singleton_append]
    intro made net alone
    obtain ⟨hsame, hplaced, hplaced'⟩ := ih (op :: after)
    have hsound : (empty.after before).Sound := Reachable.sound ⟨_, rfl⟩
    have hsound' : (empty.after (before.filter (·.concerns made bus))).Sound := Reachable.sound ⟨_, rfl⟩
    have hnew : ∀ {origin}, origin? (op, ((empty.after before).apply op).answer) = some origin →
        (origin.bus = bus ↔ madeOn made bus (empty.after before).stations.length = true) := by
      intro origin horigin
      have hthere : made[(empty.after before).stations.length]? = some origin := origins_eq_some horigin
      rw [madeOn, hthere, Option.any_some, beq_iff_eq]
    have hnet : net = ((empty.after before).apply op).net := by
      rw [show net = empty.after (before ++ [op]) from rfl, after_append, after_cons, after_nil]
    have hstep : Placed (madeOn made bus) bus net := hnet ▸ hplaced.step op hnew
    cases hop : op.concerns made bus with
    | true =>
      -- both runs take the step, and if it makes a station then with the same number
      have halone : alone = ((empty.after (before.filter (·.concerns made bus))).apply op).net := by
        rw [show alone = empty.after ((before ++ [op]).filter (·.concerns made bus)) from rfl, List.filter_append,
          List.filter_cons_of_pos hop, List.filter_nil, after_append, after_cons, after_nil]
      have hreaction := hsame.apply hsound hsound' hplaced hplaced' hop
      refine ⟨hnet ▸ halone ▸ hreaction.net_same, hstep, halone ▸ hplaced'.step op fun horigin => ?_⟩
      rw [← hsame.stations_length]
      exact hnew (hreaction.answer_eq ▸ horigin)
    | false =>
      have halone : alone = empty.after (before.filter (·.concerns made bus)) := by
        rw [show alone = empty.after ((before ++ [op]).filter (·.concerns made bus)) from rfl, List.filter_append,
          List.filter_cons_of_neg (by simp [hop]), List.filter_nil, List.append_nil]
      exact ⟨hnet ▸ halone ▸ (apply_elsewhere hsound hplaced hop).1.symm.trans hsame, hstep, halone ▸ hplaced'⟩

/-- **Buses do not interfere.**  Let everything that is asked of stations of other buses be struck out of a run.  At
every point the bus has the same stations on it as in the whole run, and each station made on it is the same, with
what it has collected.  Each step that is left has the same answer and makes the same calls, and the steps struck out
call no handler of the bus. -/
theorem buses_apart (ops : List Operation) (bus : Nat) :
    let made := (empty.history ops).origins
    (∀ before after, ops = before ++ after →
      let net := empty.after before
      let alone := empty.after (before.filter (·.concerns made bus))
      alone.members bus = net.members bus ∧ alone.memberCount bus = net.memberCount bus ∧
      (∀ n, alone.contains bus n = net.contains bus n) ∧
      ∀ n, madeOn made bus n = true → alone.station? n = net.station? n) ∧
    ∀ before op after, ops = before ++ op :: after →
      let net := empty.after before
      let alone := empty.after (before.filter (·.concerns made bus))
      (op.concerns made bus = true →
        (alone.apply op).answer = (net.apply op).answer ∧ (alone.apply op).calls = (net.apply op).calls) ∧
      (op.concerns made bus = false → ∀ call ∈ (net.apply op).calls, madeOn made bus call.station = false) := by
  intro made
  have hsound : ∀ ops, (empty.after ops).Sound := fun ops => Reachable.sound ⟨ops, rfl⟩
  constructor
  · intro before after hops net alone
    obtain ⟨hsame, hplaced, hplaced'⟩ := apart_after before after bus
    rw [← hops] at hsame hplaced hplaced'
    have hmembers : alone.members bus = net.members bus :=
      (hsame.members_eq (hsound _) (hsound _) hplaced hplaced').symm
    refine ⟨hmembers, ?_, fun n => ?_, fun n hn => (hsame.station_eq hn).symm⟩
    · rw [memberCount, memberCount, hmembers]
    · rw [contains, contains, hmembers]
  · intro before op after hops net alone
    obtain ⟨hsame, hplaced, hplaced'⟩ := apart_after before (op :: after) bus
    rw [← hops] at hsame hplaced hplaced'
    constructor
    · intro hop
      have hreaction := hsame.apply (hsound _) (hsound _) hplaced hplaced' hop
      exact ⟨hreaction.answer_eq.symm, hreaction.calls_eq.symm⟩
    · intro hop
      exact (apply_elsewhere (hsound _) hplaced hop).2

/-- Stations 0 and 2 are on one bus; on the other 1 meets a fault, 3 is dropped and a handler of 4 fails. -/
def crossing : List Operation :=
  [.addBus, .addBus, .join 0 64 1, .join 1 64 1, .join 0 8 1, .join 1 8 1, .start 0 false [], .start 1 false [],
    .configure 1 [.promiscuous none], .start 2 true [], .drop 3, .join 1 8 1, .start 4 false [1],
    .configure 4 [.promiscuous none], .configure 2 [.promiscuous none], .arm 1 .closed, .send 1 mixedBatch,
    .send 1 mixedBatch, .close 1, .send 0 mixedBatch, .pop 2]

theorem buses_apart_crossing :
    let before := crossing.take 19
    let left := before.filter (·.concerns (empty.history crossing).origins 0)
    left = [.addBus, .addBus, .join 0 64 1, .join 1 64 1, .join 0 8 1, .join 1 8 1, .start 0 false [], .start 2 true [],
      .join 1 8 1, .configure 2 [.promiscuous none]] ∧
    (empty.after left).members 0 = (empty.after before).members 0 ∧
    (empty.after left).station? 2 = (empty.after before).station? 2 ∧
    ((empty.after left).apply (.send 0 mixedBatch)).calls = ((empty.after before).apply (.send 0 mixedBatch)).calls ∧
    ((empty.after left).apply (.send 0 mixedBatch)).calls = callWith 2 ((mixedBatch.take 1).map (·.tagged false)) := by
  intro before left
  obtain ⟨hpoints, hsteps⟩ := buses_apart crossing 0
  obtain ⟨hmembers, -, -, hstations⟩ := hpoints before (crossing.drop 19) (by decide)
  obtain ⟨-, hcalls⟩ := (hsteps before (.send 0 mixedBatch) (crossing.drop 20) (by decide)).1 (by decide)
  exact ⟨by decide, hmembers, hstations 2 (by decide), hcalls, by decide⟩

end Network

end CanBus
