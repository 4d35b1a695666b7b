import CanBus.Proofs.Network.Membership
import Mathlib.Data.List.Nodup

/-!
# Delivery — who hears a transmission

On a reachable network a transmission calls the handlers of the other started stations of the bus, in the order of
their joining, each with what its bank accepts of the frames that fit it, and then the sender's own handler with
what it asked back (`send_calls`).  Nothing but the stations called changes, and each of these only collects its
batches.
-/

namespace CanBus

/-- The call of a station's handler with a batch; an empty batch makes no call. -/
def callWith (n : Nat) (batch : List Frame) : List Call := if batch = [] then [] else [⟨n, ⟨batch, true⟩⟩]

/-- What the calls in a list say to one station. -/
def deliveriesTo (n : Nat) (calls : List Call) : List Delivery :=
  (calls.filter (·.station == n)).map (·.delivery)

theorem deliveriesTo_append (n : Nat) (calls more : List Call) :
    deliveriesTo n (calls ++ more) = deliveriesTo n calls ++ deliveriesTo n more := by simp [deliveriesTo]

namespace Station

/-- What a station is handed of a batch that another one sends. -/
def hearing (station : Station) (frames : List Frame) : List Frame :=
  (frames.filter fun frame => frame.payload.length ≤ station.mtu ∧ station.receiver.bank.accepts frame).map
    (·.tagged false)

/-- What a station is handed back of a batch that it sends. -/
def echo (station : Station) (frames : List Frame) : List Frame :=
  (frames.filter fun frame => frame.loopback ∧ station.receiver.bank.accepts frame).map (·.tagged true)

/-- The station after calls of its handler. -/
def afterCalls (station : Station) (deliveries : List Delivery) : Station :=
  { station with receiver := station.receiver.afterCalls deliveries }

@[simp] theorem afterCalls_nil (station : Station) : station.afterCalls [] = station := by
  rw [afterCalls, Receiver.afterCalls_nil]

theorem afterCalls_append (station : Station) (ds es : List Delivery) :
    station.afterCalls (ds ++ es) = (station.afterCalls ds).afterCalls es := by
  rw [afterCalls, Receiver.afterCalls_append]
  rfl

end Station

namespace Network

variable {net : Network}

/-! ## One offer -/

theorem offerTo_of_silent {n : Nat} {frames : List Frame}
    (h : ∀ station, net.station? n = some station →
      frames.filter station.receiver.bank.accepts = [] ∨ station.receiver.handler = none) :
    net.offerTo n frames = none := by
  unfold offerTo
  cases hstation : net.station? n with
  | none => rfl
  | some station => simp [Receiver.offer_of_silent (h station hstation)]

theorem offerTo_of_handler {n : Nat} {frames : List Frame} {station : Station} {handler : Handler}
    (hstation : net.station? n = some station) (hhandler : station.receiver.handler = some handler)
    (hbatch : frames.filter station.receiver.bank.accepts ≠ []) :
    ∃ completed, net.offerTo n frames =
      some (net.put n (station.afterCalls [⟨frames.filter station.receiver.bank.accepts, completed⟩]),
        ⟨n, ⟨frames.filter station.receiver.bank.accepts, completed⟩⟩) := by
  refine ⟨decide (handler.calls + 1 ∉ handler.failsAt), ?_⟩
  unfold offerTo
  rw [hstation, Option.bind_some, Receiver.offer_of_handler hbatch hhandler]
  rfl

/-- The calls that offering frames to a station makes, if its handler comes to its end. -/
def callsAt (net : Network) (n : Nat) (frames : List Frame) : List Call :=
  match net.station? n with
  | none => []
  | some station =>
    if station.receiver.handler.isSome then callWith n (frames.filter station.receiver.bank.accepts) else []

/-- An offer either does nothing or is one call of one station. -/
theorem offerTo_cases (net : Network) (n : Nat) (frames : List Frame) :
    net.offerTo n frames = none ∧ net.callsAt n frames = [] ∨
      ∃ station delivery, net.station? n = some station ∧
        net.offerTo n frames = some (net.put n (station.afterCalls [delivery]), ⟨n, delivery⟩) ∧
        net.callsAt n frames = [⟨n, ⟨delivery.batch, true⟩⟩] := by
  cases hstation : net.station? n with
  | none =>
    refine .inl ⟨offerTo_of_silent fun station h => ?_, by rw [callsAt, hstation]⟩
    rw [hstation] at h
    cases h
  | some station =>
    have honly : ∀ other, net.station? n = some other → other = station := by
      intro other h
      rw [hstation] at h
      exact (Option.some.inj h).symm
    cases hhandler : station.receiver.handler with
    | none =>
      refine .inl ⟨offerTo_of_silent fun other h => ?_, by simp [callsAt, hstation, hhandler]⟩
      rw [honly other h]
      exact .inr hhandler
    | some handler =>
      by_cases hbatch : frames.filter station.receiver.bank.accepts = []
      · refine .inl ⟨offerTo_of_silent fun other h => ?_, by simp [callsAt, callWith, hstation, hbatch]⟩
        rw [honly other h]
        exact .inl hbatch
      · obtain ⟨completed, hoffer⟩ := offerTo_of_handler hstation hhandler hbatch
        refine .inr ⟨station, _, rfl, hoffer, ?_⟩
        simp [callsAt, callWith, hstation, hhandler, hbatch]

/-! ## Many offers -/

theorem deliver_cons_of_none {n : Nat} {frames : List Frame} {rest : List (Nat × List Frame)}
    (h : net.offerTo n frames = none) : net.deliver ((n, frames) :: rest) = net.deliver rest := by
  rw [deliver, h]

theorem deliver_cons_of_completed {net' : Network} {n : Nat} {frames : List Frame} {call : Call}
    {rest : List (Nat × List Frame)} (h : net.offerTo n frames = some (net', call))
    (hdone : call.delivery.completed = true) :
    net.deliver ((n, frames) :: rest) =
      ((net'.deliver rest).1, call :: (net'.deliver rest).2.1, (net'.deliver rest).2.2) := by
  rw [deliver, h]
  simp [hdone]

theorem deliver_cons_of_failed {net' : Network} {n : Nat} {frames : List Frame} {call : Call}
    {rest : List (Nat × List Frame)} (h : net.offerTo n frames = some (net', call))
    (hdone : call.delivery.completed = false) : net.deliver ((n, frames) :: rest) = (net', [call], false) := by
  rw [deliver, h]
  simp [hdone]

/-- Delivering changes a station by the calls made to it, and nothing else. -/
theorem deliver_station? (net : Network) (offers : List (Nat × List Frame)) (p : Nat) :
    (net.deliver offers).1.station? p =
      (net.station? p).map (·.afterCalls (deliveriesTo p (net.deliver offers).2.1)) := by
  induction offers generalizing net with
  | nil => simp [deliveriesTo]
  | cons offer rest ih =>
    obtain ⟨n, frames⟩ := offer
    rcases offerTo_cases net n frames with ⟨hnone, -⟩ | ⟨station, delivery, hstation, hoffer, -⟩
    · rw [deliver_cons_of_none hnone]
      exact ih net
    · have hput : (net.put n (station.afterCalls [delivery])).station? p =
          (net.station? p).map (·.afterCalls (deliveriesTo p [⟨n, delivery⟩])) := by
        by_cases hp : p = n
        · subst hp
          rw [station?_put_self (lt_of_station? hstation), hstation]
          simp [deliveriesTo]
        · rw [station?_put_of_ne hp]
          simp [deliveriesTo, Ne.symm hp]
      cases hdone : delivery.completed with
      | false =>
        rw [deliver_cons_of_failed hoffer hdone]
        exact hput
      | true =>
        rw [deliver_cons_of_completed hoffer hdone]
        simp only [ih, hput, Option.map_map]
        congr 1
        funext other
        rw [Function.comp_apply, ← Station.afterCalls_append, ← deliveriesTo_append, List.singleton_append]

theorem deliver_rosters (net : Network) (offers : List (Nat × List Frame)) :
    (net.deliver offers).1.rosters = net.rosters := by
  induction offers generalizing net with
  | nil => rfl
  | cons offer rest ih =>
    obtain ⟨n, frames⟩ := offer
    rcases offerTo_cases net n frames with ⟨hnone, -⟩ | ⟨station, delivery, -, hoffer, -⟩
    · rw [deliver_cons_of_none hnone]
      exact ih net
    · cases hdone : delivery.completed with
      | false =>
        rw [deliver_cons_of_failed hoffer hdone]
        rfl
      | true =>
        rw [deliver_cons_of_completed hoffer hdone]
        exact ih _

theorem deliver_length (net : Network) (offers : List (Nat × List Frame)) :
    (net.deliver offers).1.stations.length = net.stations.length := by
  induction offers generalizing net with
  | nil => rfl
  | cons offer rest ih =>
    obtain ⟨n, frames⟩ := offer
    rcases offerTo_cases net n frames with ⟨hnone, -⟩ | ⟨station, delivery, -, hoffer, -⟩
    · rw [deliver_cons_of_none hnone]
      exact ih net
    · have hput : (net.put n (station.afterCalls [delivery])).stations.length = net.stations.length :=
        length_stations_put net n _
      cases hdone : delivery.completed with
      | false =>
        rw [deliver_cons_of_failed hoffer hdone]
        exact hput
      | true =>
        rw [deliver_cons_of_completed hoffer hdone]
        exact (ih _).trans hput

/-- A station that an offer calls has a handler, and is handed what its bank accepts of the offer. -/
theorem batch_of_callsAt {n : Nat} {frames batch : List Frame} {station : Station}
    (hstation : net.station? n = some station) (h : net.callsAt n frames = [⟨n, ⟨batch, true⟩⟩]) :
    station.receiver.handler.isSome ∧ batch = frames.filter station.receiver.bank.accepts ∧ batch ≠ [] := by
  rw [callsAt, hstation] at h
  dsimp only at h
  split at h
  next hhandler =>
    unfold callWith at h
    split at h
    · cases h
    next hbatch =>
      cases h
      exact ⟨hhandler, rfl, hbatch⟩
  next => cases h

/-- **A call** is made of a station with a handler, and it hands over what the station's bank accepts of something
that was offered to it, if that is anything at all. -/
theorem mem_deliver_offer {offers : List (Nat × List Frame)} {call : Call} (h : call ∈ (net.deliver offers).2.1) :
    ∃ frames station, (call.station, frames) ∈ offers ∧ net.station? call.station = some station ∧
      station.receiver.handler.isSome ∧ call.delivery.batch = frames.filter station.receiver.bank.accepts ∧
      call.delivery.batch ≠ [] := by
  induction offers generalizing net with
  | nil => simp at h
  | cons offer rest ih =>
    obtain ⟨n, frames⟩ := offer
    rcases offerTo_cases net n frames with ⟨hnone, -⟩ | ⟨station, delivery, hstation, hoffer, hcalls⟩
    · rw [deliver_cons_of_none hnone] at h
      obtain ⟨frames', later, hmem, hlater⟩ := ih h
      exact ⟨frames', later, List.mem_cons_of_mem _ hmem, hlater⟩
    · obtain ⟨hhandler, hbatch, hsome⟩ := batch_of_callsAt hstation hcalls
      have hfirst : call = ⟨n, delivery⟩ → ∃ frames' station, (call.station, frames') ∈ (n, frames) :: rest ∧
          net.station? call.station = some station ∧ station.receiver.handler.isSome ∧
          call.delivery.batch = frames'.filter station.receiver.bank.accepts ∧ call.delivery.batch ≠ [] := by
        rintro rfl
        exact ⟨frames, station, List.mem_cons_self .., hstation, hhandler, hbatch, hsome⟩
      cases hdone : delivery.completed with
      | false =>
        rw [deliver_cons_of_failed hoffer hdone] at h
        exact hfirst (List.mem_singleton.1 h)
      | true =>
        rw [deliver_cons_of_completed hoffer hdone] at h
        rcases List.mem_cons.1 h with h | h
        · exact hfirst h
        · obtain ⟨frames', later, hmem, hlater, hlistens, hrest⟩ := ih h
          by_cases hp : call.station = n
          · -- a station called before has the bank and, some calls on, the handler that it had
            rw [hp, station?_put_self (lt_of_station? hstation)] at hlater
            obtain rfl := Option.some.inj hlater
            rw [hp] at hmem ⊢
            exact ⟨frames', station, List.mem_cons_of_mem _ hmem, hstation, hhandler, hrest⟩
          · rw [station?_put_of_ne hp] at hlater
            exact ⟨frames', later, List.mem_cons_of_mem _ hmem, hlater, hlistens, hrest⟩

/-- A call is made of a station that something is offered to, and that has a handler. -/
theorem mem_deliver {offers : List (Nat × List Frame)} {call : Call} (h : call ∈ (net.deliver offers).2.1) :
    call.station ∈ offers.map (·.1) ∧
      ∃ station, net.station? call.station = some station ∧ station.receiver.handler.isSome := by
  obtain ⟨frames, station, hmem, hstation, hhandler, -⟩ := mem_deliver_offer h
  exact ⟨List.mem_map.2 ⟨_, hmem, rfl⟩, station, hstation, hhandler⟩

/-- If every handler comes to its end, offers to different stations make the calls that each would make alone. -/
theorem deliver_calls (net : Network) (offers : List (Nat × List Frame)) (hnodup : (offers.map (·.1)).Nodup)
    (hdone : (net.deliver offers).2.2 = true) :
    (net.deliver offers).2.1 = offers.flatMap fun offer => net.callsAt offer.1 offer.2 := by
  induction offers generalizing net with
  | nil => rfl
  | cons offer rest ih =>
    obtain ⟨n, frames⟩ := offer
    obtain ⟨hn, hrest⟩ := List.nodup_cons.1 hnodup
    rw [List.flatMap_cons]
    rcases offerTo_cases net n frames with ⟨hnone, hcalls⟩ | ⟨station, delivery, -, hoffer, hcalls⟩
    · rw [deliver_cons_of_none hnone] at hdone ⊢
      rw [hcalls, ih net hrest hdone, List.nil_append]
    · cases hcompleted : delivery.completed with
      | false =>
        rw [deliver_cons_of_failed hoffer hcompleted] at hdone
        cases hdone
      | true =>
        rw [deliver_cons_of_completed hoffer hcompleted] at hdone ⊢
        -- the later offers go to other stations, which the call has left alone
        have hlater : ∀ later ∈ rest, (net.put n (station.afterCalls [delivery])).callsAt later.1 later.2 =
            net.callsAt later.1 later.2 := by
          intro later hmem
          have hne : later.1 ≠ n := by
            rintro rfl
            exact hn (List.mem_map.2 ⟨later, hmem, rfl⟩)
          rw [callsAt, callsAt, station?_put_of_ne hne]
        rw [hcalls, ih _ hrest hdone, List.flatMap_congr hlater, ← hcompleted]
        rfl

/-! ## Transmissions -/

/-- The calls that a transmission on a bus makes at other stations than the sender `n`. -/
def callsAround (net : Network) (n bus : Nat) (frames : List Frame) : List Call :=
  (List.range net.stations.length).flatMap fun p =>
    match net.station? p with
    | none => []
    | some station =>
      if p ≠ n ∧ station.bus = bus ∧ station.phase = .started then callWith p (station.hearing frames) else []

theorem filter_heard (station : Station) (frames : List Frame) :
    (Batch.heard frames station.mtu).filter station.receiver.bank.accepts = station.hearing frames := by
  simp only [Batch.heard, Station.hearing, List.filter_map, List.filter_filter]
  congr 1
  refine List.filter_congr fun frame _ => ?_
  simp [Bool.and_comm]

theorem filter_echoed (station : Station) (frames : List Frame) :
    (Batch.echoed frames).filter station.receiver.bank.accepts = station.echo frames := by
  simp only [Batch.echoed, Station.echo, List.filter_map, List.filter_filter]
  congr 1
  refine List.filter_congr fun frame _ => ?_
  simp [Bool.and_comm]

theorem flatMap_filterMap {α β γ : Type} (f : α → Option β) (g : β → List γ) (xs : List α) :
    (xs.filterMap f).flatMap g = xs.flatMap fun x => ((f x).map g).getD [] := by
  induction xs with
  | nil => rfl
  | cons x xs ih => cases hx : f x <;> simp [hx, ih]

/-- Offering a batch to all others on the bus calls exactly the started ones. -/
theorem callsAt_heard (h : net.Sound) (n bus : Nat) (frames : List Frame) :
    ((net.members bus).filter (·.station != n)).flatMap
        (fun member => net.callsAt member.station (Batch.heard frames member.mtu)) =
      net.callsAround n bus frames := by
  rw [h.members_eq, attached, List.filter_filterMap, flatMap_filterMap]
  unfold callsAround
  refine List.flatMap_congr fun p _ => ?_
  cases hstation : net.station? p with
  | none => rfl
  | some station =>
    have hhandler := h.handler_iff hstation
    by_cases hbus : station.bus = bus
    · by_cases hp : p = n
      · subst hp
        by_cases hclosed : station.phase = .closed <;> simp [Station.seat?, Option.filter, hbus, hclosed]
      · cases hphase : station.phase <;>
          simp_all [Station.seat?, Option.filter, callsAt, filter_heard]
    · simp [Station.seat?, hbus]

theorem callsAt_echoed (h : net.Sound) {n : Nat} {station : Station} (hstation : net.station? n = some station)
    (hphase : station.phase = .started) (frames : List Frame) :
    net.callsAt n (Batch.echoed frames) = callWith n (station.echo frames) := by
  have hhandler := (h.handler_iff hstation).2 hphase
  simp [callsAt, hstation, hhandler, filter_echoed]

/-- No two offers of a transmission go to the same station. -/
theorem broadcast_nodup (h : net.Sound) (n bus : Nat) (frames : List Frame) :
    ((net.broadcast n bus frames).map (·.1)).Nodup := by
  have hothers : (((net.members bus).filter (·.station != n)).map (·.station)).Nodup := by
    rw [h.members_eq]
    refine List.pairwise_map.2 (List.Pairwise.filter _ ((net.attached_pairwise_lt bus).imp ?_))
    exact fun hlt => Nat.ne_of_lt hlt
  have hmap : (net.broadcast n bus frames).map (·.1) =
      ((net.members bus).filter (·.station != n)).map (·.station) ++ [n] := by
    simp [broadcast, Function.comp_def]
  rw [hmap, List.nodup_append]
  refine ⟨hothers, List.nodup_singleton n, ?_⟩
  intro p hp q hq
  obtain ⟨member, hmember, rfl⟩ := List.mem_map.1 hp
  rw [List.mem_singleton.1 hq]
  simpa using (List.mem_filter.1 hmember).2

/-- A transmission that reports success came from a started station without an armed fault, with a batch within the
rules, and every handler came to its end. -/
theorem apply_send_of_sent {n : Nat} {frames : List Frame} {count : Nat}
    (h : (net.apply (.send n frames)).answer = .sent count) :
    ∃ sender, net.station? n = some sender ∧ sender.phase = .started ∧ count = frames.length ∧
      (net.deliver (net.broadcast n sender.bus frames)).2.2 = true ∧
      net.apply (.send n frames) = net.delivering (net.broadcast n sender.bus frames) (.sent frames.length) := by
  have heffect := apply_effect net (.send n frames)
  generalize net.apply (.send n frames) = reaction at heffect h ⊢
  cases heffect with
  | absent op => cases h
  | refused hdeclined => cases h
  | meetFault hsender hphase hfault frames => cases h
  | @send _ sender _ hsender hphase hfault hcheck =>
    have hanswer : (if (net.deliver (net.broadcast n sender.bus frames)).2.2 then
        Answer.sent frames.length else .handlerFailed) = .sent count := h
    cases hdone : (net.deliver (net.broadcast n sender.bus frames)).2.2 with
    | false =>
      rw [hdone] at hanswer
      cases hanswer
    | true =>
      rw [hdone] at hanswer
      cases hanswer
      exact ⟨sender, hsender, hphase, rfl, hdone, rfl⟩

theorem mem_callWith {n : Nat} {batch : List Frame} {call : Call} (h : call ∈ callWith n batch) :
    call = ⟨n, ⟨batch, true⟩⟩ := by
  unfold callWith at h
  by_cases hbatch : batch = []
  · rw [if_pos hbatch] at h
    cases h
  · rw [if_neg hbatch] at h
    exact List.mem_singleton.1 h

theorem mem_callsAround {n bus : Nat} {frames : List Frame} {call : Call} (h : call ∈ net.callsAround n bus frames) :
    ∃ station, net.station? call.station = some station ∧ station.bus = bus ∧ station.phase = .started ∧
      call = ⟨call.station, ⟨station.hearing frames, true⟩⟩ := by
  obtain ⟨p, -, hp⟩ := List.mem_flatMap.1 h
  cases hstation : net.station? p with
  | none =>
    rw [hstation] at hp
    cases hp
  | some station =>
    rw [hstation] at hp
    dsimp only at hp
    by_cases hhears : p ≠ n ∧ station.bus = bus ∧ station.phase = .started
    · rw [if_pos hhears] at hp
      obtain rfl := mem_callWith hp
      exact ⟨station, hstation, hhears.2.1, hhears.2.2, rfl⟩
    · rw [if_neg hhears] at hp
      cases hp

/-- What a station has collected is taken oldest first. -/
theorem run_pops {p : Nat} {station : Station} (h : net.station? p = some station) :
    (net.run (List.replicate station.receiver.collected.length (.pop p))).map (·.answer) =
      station.receiver.collected.map .popped := by
  induction hcollected : station.receiver.collected generalizing net station with
  | nil => rfl
  | cons frame rest ih =>
    have hpop : station.receiver.pop = .ok (frame, { station.receiver with collected := rest }) :=
      Receiver.pop_eq_ok_iff.2 ⟨rest, hcollected, rfl⟩
    have happly : net.apply (.pop p) =
        (net.put p { station with receiver := { station.receiver with collected := rest } }).quiet (.popped frame) := by
      rw [apply, withStation, h]
      simp only [pop, hpop]
    have hput := station?_put_self (lt_of_station? h)
      { station with receiver := { station.receiver with collected := rest } }
    rw [List.length_cons, List.replicate_succ, run, List.map_cons, List.map_cons, happly, quiet]
    rw [ih hput rfl]

/-- **Delivery on a virtual bus.**  The calls of a transmission that succeeds are those of the other started stations
of the bus, in the order of their joining, and then that of the sender.  Each station collects the batches of its
calls behind what it had, and nothing else changes. -/
theorem send_calls (hnet : net.Reachable) {n : Nat} {frames : List Frame} {count : Nat}
    (hsent : (net.apply (.send n frames)).answer = .sent count) :
    ∃ sender, net.station? n = some sender ∧ sender.phase = .started ∧ count = frames.length ∧
      (net.apply (.send n frames)).calls =
        net.callsAround n sender.bus frames ++ callWith n (sender.echo frames) ∧
      (∀ call ∈ (net.apply (.send n frames)).calls, ∃ station, net.station? call.station = some station ∧
        station.bus = sender.bus ∧ station.phase = .started) ∧
      (net.apply (.send n frames)).net.rosters = net.rosters ∧
      (∀ p, net.station? p = none → (net.apply (.send n frames)).net.station? p = none) ∧
      ∀ p station, net.station? p = some station →
        let calls := deliveriesTo p (net.apply (.send n frames)).calls
        let collected := station.receiver.collected ++ calls.flatMap (·.batch)
        (net.apply (.send n frames)).net.station? p = some (station.afterCalls calls) ∧
          (station.afterCalls calls).receiver.collected = collected ∧
          ((net.apply (.send n frames)).net.run (List.replicate collected.length (.pop p))).map (·.answer) =
            collected.map .popped := by
  have hsound := hnet.sound
  obtain ⟨sender, hsender, hphase, hcount, hdone, happly⟩ := apply_send_of_sent hsent
  have hcalls : (net.apply (.send n frames)).calls =
      net.callsAround n sender.bus frames ++ callWith n (sender.echo frames) := by
    calc (net.apply (.send n frames)).calls
        = (net.deliver (net.broadcast n sender.bus frames)).2.1 := by rw [happly]; rfl
      _ = (net.broadcast n sender.bus frames).flatMap fun offer => net.callsAt offer.1 offer.2 :=
          deliver_calls net _ (broadcast_nodup hsound n sender.bus frames) hdone
      _ = _ := by
          rw [broadcast, List.flatMap_append, List.flatMap_map, callsAt_heard hsound, List.flatMap_singleton,
            callsAt_echoed hsound hsender hphase]
  have hmem : ∀ call ∈ (net.apply (.send n frames)).calls, call.delivery.completed = true ∧
      ∃ station, net.station? call.station = some station ∧ station.bus = sender.bus ∧ station.phase = .started := by
    intro call hcall
    rw [hcalls, List.mem_append] at hcall
    rcases hcall with hcall | hcall
    · obtain ⟨station, hstation, hbus, hstarted, heq⟩ := mem_callsAround hcall
      exact ⟨by rw [heq], station, hstation, hbus, hstarted⟩
    · obtain rfl := mem_callWith hcall
      exact ⟨rfl, sender, hsender, rfl, hphase⟩
  have hstations : ∀ p, (net.apply (.send n frames)).net.station? p =
      (net.station? p).map (·.afterCalls (deliveriesTo p (net.apply (.send n frames)).calls)) := by
    intro p
    rw [happly]
    exact deliver_station? net _ p
  refine ⟨sender, hsender, hphase, hcount, hcalls, fun call hcall => (hmem call hcall).2, ?_, ?_, ?_⟩
  · rw [happly]
    exact deliver_rosters net _
  · intro p hp
    rw [hstations p, hp]
    rfl
  · intro p station hp calls collected
    have hafter : (net.apply (.send n frames)).net.station? p = some (station.afterCalls calls) := by
      rw [hstations p, hp]
      rfl
    have hcompleted : calls.filter (·.completed) = calls := by
      refine List.filter_eq_self.2 fun delivery hdelivery => ?_
      obtain ⟨call, hcall, rfl⟩ := List.mem_map.1 hdelivery
      exact (hmem call (List.mem_filter.1 hcall).1).1
    have hcollected : (station.afterCalls calls).receiver.collected = collected := by
      simp only [Station.afterCalls, Receiver.afterCalls, hcompleted, collected]
    refine ⟨hafter, hcollected, ?_⟩
    rw [← hcollected]
    exact run_pops hafter

/-- A short frame that asks to be handed back, and one too long for a station of eight bytes. -/
def mixedBatch : List Frame :=
  [⟨7, [1, 2], .base, true, by decide, by decide⟩,
    ⟨7, [0, 1, 2, 3, 4, 5, 6, 7, 8, 9, 10, 11], .base, false, by decide, by decide⟩]

/-- Station 0 sends, 1 takes eight bytes and 2 any frame; 3 was not started, 4 was dropped, 5 is on another bus. -/
def crowd : Network :=
  empty.after [.addBus, .addBus, .join 0 64 1, .join 0 8 1, .join 0 64 2, .join 0 64 1, .join 0 64 1, .join 1 64 1,
    .start 0 false [], .start 1 false [], .start 2 true [], .start 4 false [], .start 5 false [],
    .configure 0 [.promiscuous none], .configure 1 [.promiscuous none], .configure 2 [.promiscuous (some .base)],
    .configure 4 [.promiscuous none], .configure 5 [.promiscuous none], .drop 4]

theorem send_calls_crowd :
    crowd.Reachable ∧ (crowd.apply (.send 0 mixedBatch)).answer = .sent 2 ∧
      (crowd.apply (.send 0 mixedBatch)).calls =
        callWith 1 ((mixedBatch.take 1).map (·.tagged false)) ++ callWith 2 (mixedBatch.map (·.tagged false)) ++
          callWith 0 (mixedBatch.take 1) := by
  have hreach : crowd.Reachable := ⟨_, rfl⟩
  have hsent : (crowd.apply (.send 0 mixedBatch)).answer = .sent 2 := by decide
  obtain ⟨sender, hsender, -, -, hcalls, -⟩ := send_calls hreach hsent
  have hzero : crowd.station? 0 =
      some ⟨0, 64, .started, true, none, ⟨⟨[.promiscuous none]⟩, .fresh (some ⟨0, []⟩), []⟩⟩ := by decide
  obtain rfl := Option.some.inj (hzero.symm.trans hsender)
  exact ⟨hreach, hsent, hcalls.trans (by decide)⟩

end Network

end CanBus
