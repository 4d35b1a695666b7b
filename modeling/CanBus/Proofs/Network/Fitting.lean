import CanBus.Proofs.Network.Delivery

/-!
# Fitting — the length of what a station is handed

A transmission offers the other stations of the bus the frames that fit them, and the sender what has passed the rules
of a batch at the sender's own length (`broadcast_fits`).  What is injected is offered as it is.  So a station is
handed a frame that is too long for it just if such a frame was injected there and passed its bank (`calls_fit_iff`).
-/

namespace CanBus.Network

variable {net : Network}

/-- A call in the course of an operation is made of a started station, with what its bank accepts of something that it
is offered; the bank stays as it is. -/
theorem mem_delivering (hnet : net.Sound) {offers : List (Nat × List Frame)} {value : Answer} {call : Call}
    (h : call ∈ (net.delivering offers value).calls) :
    ∃ offered station later, (call.station, offered) ∈ offers ∧ net.station? call.station = some station ∧
      (net.delivering offers value).net.station? call.station = some later ∧
      later.receiver.bank = station.receiver.bank ∧ station.phase = .started ∧
      call.delivery.batch = offered.filter station.receiver.bank.accepts ∧ call.delivery.batch ≠ [] := by
  have hcall : call ∈ (net.deliver offers).2.1 := h
  obtain ⟨offered, station, hoffer, hstation, hhandler, hbatch, hsome⟩ := mem_deliver_offer hcall
  have hlater : (net.delivering offers value).net.station? call.station =
      some (station.afterCalls (deliveriesTo call.station (net.deliver offers).2.1)) :=
    (deliver_station? net offers call.station).trans (by rw [hstation, Option.map_some])
  exact ⟨offered, station, _, hoffer, hstation, hlater, rfl, (hnet.handler_iff hstation).1 hhandler, hbatch, hsome⟩

/-- What a transmission offers a station fits it. -/
theorem broadcast_fits (hnet : net.Sound) {n p : Nat} {sender station : Station} {frames offered : List Frame}
    (hsender : net.station? n = some sender) (hcheck : Batch.check frames sender.mtu = .ok ())
    (hstation : net.station? p = some station) (hoffer : (p, offered) ∈ net.broadcast n sender.bus frames) :
    ∀ frame ∈ offered, frame.payload.length ≤ station.mtu := by
  intro frame hframe
  rcases List.mem_append.1 hoffer with hother | hown
  · obtain ⟨member, hmember, heq⟩ := List.mem_map.1 hother
    cases heq
    have hattached : member ∈ net.attached sender.bus := by
      rw [← hnet.members_eq]
      exact (List.mem_filter.1 hmember).1
    -- the length in the roster is that of the station
    obtain ⟨listed, hlisted, hseat⟩ := mem_attached.1 hattached
    obtain rfl := Option.some.inj (hlisted.symm.trans hstation)
    have hmtu : listed.mtu = member.mtu := congrArg Member.mtu (Station.seat?_eq_some_iff.1 hseat).2
    obtain ⟨sent, hsent, rfl⟩ := List.mem_map.1 hframe
    rw [hmtu, Frame.tagged_payload]
    exact of_decide_eq_true (List.mem_filter.1 hsent).2
  · cases List.mem_singleton.1 hown
    obtain rfl := Option.some.inj (hsender.symm.trans hstation)
    obtain ⟨sent, hsent, rfl⟩ := List.mem_map.1 hframe
    exact (Batch.check_eq_ok_iff.1 hcheck).2.2.1 sent (List.mem_filter.1 hsent).1

/-- **What a station is handed.**  Any operation calls handlers of started stations only, each with a batch that is not
empty and that the station's bank, which the operation leaves as it is, accepts.  All of the batch fits the station,
save what of an injection passes the bank and does not fit. -/
theorem calls_fit_iff (hnet : net.Reachable) (op : Operation) {call : Call} (h : call ∈ (net.apply op).calls) :
    ∃ station later, net.station? call.station = some station ∧
      (net.apply op).net.station? call.station = some later ∧ later.receiver.bank = station.receiver.bank ∧
      station.phase = .started ∧ call.delivery.batch ≠ [] ∧
      (∀ frame ∈ call.delivery.batch, station.receiver.bank.accepts frame) ∧
      ((∀ frame ∈ call.delivery.batch, frame.payload.length ≤ station.mtu) ↔
        ∀ frames, op = .inject call.station frames →
          ∀ frame ∈ frames, station.receiver.bank.accepts frame → frame.payload.length ≤ station.mtu) := by
  have hsound := hnet.sound
  have heffect := apply_effect net op
  generalize net.apply op = reaction at heffect h ⊢
  cases heffect with
  | @inject n _ _ _ injected =>
    obtain ⟨offered, station, later, hoffer, hstation, hlater, hbank, hphase, hbatch, hsome⟩ := mem_delivering hsound h
    obtain ⟨rfl, rfl⟩ := Prod.mk.inj (List.mem_singleton.1 hoffer)
    refine ⟨station, later, hstation, hlater, hbank, hphase, hsome, ?_, ?_⟩
    · rw [hbatch]
      exact fun frame hframe => (List.mem_filter.1 hframe).2
    · rw [hbatch]
      constructor
      · intro hfits frames hop frame hframe haccepts
        cases hop
        exact hfits frame (List.mem_filter.2 ⟨hframe, haccepts⟩)
      · intro hfits frame hframe
        obtain ⟨hframe, haccepts⟩ := List.mem_filter.1 hframe
        exact hfits offered rfl frame hframe haccepts
  | send hsender _ _ hcheck =>
    obtain ⟨offered, station, later, hoffer, hstation, hlater, hbank, hphase, hbatch, hsome⟩ := mem_delivering hsound h
    have hfits := broadcast_fits hsound hsender hcheck hstation hoffer
    refine ⟨station, later, hstation, hlater, hbank, hphase, hsome, ?_, ?_⟩
    · rw [hbatch]
      exact fun frame hframe => (List.mem_filter.1 hframe).2
    · rw [hbatch]
      exact iff_of_true (fun frame hframe => hfits frame (List.mem_filter.1 hframe).1) nofun
  | _ => cases h

theorem calls_fit_iff_crowd :
    let heard := (mixedBatch.take 1).map (·.tagged false)
    crowd.Reachable ∧ ⟨1, ⟨heard, true⟩⟩ ∈ (crowd.apply (.send 0 mixedBatch)).calls ∧
      ∃ station, crowd.station? 1 = some station ∧ ∀ frame ∈ heard, frame.payload.length ≤ station.mtu := by
  have hreach : crowd.Reachable := ⟨_, rfl⟩
  have hcall : ⟨1, ⟨(mixedBatch.take 1).map (·.tagged false), true⟩⟩ ∈ (crowd.apply (.send 0 mixedBatch)).calls := by
    decide
  obtain ⟨station, -, hstation, -, -, -, -, -, hfits⟩ := calls_fit_iff hreach (.send 0 mixedBatch) hcall
  exact ⟨hreach, hcall, station, hstation, hfits.2 nofun⟩

/-- Station 1 takes eight bytes, and is handed the twelve that are injected there. -/
theorem injected_overlong :
    crowd.Reachable ∧ (crowd.station? 1).map (·.mtu) = some 8 ∧
      (crowd.apply (.inject 1 mixedBatch)).calls = [⟨1, ⟨mixedBatch, true⟩⟩] ∧
      ¬ ∀ frame ∈ mixedBatch, frame.payload.length ≤ 8 :=
  ⟨⟨_, rfl⟩, by decide⟩

end CanBus.Network
