import CanBus.Proofs.Network.Effect
import Mathlib.Data.List.Induction
import Mathlib.Logic.Relation

/-!
# Changes — what one operation can do to a network

An `Update` is what can become of a station that stays where it is, and a `Change` adds the making of buses and
stations, closing and dropping.  Every operation is a chain of changes (`apply_changes`), so what each change
keeps holds of every reachable network (`Reachable.of_change`).
-/

namespace CanBus

open Relation (ReflTransGen)

/-- What a station can become without leaving its bus. -/
inductive Station.Update : Station → Station → Prop where
  | start (station : Station) (noRetransmit : Bool) (failsAt : List Nat) (hphase : station.phase = .created) :
      Update station { station with
        phase := .started, retransmit := !noRetransmit, receiver := station.receiver.register failsAt }
  | configure (station : Station) (filters : List Filter) (receiver : Receiver) (hphase : station.phase = .started)
      (h : station.receiver.reconfigure filters = .ok receiver) : Update station { station with receiver := receiver }
  | offer (station : Station) (frames : List Frame) :
      Update station { station with receiver := (station.receiver.offer frames).1 }
  | setFault (station : Station) (fault : Option Fault) : Update station { station with fault := fault }
  | pop (station : Station) (frame : Frame) (receiver : Receiver) (h : station.receiver.pop = .ok (frame, receiver)) :
      Update station { station with receiver := receiver }

namespace Network

/-- One change of a network. -/
inductive Change : Network → Network → Prop where
  | addBus (net : Network) : Change net net.addBus.1
  | join {net : Network} {bus : Nat} (mtu slots : Nat) (hbus : bus < net.rosters.length)
      (hmtu : mtu ∈ Length.offered) (hslots : slots ≠ 0) : Change net (net.enrol bus mtu slots)
  | update {net : Network} {n : Nat} {station station' : Station} (h : net.station? n = some station)
      (hupdate : station.Update station') : Change net (net.put n station')
  | close {net : Network} {n : Nat} {station : Station} (h : net.station? n = some station)
      (hphase : station.phase ≠ .closed) :
      Change net ((net.put n { station with
        phase := .closed, receiver := station.receiver.unregister }).leave station.bus n)
  | drop {net : Network} {n : Nat} {station : Station} (h : net.station? n = some station) :
      Change net (net.discard n)

/-! ## Operations as changes -/

theorem offerTo_change {net net' : Network} {n : Nat} {frames : List Frame} {call : Call}
    (h : net.offerTo n frames = some (net', call)) : Change net net' := by
  unfold offerTo at h
  obtain ⟨station, hstation, hcall⟩ := Option.bind_eq_some_iff.1 h
  obtain ⟨delivery, -, hnet⟩ := Option.map_eq_some_iff.1 hcall
  cases hnet
  exact .update hstation (.offer station frames)

theorem deliver_changes (net : Network) (offers : List (Nat × List Frame)) :
    ReflTransGen Change net (net.deliver offers).1 := by
  induction offers generalizing net with
  | nil => exact .refl
  | cons offer rest ih =>
    rw [deliver]
    cases hoffer : net.offerTo offer.1 offer.2 with
    | none => exact ih net
    | some made =>
      obtain ⟨net', call⟩ := made
      have hchange := offerTo_change hoffer
      by_cases hdone : call.delivery.completed
      · simpa [hdone] using ReflTransGen.head hchange (ih net')
      · simpa [hdone] using ReflTransGen.single hchange

/-- Every operation is a chain of changes. -/
theorem apply_changes (net : Network) (op : Operation) : ReflTransGen Change net (net.apply op).net := by
  have heffect := apply_effect net op
  generalize net.apply op = reaction at heffect ⊢
  cases heffect with
  | absent op => exact .refl
  | refused hdeclined => exact .refl
  | addBus => exact .single (.addBus net)
  | @join bus mtu slots hbus hmtu hslots => exact .single (.join mtu slots hbus hmtu hslots)
  | start h hphase noRetransmit failsAt => exact .single (.update h (.start _ noRetransmit failsAt hphase))
  | configure h hphase hreceiver => exact .single (.update h (.configure _ _ _ hphase hreceiver))
  | inject h hphase frames => exact deliver_changes net [(_, frames)]
  | meetFault h hphase hfault frames => exact .single (.update h (.setFault _ none))
  | send h hphase hfault hcheck => exact deliver_changes net (net.broadcast _ _ _)
  | arm h fault => exact .single (.update h (.setFault _ (some fault)))
  | close h hphase => exact .single (.close h hphase)
  | drop h => exact .single (.drop h)
  | pop h hpop => exact .single (.update h (.pop _ _ _ hpop))

/-! ## Reachable networks -/

/-- Some operations lead from the empty network here. -/
def Reachable (net : Network) : Prop := ∃ ops, net = empty.after ops

/-- What holds of the empty network, and what every change keeps, holds of every reachable network. -/
theorem Reachable.of_change {P : Network → Prop} (hempty : P empty)
    (hchange : ∀ {net net' : Network}, P net → Change net net' → P net') {net : Network} (h : net.Reachable) :
    P net := by
  have hchain : ∀ {net net' : Network}, ReflTransGen Change net net' → P net → P net' := by
    intro net net' hc hnet
    induction hc with
    | refl => exact hnet
    | tail _ hstep ih => exact hchange ih hstep
  obtain ⟨ops, rfl⟩ := h
  -- operations are added at the end of the run
  induction ops using List.reverseRecOn with
  | nil => exact hempty
  | append_singleton ops op ih =>
    rw [after_append, after_cons, after_nil]
    exact hchain (apply_changes _ op) ih

end Network

end CanBus
