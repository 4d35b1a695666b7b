import CanBus.Batch
import CanBus.Length
import CanBus.Phase
import CanBus.Receiver

/-!
# Virtual networks — buses in one process and the stations on them

A `Network` numbers its buses and its stations in the order of their making.  Each bus keeps a roster of who
joined it; a station that is dropped leaves its entry behind, which counts for nothing and goes at the next
joining or closing on that bus.  `broadcast` lists what one transmission offers to whom, in order.
-/

namespace CanBus

/-- An adapter on a virtual bus.  `fault` is the failure that its next transmission is to meet. -/
structure Station where
  bus : Nat
  mtu : Nat
  phase : Phase
  retransmit : Bool
  fault : Option Fault
  receiver : Receiver
  deriving DecidableEq

/-- A station as it joins a bus. -/
def Station.fresh (bus mtu slots : Nat) : Station := ⟨bus, mtu, .created, false, none, .ofSize slots⟩

/-- A roster entry: a station and the longest payload it takes. -/
structure Member where
  station : Nat
  mtu : Nat
  deriving DecidableEq, Repr

/-- Buses and stations, each by number; a dropped station is `none`. -/
structure Network where
  rosters : List (List Member)
  stations : List (Option Station)
  deriving DecidableEq

/-- One call of a station's handler. -/
structure Call where
  station : Nat
  delivery : Delivery
  deriving DecidableEq

namespace Network

def empty : Network := ⟨[], []⟩

/-- The station of a number, unless there is none or it was dropped. -/
def station? (net : Network) (n : Nat) : Option Station := net.stations[n]?.join

/-- The network with a station's state replaced. -/
def put (net : Network) (n : Nat) (station : Station) : Network :=
  { net with stations := net.stations.set n (some station) }

theorem lt_of_station? {net : Network} {n : Nat} {station : Station} (h : net.station? n = some station) :
    n < net.stations.length := by
  refine Nat.lt_of_not_le fun hn => ?_
  rw [station?, List.getElem?_eq_none hn] at h
  exact absurd h (by simp)

@[simp] theorem rosters_put (net : Network) (n : Nat) (station : Station) :
    (net.put n station).rosters = net.rosters := rfl

@[simp] theorem length_stations_put (net : Network) (n : Nat) (station : Station) :
    (net.put n station).stations.length = net.stations.length := by simp [put]

theorem station?_put_self {net : Network} {n : Nat} (hn : n < net.stations.length) (station : Station) :
    (net.put n station).station? n = some station := by
  simp [station?, put, hn]

theorem station?_put_of_ne {net : Network} {n p : Nat} (hne : p ≠ n) (station : Station) :
    (net.put n station).station? p = net.station? p := by
  simp [station?, put, List.getElem?_set_ne (Ne.symm hne)]

/-- The network without a station, whose roster entry stays behind. -/
def discard (net : Network) (n : Nat) : Network := { net with stations := net.stations.set n none }

@[simp] theorem length_stations_discard (net : Network) (n : Nat) :
    (net.discard n).stations.length = net.stations.length := by simp [discard]

@[simp] theorem station?_discard_self (net : Network) (n : Nat) : (net.discard n).station? n = none := by
  by_cases hn : n < net.stations.length
  · simp [station?, discard, hn]
  · rw [station?, List.getElem?_eq_none (by simpa using Nat.le_of_not_lt hn)]
    rfl

theorem station?_discard_of_ne {net : Network} {n p : Nat} (hne : p ≠ n) :
    (net.discard n).station? p = net.station? p := by
  simp [station?, discard, List.getElem?_set_ne (Ne.symm hne)]

/-! ## Membership -/

/-- The entries of a bus, those of dropped stations included. -/
def roster (net : Network) (bus : Nat) : List Member := net.rosters[bus]?.getD []

/-- Whether the entry's station still exists. -/
def isLive (net : Network) (member : Member) : Bool := (net.station? member.station).isSome

/-- The stations on a bus, in the order of joining. -/
def members (net : Network) (bus : Nat) : List Member := (net.roster bus).filter net.isLive

/-- The number of stations on a bus. -/
def memberCount (net : Network) (bus : Nat) : Nat := (net.members bus).length

/-- Whether a station is on a bus. -/
def contains (net : Network) (bus n : Nat) : Bool := (net.members bus).any (·.station == n)

/-- A further bus, and its number. -/
def addBus (net : Network) : Network × Nat :=
  ({ net with rosters := net.rosters ++ [[]] }, net.rosters.length)

/-- The network with a fresh station on a bus, which takes the entries of dropped stations off its roster. -/
def enrol (net : Network) (bus mtu slots : Nat) : Network :=
  ⟨net.rosters.modify bus fun roster => roster.filter net.isLive ++ [⟨net.stations.length, mtu⟩],
    net.stations ++ [some (.fresh bus mtu slots)]⟩

/-- A further station on a bus, and its number; the length is checked before the slots. -/
def join (net : Network) (bus mtu slots : Nat) : Except Fault (Network × Nat) :=
  if mtu ∉ Length.offered then .error (.contract .invalidMtu)
  else if slots = 0 then .error (.contract .noFilterSlot)
  else .ok (net.enrol bus mtu slots, net.stations.length)

theorem join_eq_ok_iff {net net' : Network} {bus mtu slots n : Nat} :
    net.join bus mtu slots = .ok (net', n) ↔
      (mtu ∈ Length.offered ∧ slots ≠ 0) ∧ net' = net.enrol bus mtu slots ∧ n = net.stations.length := by
  unfold join
  by_cases hmtu : mtu ∈ Length.offered
  · by_cases hslots : slots = 0 <;> simp [hmtu, hslots, eq_comm]
  · simp [hmtu]

/-- The bus without a station, and without the entries of dropped ones. -/
def leave (net : Network) (bus n : Nat) : Network :=
  { net with rosters := net.rosters.modify bus fun roster =>
      roster.filter fun member => net.isLive member && member.station != n }

@[simp] theorem station?_leave (net : Network) (bus n p : Nat) :
    (net.leave bus n).station? p = net.station? p := rfl

@[simp] theorem length_stations_leave (net : Network) (bus n : Nat) :
    (net.leave bus n).stations.length = net.stations.length := rfl

@[simp] theorem length_rosters_leave (net : Network) (bus n : Nat) :
    (net.leave bus n).rosters.length = net.rosters.length := by simp [leave]

/-! ## Deliveries -/

/-- What a transmission offers to whom: to the others on the bus in the order of joining, then to the sender. -/
def broadcast (net : Network) (n bus : Nat) (frames : List Frame) : List (Nat × List Frame) :=
  ((net.members bus).filter (·.station != n)).map (fun member => (member.station, Batch.heard frames member.mtu)) ++
    [(n, Batch.echoed frames)]

/-- Offer frames to a station.  If its handler is called: the network after the call, and the call. -/
def offerTo (net : Network) (n : Nat) (frames : List Frame) : Option (Network × Call) :=
  (net.station? n).bind fun station =>
    let (receiver, delivery) := station.receiver.offer frames
    delivery.map fun delivery => (net.put n { station with receiver := receiver }, ⟨n, delivery⟩)

/-- Make the offers one after the other, up to the first handler that fails.  The calls made are listed in order,
and the flag says whether every handler came to its end. -/
def deliver (net : Network) : List (Nat × List Frame) → Network × List Call × Bool
  | [] => (net, [], true)
  | (n, frames) :: rest =>
    match net.offerTo n frames with
    | none => net.deliver rest
    | some (net, call) =>
      if call.delivery.completed then
        let (net, calls, completed) := net.deliver rest
        (net, call :: calls, completed)
      else (net, [call], false)

@[simp] theorem deliver_nil (net : Network) : net.deliver [] = (net, [], true) := rfl

end Network

end CanBus
