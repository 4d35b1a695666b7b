import CanBus.Proofs.Network.Change
import Mathlib.Data.List.Basic

/-!
# Membership — who is on a bus

The roster of a bus is kept by joining and leaving and holds entries of dropped stations until the next of these.
In a reachable network its live entries are the stations made on the bus that were neither dropped nor closed, in
the order of their making (`Sound.members_eq`).
-/

namespace CanBus

/-- The entry of a station on a bus, unless it is elsewhere or closed. -/
def Station.seat? (station : Station) (bus n : Nat) : Option Member :=
  if station.bus = bus ∧ station.phase ≠ .closed then some ⟨n, station.mtu⟩ else none

theorem Station.seat?_eq_some_iff {station : Station} {bus n : Nat} {member : Member} :
    station.seat? bus n = some member ↔ (station.bus = bus ∧ station.phase ≠ .closed) ∧ ⟨n, station.mtu⟩ = member := by
  simp [seat?]

namespace Network

/-- The stations made on a bus and neither dropped nor closed, in the order of their making. -/
def attached (net : Network) (bus : Nat) : List Member :=
  (List.range net.stations.length).filterMap fun n => (net.station? n).bind (·.seat? bus n)

/-- What holds of every reachable network. -/
structure Sound (net : Network) : Prop where
  bus_lt : ∀ {n station}, net.station? n = some station → station.bus < net.rosters.length
  station_lt : ∀ {bus member}, member ∈ net.roster bus → member.station < net.stations.length
  members_eq : ∀ bus, net.members bus = net.attached bus
  handler_iff : ∀ {n station}, net.station? n = some station →
    (station.receiver.handler.isSome ↔ station.phase = .started)

/-! ## Stations on a bus -/

section Attached

variable {net net' : Network}

theorem mem_attached {bus : Nat} {member : Member} :
    member ∈ net.attached bus ↔
      ∃ station, net.station? member.station = some station ∧ station.seat? bus member.station = some member := by
  simp only [attached, List.mem_filterMap, List.mem_range, Option.bind_eq_some_iff]
  constructor
  · rintro ⟨n, -, station, hstation, hseat⟩
    obtain ⟨-, rfl⟩ := Station.seat?_eq_some_iff.1 hseat
    exact ⟨station, hstation, hseat⟩
  · rintro ⟨station, hstation, hseat⟩
    exact ⟨member.station, lt_of_station? hstation, station, hstation, hseat⟩

theorem station_eq_of_seat {n bus : Nat} {member : Member}
    (h : (net.station? n).bind (·.seat? bus n) = some member) : member.station = n := by
  obtain ⟨_, -, hseat⟩ := Option.bind_eq_some_iff.1 h
  obtain ⟨-, rfl⟩ := Station.seat?_eq_some_iff.1 hseat
  rfl

/-- Stations on a bus are listed in the order of their making, each once. -/
theorem attached_pairwise_lt (net : Network) (bus : Nat) :
    (net.attached bus).Pairwise (fun a b => a.station < b.station) := by
  refine List.pairwise_filterMap.2 (List.pairwise_lt_range.imp ?_)
  intro n p hlt a ha b hb
  rw [station_eq_of_seat ha, station_eq_of_seat hb]
  exact hlt

/-- Who is on a bus depends on the entries of the stations alone. -/
theorem attached_congr {bus : Nat} (hlen : net'.stations.length = net.stations.length)
    (h : ∀ n, (net'.station? n).bind (·.seat? bus n) = (net.station? n).bind (·.seat? bus n)) :
    net'.attached bus = net.attached bus := by
  unfold attached
  rw [hlen]
  exact List.filterMap_congr fun n _ => h n

/-- Without the station of number `n` the list is the same but for its entry. -/
theorem attached_without {bus n : Nat} (hlen : net'.stations.length = net.stations.length)
    (hself : (net'.station? n).bind (·.seat? bus n) = none)
    (hother : ∀ p, p ≠ n → net'.station? p = net.station? p) :
    net'.attached bus = (net.attached bus).filter (·.station != n) := by
  unfold attached
  rw [hlen, List.filter_filterMap]
  refine List.filterMap_congr fun p _ => ?_
  have hseat : ∀ member, (net.station? p).bind (·.seat? bus p) = some member → member.station = p :=
    fun _ => station_eq_of_seat
  by_cases hp : p = n
  · subst hp
    rw [hself]
    cases h : (net.station? p).bind (·.seat? bus p) with
    | none => rfl
    | some member => simp [Option.filter, hseat member h]
  · rw [hother p hp]
    cases h : (net.station? p).bind (·.seat? bus p) with
    | none => rfl
    | some member => simp [Option.filter, hseat member h, hp]

end Attached

/-! ## Rosters -/

section Roster

variable {net : Network}

@[simp] theorem roster_addBus (net : Network) (bus : Nat) : net.addBus.1.roster bus = net.roster bus := by
  simp only [roster, addBus]
  rcases Nat.lt_trichotomy bus net.rosters.length with h | h | h
  · rw [List.getElem?_append_left h]
  · subst h
    simp
  · rw [List.getElem?_eq_none (by simp; omega), List.getElem?_eq_none (by omega)]

theorem roster_modify_self {bus : Nat} (hbus : bus < net.rosters.length) (f : List Member → List Member)
    (stations : List (Option Station)) : roster ⟨net.rosters.modify bus f, stations⟩ bus = f (net.roster bus) := by
  simp [roster, hbus]

theorem roster_modify_of_ne {bus bus' : Nat} (hne : bus' ≠ bus) (f : List Member → List Member)
    (stations : List (Option Station)) : roster ⟨net.rosters.modify bus f, stations⟩ bus' = net.roster bus' := by
  simp [roster, List.getElem?_modify_ne _ _ (Ne.symm hne)]

theorem members_leave_self {bus : Nat} (hbus : bus < net.rosters.length) (n : Nat) :
    (net.leave bus n).members bus = (net.members bus).filter (·.station != n) := by
  have hroster : (net.leave bus n).roster bus = (net.roster bus).filter fun member =>
      net.isLive member && member.station != n := roster_modify_self hbus _ _
  unfold members
  rw [hroster, List.filter_filter, List.filter_filter]
  refine List.filter_congr fun member _ => ?_
  have hlive : (net.leave bus n).isLive member = net.isLive member := rfl
  rw [hlive]
  cases net.isLive member <;> cases member.station != n <;> rfl

theorem members_leave_of_ne {bus bus' : Nat} (hne : bus' ≠ bus) (n : Nat) :
    (net.leave bus n).members bus' = net.members bus' := by
  have hroster : (net.leave bus n).roster bus' = net.roster bus' := roster_modify_of_ne hne _ _
  unfold members
  rw [hroster]
  rfl

theorem roster_leave_subset {bus : Nat} (hbus : bus < net.rosters.length) {bus' n : Nat} {member : Member}
    (h : member ∈ (net.leave bus n).roster bus') : member ∈ net.roster bus' := by
  by_cases hb : bus' = bus
  · subst hb
    have hroster : (net.leave bus' n).roster bus' = (net.roster bus').filter fun member =>
        net.isLive member && member.station != n := roster_modify_self hbus _ _
    rw [hroster] at h
    exact (List.mem_filter.1 h).1
  · have hroster : (net.leave bus n).roster bus' = net.roster bus' := roster_modify_of_ne hb _ _
    rwa [hroster] at h

theorem station?_enrol (net : Network) (bus mtu slots p : Nat) :
    (net.enrol bus mtu slots).station? p =
      if p = net.stations.length then some (.fresh bus mtu slots) else net.station? p := by
  simp only [station?, enrol]
  rcases Nat.lt_trichotomy p net.stations.length with h | h | h
  · rw [if_neg (by omega), List.getElem?_append_left h]
  · subst h
    simp
  · rw [if_neg (by omega), List.getElem?_eq_none (by simp; omega), List.getElem?_eq_none (by omega)]

end Roster

/-! ## Each change keeps the rosters in order -/

section Sound

variable {net : Network}

theorem sound_empty : Sound empty where
  bus_lt h := absurd h (by simp [station?, empty])
  station_lt h := absurd h (by simp [roster, empty])
  members_eq _ := rfl
  handler_iff h := absurd h (by simp [station?, empty])

theorem Sound.addBus (h : net.Sound) : net.addBus.1.Sound where
  bus_lt hstation := by
    have := h.bus_lt hstation
    simp only [Network.addBus, List.length_append]
    omega
  station_lt hmember := h.station_lt (by simpa using hmember)
  members_eq bus := by
    have hmembers := h.members_eq bus
    simp only [members, roster_addBus] at hmembers ⊢
    exact hmembers
  handler_iff := h.handler_iff

theorem members_enrol (h : net.Sound) {bus : Nat} (hbus : bus < net.rosters.length) (mtu slots bus' : Nat) :
    (net.enrol bus mtu slots).members bus' =
      net.members bus' ++ if bus' = bus then [⟨net.stations.length, mtu⟩] else [] := by
  have hlive : ∀ member ∈ net.roster bus',
      (net.enrol bus mtu slots).isLive member = net.isLive member := by
    intro member hmember
    have hne : member.station ≠ net.stations.length := Nat.ne_of_lt (h.station_lt hmember)
    rw [isLive, station?_enrol, if_neg hne, isLive]
  unfold members
  by_cases hb : bus' = bus
  · subst hb
    have hroster : (net.enrol bus' mtu slots).roster bus' =
        (net.roster bus').filter net.isLive ++ [⟨net.stations.length, mtu⟩] := roster_modify_self hbus _ _
    rw [hroster, List.filter_append, if_pos rfl, List.filter_filter]
    congr 1
    · refine List.filter_congr fun member hmember => ?_
      rw [hlive member hmember, Bool.and_self]
    · simp [isLive, station?_enrol]
  · have hroster : (net.enrol bus mtu slots).roster bus' = net.roster bus' := roster_modify_of_ne hb _ _
    rw [hroster, if_neg hb, List.append_nil]
    exact List.filter_congr hlive

theorem attached_enrol (net : Network) (bus mtu slots bus' : Nat) :
    (net.enrol bus mtu slots).attached bus' =
      net.attached bus' ++ if bus' = bus then [⟨net.stations.length, mtu⟩] else [] := by
  have hlen : (net.enrol bus mtu slots).stations.length = net.stations.length + 1 := by simp [enrol]
  unfold attached
  rw [hlen, List.range_succ, List.filterMap_append]
  congr 1
  · refine List.filterMap_congr fun n hn => ?_
    rw [station?_enrol, if_neg (Nat.ne_of_lt (List.mem_range.1 hn))]
  · by_cases hb : bus' = bus
    · simp [station?_enrol, Station.seat?, Station.fresh, hb]
    · simp [station?_enrol, Station.seat?, Station.fresh, hb, Ne.symm hb]

theorem Sound.join (h : net.Sound) {bus : Nat} (hbus : bus < net.rosters.length) (mtu slots : Nat) :
    (net.enrol bus mtu slots).Sound where
  bus_lt {n station} hstation := by
    have hlen : (net.enrol bus mtu slots).rosters.length = net.rosters.length := by simp [enrol]
    rw [hlen]
    rw [station?_enrol] at hstation
    by_cases hn : n = net.stations.length
    · rw [if_pos hn] at hstation
      cases hstation
      exact hbus
    · rw [if_neg hn] at hstation
      exact h.bus_lt hstation
  station_lt {bus' member} hmember := by
    have hlen : (net.enrol bus mtu slots).stations.length = net.stations.length + 1 := by simp [enrol]
    rw [hlen]
    by_cases hb : bus' = bus
    · subst hb
      rw [show (net.enrol bus' mtu slots).roster bus' = _ from roster_modify_self hbus _ _, List.mem_append,
        List.mem_filter, List.mem_singleton] at hmember
      rcases hmember with ⟨hmember, -⟩ | rfl
      · exact Nat.lt_succ_of_lt (h.station_lt hmember)
      · exact Nat.lt_succ_self _
    · rw [show (net.enrol bus mtu slots).roster bus' = _ from roster_modify_of_ne hb _ _] at hmember
      exact Nat.lt_succ_of_lt (h.station_lt hmember)
  members_eq bus' := by rw [members_enrol h hbus, attached_enrol, h.members_eq]
  handler_iff {n station} hstation := by
    rw [station?_enrol] at hstation
    by_cases hn : n = net.stations.length
    · rw [if_pos hn] at hstation
      cases hstation
      simp [Station.fresh]
    · rw [if_neg hn] at hstation
      exact h.handler_iff hstation

theorem isLive_put {n : Nat} {station : Station} (hstation : net.station? n = some station) (station' : Station)
    (member : Member) : (net.put n station').isLive member = net.isLive member := by
  unfold isLive
  by_cases hp : member.station = n
  · rw [hp, station?_put_self (lt_of_station? hstation), hstation]
    rfl
  · rw [station?_put_of_ne hp]

theorem station?_put_cases {n p : Nat} {station' other : Station} (hn : n < net.stations.length)
    (h : (net.put n station').station? p = some other) :
    p = n ∧ other = station' ∨ p ≠ n ∧ net.station? p = some other := by
  by_cases hp : p = n
  · subst hp
    rw [station?_put_self hn] at h
    exact .inl ⟨rfl, (Option.some.inj h).symm⟩
  · rw [station?_put_of_ne hp] at h
    exact .inr ⟨hp, h⟩

/-- A station whose state is replaced stays on its bus, or stays away from it. -/
theorem Sound.put (h : net.Sound) {n : Nat} {station station' : Station} (hstation : net.station? n = some station)
    (hbus : station'.bus = station.bus) (hmtu : station'.mtu = station.mtu)
    (hclosed : station'.phase = .closed ↔ station.phase = .closed)
    (hhandler : station'.receiver.handler.isSome ↔ station'.phase = .started) : (net.put n station').Sound := by
  have hn := lt_of_station? hstation
  refine ⟨?_, ?_, ?_, ?_⟩
  · intro p other hother
    rw [rosters_put]
    rcases station?_put_cases hn hother with ⟨-, rfl⟩ | ⟨-, hother⟩
    · rw [hbus]
      exact h.bus_lt hstation
    · exact h.bus_lt hother
  · intro bus member hmember
    rw [length_stations_put]
    exact h.station_lt hmember
  · intro bus
    have hmembers : (net.put n station').members bus = net.members bus :=
      List.filter_congr fun member _ => isLive_put hstation station' member
    rw [hmembers, h.members_eq]
    refine (attached_congr (length_stations_put net n station') fun p => ?_).symm
    by_cases hp : p = n
    · subst hp
      rw [station?_put_self hn, hstation]
      simp [Station.seat?, hbus, hmtu, hclosed]
    · rw [station?_put_of_ne hp]
  · intro p other hother
    rcases station?_put_cases hn hother with ⟨-, rfl⟩ | ⟨-, hother⟩
    · exact hhandler
    · exact h.handler_iff hother

/-- A station that closes is off its roster and off the list of those attached. -/
theorem Sound.close (h : net.Sound) {n : Nat} {station station' : Station} (hstation : net.station? n = some station)
    (hbus : station'.bus = station.bus) (hclosed : station'.phase = .closed)
    (hhandler : station'.receiver.handler = none) : ((net.put n station').leave station.bus n).Sound := by
  have hn := lt_of_station? hstation
  have hroster : station.bus < (net.put n station').rosters.length := h.bus_lt hstation
  have hmembers : ∀ bus, (net.put n station').members bus = net.members bus := fun bus =>
    List.filter_congr fun member _ => isLive_put hstation station' member
  refine ⟨?_, ?_, ?_, ?_⟩
  · intro p other hget
    rw [length_rosters_leave, rosters_put]
    rcases station?_put_cases hn hget with ⟨-, rfl⟩ | ⟨-, hget⟩
    · rw [hbus]
      exact h.bus_lt hstation
    · exact h.bus_lt hget
  · intro bus member hmember
    rw [length_stations_leave, length_stations_put]
    exact h.station_lt (roster_leave_subset hroster hmember)
  · intro bus
    by_cases hb : bus = station.bus
    · subst hb
      rw [members_leave_self hroster, hmembers, h.members_eq]
      refine (attached_without ?_ ?_ fun p hp => ?_).symm
      · rw [length_stations_leave, length_stations_put]
      · rw [station?_leave, station?_put_self hn]
        simp [Station.seat?, hclosed]
      · rw [station?_leave, station?_put_of_ne hp]
    · rw [members_leave_of_ne hb, hmembers, h.members_eq]
      refine (attached_congr ?_ fun p => ?_).symm
      · rw [length_stations_leave, length_stations_put]
      · rw [station?_leave]
        by_cases hp : p = n
        · subst hp
          rw [station?_put_self hn, hstation]
          simp [Station.seat?, hclosed, Ne.symm hb]
        · rw [station?_put_of_ne hp]
  · intro p other hget
    rcases station?_put_cases hn hget with ⟨-, rfl⟩ | ⟨-, hget⟩
    · simp [hhandler, hclosed]
    · exact h.handler_iff hget

/-- A dropped station leaves its entry behind, which is live no more. -/
theorem Sound.drop (h : net.Sound) (n : Nat) : (net.discard n).Sound := by
  have hget : ∀ {p station}, (net.discard n).station? p = some station → net.station? p = some station := by
    intro p station hp
    by_cases hpn : p = n
    · rw [hpn, station?_discard_self] at hp
      cases hp
    · rwa [station?_discard_of_ne hpn] at hp
  refine ⟨fun hp => h.bus_lt (hget hp), fun hmember => ?_, fun bus => ?_, fun hp => h.handler_iff (hget hp)⟩
  · rw [length_stations_discard]
    exact h.station_lt hmember
  · have hmembers : (net.discard n).members bus = (net.members bus).filter (·.station != n) := by
      unfold members
      rw [List.filter_filter]
      refine List.filter_congr fun member _ => ?_
      unfold isLive
      by_cases hp : member.station = n
      · rw [hp, station?_discard_self]
        simp
      · rw [station?_discard_of_ne hp]
        simp [hp]
    rw [hmembers, h.members_eq]
    refine (attached_without (length_stations_discard net n) ?_ fun p hp => station?_discard_of_ne hp).symm
    rw [station?_discard_self]
    rfl

theorem Sound.update (h : net.Sound) {n : Nat} {station station' : Station} (hstation : net.station? n = some station)
    (hupdate : station.Update station') : (net.put n station').Sound := by
  have hhandler := h.handler_iff hstation
  cases hupdate with
  | start noRetransmit failsAt hphase => exact h.put hstation rfl rfl (by simp [hphase]) (by simp)
  | configure filters receiver hphase hreceiver =>
    exact h.put hstation rfl rfl .rfl (by rw [Receiver.handler_of_reconfigure hreceiver]; exact hhandler)
  | offer frames => exact h.put hstation rfl rfl .rfl (by rw [Receiver.offer_handler_isSome]; exact hhandler)
  | setFault fault => exact h.put hstation rfl rfl .rfl hhandler
  | pop frame receiver hpop =>
    obtain ⟨rest, -, rfl⟩ := Receiver.pop_eq_ok_iff.1 hpop
    exact h.put hstation rfl rfl .rfl hhandler

theorem Sound.change {net' : Network} (h : net.Sound) (hchange : Change net net') : net'.Sound := by
  cases hchange with
  | addBus => exact h.addBus
  | join mtu slots hbus => exact h.join hbus mtu slots
  | update hstation hupdate => exact h.update hstation hupdate
  | close hstation hphase => exact h.close hstation rfl rfl (Receiver.handler_unregister _)
  | drop hstation => exact h.drop _

/-- Every reachable network has its rosters in order, whatever handlers failed on the way. -/
theorem Reachable.sound (h : net.Reachable) : net.Sound := h.of_change sound_empty Sound.change

end Sound

end Network

end CanBus
