import CanBus.Proofs.Network.Delivery
import CanBus.Proofs.Network.Effect

/-!
# Histories — what a run tells of its stations

A history lists operations with their answers.  Which stations a run has made, with which length and how many slots,
and which of them it has closed, dropped or configured, is read off its history, and the network after the run is as
the history tells (`after_tells`).
-/

namespace CanBus

/-- What a station was made with. -/
structure Origin where
  bus : Nat
  mtu : Nat
  slots : Nat
  deriving DecidableEq, Repr

namespace Network

/-- Operations with their answers. -/
abbrev History := List (Operation × Answer)

/-- The operations of a run with their answers. -/
def history (net : Network) : List Operation → History
  | [] => []
  | op :: ops => (op, (net.apply op).answer) :: (net.apply op).net.history ops

/-- What an operation with this answer has made. -/
def origin? : Operation × Answer → Option Origin
  | (.join bus mtu slots, .joined _) => some ⟨bus, mtu, slots⟩
  | _ => none

namespace History

/-- The stations made, in the order of their making. -/
def origins (past : History) : List Origin := past.filterMap origin?

/-- The station was closed. -/
def Closed (past : History) (n : Nat) : Prop := (.close n, .done) ∈ past

/-- The station was dropped. -/
def Dropped (past : History) (n : Nat) : Prop := (.drop n, .done) ∈ past

/-- The filters of the station were set. -/
def Configured (past : History) (n : Nat) : Prop := ∃ filters, (.configure n filters, .done) ∈ past

/-- The history tells of something done to the station. -/
def Told (past : History) (n : Nat) : Prop := past.Closed n ∨ past.Dropped n ∨ past.Configured n

instance (past : History) (n : Nat) : Decidable (past.Closed n) := inferInstanceAs (Decidable (_ ∈ _))

instance (past : History) (n : Nat) : Decidable (past.Dropped n) := inferInstanceAs (Decidable (_ ∈ _))

/-- The stations made on a bus and neither closed nor dropped, in the order of their making. -/
def onBus (past : History) (bus : Nat) : List Member :=
  (List.range past.origins.length).filterMap fun n =>
    past.origins[n]?.bind fun origin =>
      if origin.bus = bus ∧ ¬ past.Closed n ∧ ¬ past.Dropped n then some ⟨n, origin.mtu⟩ else none

theorem mem_onBus {past : History} {bus : Nat} {member : Member} :
    member ∈ past.onBus bus ↔ ∃ origin, past.origins[member.station]? = some origin ∧
      (origin.bus = bus ∧ ¬ past.Closed member.station ∧ ¬ past.Dropped member.station) ∧ origin.mtu = member.mtu := by
  simp only [onBus, List.mem_filterMap, List.mem_range, Option.bind_eq_some_iff]
  constructor
  · rintro ⟨n, -, origin, horigin, hmember⟩
    by_cases hon : origin.bus = bus ∧ ¬ past.Closed n ∧ ¬ past.Dropped n
    · rw [if_pos hon] at hmember
      cases hmember
      exact ⟨origin, horigin, hon, rfl⟩
    · rw [if_neg hon] at hmember
      cases hmember
  · rintro ⟨origin, horigin, hon, hmtu⟩
    exact ⟨member.station, (List.getElem?_eq_some_iff.1 horigin).1, origin, horigin, by rw [if_pos hon, hmtu]⟩

@[simp] theorem origins_append (past : History) (entry : Operation × Answer) :
    origins (past ++ [entry]) = past.origins ++ (origin? entry).toList := by
  cases h : origin? entry <;> simp [origins, h]

end History

theorem history_append (net : Network) (ops more : List Operation) :
    net.history (ops ++ more) = net.history ops ++ (net.after ops).history more := by
  induction ops generalizing net with
  | nil => rfl
  | cons op ops ih => rw [List.cons_append, history, ih, after_cons, history, List.cons_append]

theorem fst_history (net : Network) (ops : List Operation) : (net.history ops).map (·.1) = ops := by
  induction ops generalizing net with
  | nil => rfl
  | cons op ops ih => rw [history, List.map_cons, ih]

/-! ## What an operation leaves of a station -/

/-- What `station` has become through an operation with its answer: it stays where it is with as many slots, it is
closed by a close alone, and its filters change by a configuration alone. -/
structure Kept (entry : Operation × Answer) (n : Nat) (station station' : Station) : Prop where
  bus_eq : station'.bus = station.bus
  mtu_eq : station'.mtu = station.mtu
  size_eq : station'.receiver.bank.size = station.receiver.bank.size
  closed_iff : station'.phase = .closed ↔ station.phase = .closed ∨ entry = (.close n, .done)
  bank_eq : station'.receiver.bank = station.receiver.bank ∨ ∃ filters, entry = (.configure n filters, .done)

variable {net : Network}

theorem Kept.of_bank {entry : Operation × Answer} {n : Nat} {station station' : Station}
    (hbus : station'.bus = station.bus) (hmtu : station'.mtu = station.mtu)
    (hbank : station'.receiver.bank = station.receiver.bank)
    (hphase : station'.phase = .closed ↔ station.phase = .closed) (h : entry ≠ (.close n, .done)) :
    Kept entry n station station' :=
  ⟨hbus, hmtu, by rw [hbank], by simp [hphase, h], .inl hbank⟩

theorem Kept.refl {entry : Operation × Answer} {n : Nat} (station : Station) (h : entry ≠ (.close n, .done)) :
    Kept entry n station station := .of_bank rfl rfl rfl .rfl h

/-- What may become of the station of a number through an operation with its answer. -/
inductive Fate (entry : Operation × Answer) (n : Nat) : Option Station → Option Station → Prop where
  | absent : Fate entry n none none
  | dropped (station : Station) (h : entry = (.drop n, .done)) : Fate entry n (some station) none
  | kept {station station' : Station} (h : entry ≠ (.drop n, .done)) (hkept : Kept entry n station station') :
      Fate entry n (some station) (some station')

theorem Fate.refl {entry : Operation × Answer} {n : Nat} (station : Option Station) (hdrop : entry ≠ (.drop n, .done))
    (hclose : entry ≠ (.close n, .done)) : Fate entry n station station := by
  cases station with
  | none => exact .absent
  | some station => exact .kept hdrop (.refl station hclose)

/-- An operation that replaces one station leaves the others alone. -/
theorem put_fate {entry : Operation × Answer} {n : Nat} {actor actor' : Station} (hactor : net.station? n = some actor)
    (hdrop : ∀ p, entry ≠ (.drop p, .done)) (hclose : ∀ p, p ≠ n → entry ≠ (.close p, .done))
    (hkept : Kept entry n actor actor') {p : Nat} : Fate entry p (net.station? p) ((net.put n actor').station? p) := by
  by_cases hp : p = n
  · subst hp
    rw [hactor, station?_put_self (lt_of_station? hactor)]
    exact .kept (hdrop p) hkept
  · rw [station?_put_of_ne hp]
    exact .refl _ (hdrop p) (hclose p hp)

/-- Deliveries leave every station where it is. -/
theorem delivering_fate {op : Operation} (offers : List (Nat × List Frame)) (value : Answer) {p : Nat}
    (hdrop : op ≠ .drop p) (hclose : op ≠ .close p) :
    Fate (op, (net.delivering offers value).answer) p (net.station? p)
      ((net.delivering offers value).net.station? p) := by
  show Fate _ p _ ((net.deliver offers).1.station? p)
  rw [deliver_station?]
  cases net.station? p with
  | none => exact .absent
  | some station =>
    exact .kept (fun h => hdrop (congrArg (·.1) h)) (.of_bank rfl rfl rfl .rfl fun h => hclose (congrArg (·.1) h))

/-- **One operation** on the stations that there are. -/
theorem Effect.fate {op : Operation} {reaction : Reaction} (heffect : Effect net op reaction) {p : Nat}
    (hp : p ≠ net.stations.length) :
    Fate (op, reaction.answer) p (net.station? p) (reaction.net.station? p) := by
  cases heffect with
  | absent op => exact .refl _ (by simp [quiet]) (by simp [quiet])
  | refused hdeclined => exact .refl _ (by simp [quiet]) (by simp [quiet])
  | addBus => exact .refl _ (by simp) (by simp)
  | join hbus hmtu hslots =>
    show Fate _ p _ ((net.enrol _ _ _).station? p)
    rw [station?_enrol, if_neg hp]
    exact .refl _ (by simp) (by simp)
  | start h hphase noRetransmit failsAt =>
    refine put_fate h (by simp) (by simp) ?_
    exact .of_bank rfl rfl rfl (by simp [hphase]) (by simp)
  | configure h hphase hreceiver =>
    refine put_fate h (by simp [quiet]) (by simp) ?_
    exact ⟨rfl, rfl, Receiver.size_of_reconfigure hreceiver, by simp, .inr ⟨_, rfl⟩⟩
  | inject h hphase frames => exact delivering_fate _ _ (by simp) (by simp)
  | meetFault h hphase hfault frames =>
    refine put_fate h (by simp) (by simp) ?_
    exact .of_bank rfl rfl rfl .rfl (by simp)
  | send h hphase hfault hcheck => exact delivering_fate _ _ (by simp) (by simp)
  | arm h fault =>
    refine put_fate h (by simp) (by simp) ?_
    exact .of_bank rfl rfl rfl .rfl (by simp)
  | close h hphase =>
    refine put_fate h (by simp [quiet]) (fun q hq => by simpa [quiet] using Ne.symm hq) ?_
    exact ⟨rfl, rfl, rfl, by simp [quiet], .inl rfl⟩
  | @drop n station h =>
    by_cases hpn : p = n
    · subst hpn
      rw [h]
      show Fate _ p _ ((net.discard p).station? p)
      rw [station?_discard_self]
      exact .dropped station rfl
    · show Fate _ p _ ((net.discard n).station? p)
      rw [station?_discard_of_ne hpn]
      exact .refl _ (by simpa [quiet] using Ne.symm hpn) (by simp)
  | pop h hpop =>
    obtain ⟨rest, -, rfl⟩ := Receiver.pop_eq_ok_iff.1 hpop
    refine put_fate h (by simp) (by simp) ?_
    exact .of_bank rfl rfl rfl .rfl (by simp)

/-- The stations are those that there were, and the one that was made. -/
theorem Effect.length_eq {op : Operation} {reaction : Reaction} (heffect : Effect net op reaction) :
    reaction.net.stations.length = net.stations.length + (origin? (op, reaction.answer)).toList.length := by
  cases heffect with
  | absent op => cases op <;> rfl
  | refused hdeclined => cases hdeclined <;> rfl
  | addBus => rfl
  | join hbus hmtu hslots => exact List.length_append
  | start h hphase noRetransmit failsAt => exact length_stations_put net _ _
  | configure h hphase hreceiver => exact length_stations_put net _ _
  | inject h hphase frames => simp [delivering, deliver_length, origin?]
  | meetFault h hphase hfault frames => exact length_stations_put net _ _
  | send h hphase hfault hcheck => simp [delivering, deliver_length, origin?]
  | arm h fault => exact length_stations_put net _ _
  | close h hphase => exact length_stations_put net _ _
  | drop h => exact length_stations_discard net _
  | pop h hpop => exact length_stations_put net _ _

/-- The station that was made has the next number, which is the answer. -/
theorem Effect.made {op : Operation} {reaction : Reaction} (heffect : Effect net op reaction) {origin : Origin}
    (h : origin? (op, reaction.answer) = some origin) :
    (op, reaction.answer) = (.join origin.bus origin.mtu origin.slots, .joined net.stations.length) ∧
      origin.slots ≠ 0 ∧
        reaction.net.station? net.stations.length = some (.fresh origin.bus origin.mtu origin.slots) := by
  cases heffect with
  | join hbus hmtu hslots =>
    cases h
    refine ⟨rfl, hslots, ?_⟩
    show (net.enrol _ _ _).station? _ = _
    rw [station?_enrol, if_pos rfl]
  | absent op => cases op <;> cases h
  | refused hdeclined => cases hdeclined <;> cases h
  | _ => cases h

/-- Only a station that there is can be closed, dropped or configured. -/
theorem Effect.lt_of_done {op : Operation} {reaction : Reaction} (heffect : Effect net op reaction)
    (hdone : reaction.answer = .done) {n : Nat}
    (hop : op = .close n ∨ op = .drop n ∨ ∃ filters, op = .configure n filters) : n < net.stations.length := by
  cases heffect with
  | absent op => cases hdone
  | refused hdeclined => cases hdone
  | configure h hphase hreceiver =>
    obtain ⟨_, heq⟩ := (hop.resolve_left nofun).resolve_left nofun
    cases heq
    exact lt_of_station? h
  | close h hphase =>
    cases hop.resolve_right (by simp)
    exact lt_of_station? h
  | drop h =>
    cases (hop.resolve_left nofun).resolve_right nofun
    exact lt_of_station? h
  | _ => simp at hop

/-! ## Whole runs -/

namespace History

theorem closed_concat {past : History} {entry : Operation × Answer} {n : Nat} :
    Closed (past ++ [entry]) n ↔ past.Closed n ∨ entry = (.close n, .done) := by
  simp [Closed, eq_comm]

theorem dropped_concat {past : History} {entry : Operation × Answer} {n : Nat} :
    Dropped (past ++ [entry]) n ↔ past.Dropped n ∨ entry = (.drop n, .done) := by
  simp [Dropped, eq_comm]

theorem configured_concat {past : History} {entry : Operation × Answer} {n : Nat} :
    Configured (past ++ [entry]) n ↔ past.Configured n ∨ ∃ filters, entry = (.configure n filters, .done) := by
  simp [Configured, exists_or, eq_comm]

/-- What is told of a station was told before, or by the operation that was done. -/
theorem told_concat {past : History} {op : Operation} {answer : Answer} {n : Nat}
    (h : Told (past ++ [(op, answer)]) n) :
    past.Told n ∨ answer = .done ∧ (op = .close n ∨ op = .drop n ∨ ∃ filters, op = .configure n filters) := by
  rcases h with h | h | h
  · rcases closed_concat.1 h with h | h
    · exact .inl (.inl h)
    · cases h
      exact .inr ⟨rfl, .inl rfl⟩
  · rcases dropped_concat.1 h with h | h
    · exact .inl (.inr (.inl h))
    · cases h
      exact .inr ⟨rfl, .inr (.inl rfl)⟩
  · rcases configured_concat.1 h with h | ⟨filters, h⟩
    · exact .inl (.inr (.inr h))
    · cases h
      exact .inr ⟨rfl, .inr (.inr ⟨filters, rfl⟩)⟩

/-- The station of number `n` is as the history tells, if this is its origin. -/
structure Fits (past : History) (n : Nat) (origin : Origin) (station : Station) : Prop where
  bus_eq : station.bus = origin.bus
  mtu_eq : station.mtu = origin.mtu
  size_eq : station.receiver.bank.size = origin.slots
  slots_ne : origin.slots ≠ 0
  closed_iff : station.phase = .closed ↔ past.Closed n
  deaf : ¬ past.Configured n → ∀ frame, station.receiver.bank.accepts frame = false

theorem Fits.step {past : History} {entry : Operation × Answer} {n : Nat} {origin : Origin} {station station' : Station}
    (h : past.Fits n origin station) (hkept : Kept entry n station station') :
    Fits (past ++ [entry]) n origin station' where
  bus_eq := hkept.bus_eq.trans h.bus_eq
  mtu_eq := hkept.mtu_eq.trans h.mtu_eq
  size_eq := hkept.size_eq.trans h.size_eq
  slots_ne := h.slots_ne
  closed_iff := by rw [hkept.closed_iff, h.closed_iff, closed_concat]
  deaf hnot := by
    rw [configured_concat, not_or] at hnot
    rw [hkept.bank_eq.resolve_right hnot.2]
    exact h.deaf hnot.1

theorem fits_fresh {past : History} {n : Nat} {origin : Origin} (hslots : origin.slots ≠ 0) (h : ¬ past.Told n) :
    past.Fits n origin (.fresh origin.bus origin.mtu origin.slots) where
  bus_eq := rfl
  mtu_eq := rfl
  size_eq := Bank.size_ofSize _
  slots_ne := hslots
  closed_iff := ⟨nofun, fun hclosed => absurd (.inl hclosed) h⟩
  deaf _ := Bank.accepts_ofSize _

/-- The network is as the history tells. -/
structure Tells (past : History) (net : Network) : Prop where
  length_eq : net.stations.length = past.origins.length
  joined_iff : ∀ {bus mtu slots n}, (.join bus mtu slots, .joined n) ∈ past ↔ past.origins[n]? = some ⟨bus, mtu, slots⟩
  lt_of_told : ∀ {n}, past.Told n → n < net.stations.length
  none_iff : ∀ {n}, n < net.stations.length → (net.station? n = none ↔ past.Dropped n)
  fits : ∀ {n station}, net.station? n = some station →
    ∃ origin, past.origins[n]? = some origin ∧ past.Fits n origin station

theorem tells_empty : Tells [] empty where
  length_eq := rfl
  joined_iff := by simp [origins]
  lt_of_told h := by simp [Told, Closed, Dropped, Configured] at h
  none_iff hn := absurd hn (Nat.not_lt_zero _)
  fits h := absurd h (by simp [station?, empty])

/-- The origin of a station is what it was joined with, also after one more operation. -/
theorem Tells.joined {past : History} (h : past.Tells net) {op : Operation} {reaction : Reaction}
    (heffect : Effect net op reaction) {bus mtu slots n : Nat} :
    (.join bus mtu slots, .joined n) ∈ past ++ [(op, reaction.answer)] ↔
      (origins (past ++ [(op, reaction.answer)]))[n]? = some ⟨bus, mtu, slots⟩ := by
  rw [origins_append, List.mem_append, List.mem_singleton, h.joined_iff]
  cases hmade : origin? (op, reaction.answer) with
  | none =>
    have hne : (.join bus mtu slots, .joined n) ≠ (op, reaction.answer) := by
      intro heq
      rw [← heq] at hmade
      cases hmade
    rw [Option.toList_none, List.append_nil]
    exact or_iff_left hne
  | some origin =>
    rw [(heffect.made hmade).1, h.length_eq, Option.toList_some]
    rcases Nat.lt_trichotomy n past.origins.length with hn | rfl | hn
    · rw [List.getElem?_append_left hn]
      exact or_iff_left fun heq => by cases heq; exact Nat.lt_irrefl _ hn
    · rw [List.getElem?_concat_length, List.getElem?_eq_none (Nat.le_refl _)]
      cases origin
      simp [eq_comm]
    · rw [List.getElem?_eq_none (Nat.le_of_lt hn), List.getElem?_eq_none (by rw [List.length_append]; exact hn)]
      exact or_iff_left fun heq => by cases heq; exact Nat.lt_irrefl _ hn

/-- A station that there was goes on being as the history tells. -/
theorem Tells.old {past : History} (h : past.Tells net) {op : Operation} {reaction : Reaction}
    (heffect : Effect net op reaction) {n : Nat} (hn : n < net.stations.length) :
    (reaction.net.station? n = none ↔ Dropped (past ++ [(op, reaction.answer)]) n) ∧
      ∀ station, reaction.net.station? n = some station →
        ∃ origin, (origins (past ++ [(op, reaction.answer)]))[n]? = some origin ∧
          Fits (past ++ [(op, reaction.answer)]) n origin station := by
  have hfate := heffect.fate (Nat.ne_of_lt hn)
  generalize hold : net.station? n = before at hfate
  generalize reaction.net.station? n = after at hfate ⊢
  cases hfate with
  | absent => exact ⟨iff_of_true rfl (dropped_concat.2 (.inl ((h.none_iff hn).1 hold))), nofun⟩
  | dropped station hentry => exact ⟨iff_of_true rfl (dropped_concat.2 (.inr hentry)), nofun⟩
  | @kept station station' hentry hkept =>
    obtain ⟨origin, horigin, hfits⟩ := h.fits hold
    have hnot : ¬ Dropped (past ++ [(op, reaction.answer)]) n := by
      rw [dropped_concat, ← h.none_iff hn, hold]
      exact not_or.2 ⟨nofun, hentry⟩
    refine ⟨iff_of_false nofun hnot, fun other hother => ?_⟩
    obtain rfl := Option.some.inj hother
    refine ⟨origin, ?_, hfits.step hkept⟩
    rw [origins_append, List.getElem?_append_left (h.length_eq ▸ hn), horigin]

/-- **One more operation.**  The network goes on being as the history tells. -/
theorem Tells.step {past : History} (h : past.Tells net) (op : Operation) :
    Tells (past ++ [(op, (net.apply op).answer)]) (net.apply op).net := by
  have heffect := apply_effect net op
  generalize net.apply op = reaction at heffect ⊢
  have hlength := heffect.length_eq
  have hlt : ∀ {n}, Told (past ++ [(op, reaction.answer)]) n → n < net.stations.length := by
    intro n htold
    rcases told_concat htold with hbefore | ⟨hdone, hop⟩
    · exact h.lt_of_told hbefore
    · exact heffect.lt_of_done hdone hop
  -- the station that was made, of which nothing is told yet
  have hnew : ∀ {n}, n < reaction.net.stations.length → ¬ n < net.stations.length →
      ∃ origin, (origins (past ++ [(op, reaction.answer)]))[n]? = some origin ∧ origin.slots ≠ 0 ∧
        reaction.net.station? n = some (.fresh origin.bus origin.mtu origin.slots) := by
    intro n hn hge
    cases hmade : origin? (op, reaction.answer) with
    | none =>
      rw [hmade, Option.toList_none, List.length_nil] at hlength
      omega
    | some origin =>
      rw [hmade, Option.toList_some, List.length_singleton] at hlength
      obtain rfl : n = net.stations.length := by omega
      obtain ⟨-, hslots, hfresh⟩ := heffect.made hmade
      refine ⟨origin, ?_, hslots, hfresh⟩
      rw [origins_append, hmade, h.length_eq, List.getElem?_append_right (Nat.le_refl _), Nat.sub_self]
      rfl
  refine ⟨?_, h.joined heffect, fun htold => ?_, fun {n} hn => ?_, fun {n station} hstation => ?_⟩
  · rw [origins_append, List.length_append, hlength, h.length_eq]
  · have := hlt htold
    omega
  · by_cases hold : n < net.stations.length
    · exact (h.old heffect hold).1
    · obtain ⟨origin, -, -, hfresh⟩ := hnew hn hold
      rw [hfresh]
      exact iff_of_false nofun fun hdropped => hold (hlt (.inr (.inl hdropped)))
  · by_cases hold : n < net.stations.length
    · exact (h.old heffect hold).2 station hstation
    · obtain ⟨origin, horigin, hslots, hfresh⟩ := hnew (lt_of_station? hstation) hold
      obtain rfl := Option.some.inj (hstation.symm.trans hfresh)
      exact ⟨origin, horigin, fits_fresh hslots fun htold => hold (hlt htold)⟩

end History

/-- The network after a run is as the history of the run tells. -/
theorem after_tells (ops : List Operation) : (empty.history ops).Tells (empty.after ops) := by
  induction ops using List.reverseRecOn with
  | nil => exact History.tells_empty
  | append_singleton ops op ih =>
    rw [history_append, after_append, after_cons, after_nil]
    exact ih.step op

/-- Who is on a bus after a run, by its history. -/
theorem members_after (ops : List Operation) (bus : Nat) :
    (empty.after ops).members bus = (empty.history ops).onBus bus := by
  have hsound : (empty.after ops).Sound := Reachable.sound ⟨ops, rfl⟩
  have htells := after_tells ops
  generalize empty.after ops = net at hsound htells ⊢
  generalize empty.history ops = past at htells ⊢
  rw [hsound.members_eq, attached, History.onBus, htells.length_eq]
  refine List.filterMap_congr fun n hn => ?_
  rw [List.mem_range, ← htells.length_eq] at hn
  cases hstation : net.station? n with
  | none =>
    have hdropped := (htells.none_iff hn).1 hstation
    cases past.origins[n]? <;> simp [hdropped]
  | some station =>
    obtain ⟨origin, horigin, hfits⟩ := htells.fits hstation
    have hkept : ¬ past.Dropped n := by
      rw [← htells.none_iff hn, hstation]
      exact Option.some_ne_none station
    simp [horigin, Station.seat?, hfits.bus_eq, hfits.mtu_eq, hfits.closed_iff, hkept]

/-- **The registry and the stations after a run.**  On a bus are the stations made on it and neither closed nor dropped,
each once and in the order of their making.  A station has a handler exactly while it is started, it keeps the slots it
was made with, and it takes no frame before its filters are set. -/
theorem run_registry (ops : List Operation) :
    let net := empty.after ops
    let past := empty.history ops
    (∀ bus mtu slots n,
      (.join bus mtu slots, .joined n) ∈ past ↔ past.origins[n]? = some ⟨bus, mtu, slots⟩) ∧
    (∀ bus, net.members bus = past.onBus bus ∧ (net.members bus).Pairwise (fun a b => a.station < b.station) ∧
      net.memberCount bus = (past.onBus bus).length) ∧
    (∀ bus n, net.contains bus n = true ↔
      ∃ origin, past.origins[n]? = some origin ∧ origin.bus = bus ∧ ¬ past.Closed n ∧ ¬ past.Dropped n) ∧
    ∀ n origin, past.origins[n]? = some origin →
      (net.station? n = none ↔ past.Dropped n) ∧
      ∀ station, net.station? n = some station →
        station.bus = origin.bus ∧ station.mtu = origin.mtu ∧ (station.phase = .closed ↔ past.Closed n) ∧
        (station.receiver.handler.isSome ↔ station.phase = .started) ∧
        station.receiver.bank.size = origin.slots ∧ 1 ≤ origin.slots ∧
        (¬ past.Configured n → ∀ frame, station.receiver.bank.accepts frame = false) := by
  intro net past
  have hsound : net.Sound := Reachable.sound ⟨ops, rfl⟩
  have htells : past.Tells net := after_tells ops
  refine ⟨fun _ _ _ _ => htells.joined_iff, fun bus => ⟨members_after ops bus, ?_, ?_⟩, fun bus n => ?_,
    fun n origin horigin => ⟨?_, fun station hstation => ?_⟩⟩
  · rw [hsound.members_eq]
    exact net.attached_pairwise_lt bus
  · rw [memberCount, members_after]
  · rw [contains, members_after, List.any_eq_true]
    constructor
    · rintro ⟨member, hmember, hn⟩
      obtain rfl := beq_iff_eq.1 hn
      obtain ⟨origin, horigin, hon, -⟩ := History.mem_onBus.1 hmember
      exact ⟨origin, horigin, hon⟩
    · rintro ⟨origin, horigin, hon⟩
      exact ⟨⟨n, origin.mtu⟩, History.mem_onBus.2 ⟨origin, horigin, hon, rfl⟩, beq_self_eq_true n⟩
  · exact htells.none_iff (htells.length_eq ▸ (List.getElem?_eq_some_iff.1 horigin).1)
  · obtain ⟨made, hmade, hfits⟩ := htells.fits hstation
    obtain rfl := Option.some.inj (hmade.symm.trans horigin)
    exact ⟨hfits.bus_eq, hfits.mtu_eq, hfits.closed_iff, hsound.handler_iff hstation, hfits.size_eq,
      Nat.pos_of_ne_zero hfits.slots_ne, hfits.deaf⟩

/-- A joining in vain, a station closed before it was started, one that is dropped and one whose handler fails. -/
def eventful : List Operation :=
  [.addBus, .join 0 9 1, .join 0 8 2, .join 0 64 1, .join 0 64 1, .join 0 8 3, .join 0 8 1, .close 1, .drop 2,
    .start 0 false [], .start 3 false [1], .configure 3 [.promiscuous none], .send 0 (mixedBatch.take 1)]

theorem run_registry_eventful :
    (empty.run eventful).getLast?.map (·.answer) = some .handlerFailed ∧
      (empty.after eventful).members 0 = [⟨0, 8⟩, ⟨3, 8⟩, ⟨4, 8⟩] ∧
      ∃ station, (empty.after eventful).station? 0 = some station ∧ station.phase = .started ∧
        station.receiver.bank.size = 2 ∧ ∀ frame, station.receiver.bank.accepts frame = false := by
  obtain ⟨-, hbuses, -, hstations⟩ := run_registry eventful
  have horigin : (empty.history eventful).origins[0]? = some ⟨0, 8, 2⟩ := by decide
  have hstation : (empty.after eventful).station? 0 =
      some ⟨0, 8, .started, true, none, ⟨⟨[.dead, .dead]⟩, .fresh (some ⟨0, []⟩), []⟩⟩ := by decide
  obtain ⟨-, -, -, -, hsize, -, hdeaf⟩ := (hstations 0 _ horigin).2 _ hstation
  have hconfigured : ¬ (empty.history eventful).Configured 0 := by
    rintro ⟨filters, hmem⟩
    have hop : .configure 0 filters ∈ eventful := fst_history empty eventful ▸ List.mem_map_of_mem hmem
    simp [eventful] at hop
  exact ⟨by decide, (hbuses 0).1.trans (by decide), _, hstation, rfl, hsize, hdeaf hconfigured⟩

end Network

end CanBus
