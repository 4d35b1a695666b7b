import CanBus.Console.Medium
import CanBus.Proofs.Acceptance.Reduction
import CanBus.Proofs.Console.FilterText
import CanBus.Slcan.Session
import CanBus.SocketCan.Session

/-!
# Installation — from the texts of filters to the bank of an adapter

`plannedFilters` reads texts and reduces what they spell to the slots of a bank, and with its plan an adapter is
configured.  What the bank takes afterwards is said in terms of the texts (`Installed`), for every kind of adapter
(`install_installed`).
-/

namespace CanBus.Console

open Reduction (reduce shrink shrink_forall length_shrink Partitioned)

/-! ## Reading -/

/-- The texts spell the filters, each its own. -/
def Spell (texts : List String) (requested : List Filter) : Prop := texts.map filter = requested.map .ok

theorem Spell.length_eq {texts : List String} {requested : List Filter} (h : Spell texts requested) :
    requested.length = texts.length := by
  have hlength := congrArg List.length h
  rw [List.length_map, List.length_map] at hlength
  exact hlength.symm

/-- Each text spells a filter. -/
theorem Spell.read {texts : List String} {requested : List Filter} (h : Spell texts requested) {text : String}
    (hmem : text ∈ texts) : ∃ f ∈ requested, filter text = .ok f := by
  have hread : filter text ∈ requested.map .ok := h ▸ List.mem_map_of_mem hmem
  obtain ⟨f, hf, heq⟩ := List.mem_map.1 hread
  exact ⟨f, hf, heq.symm⟩

/-- Each filter is spelled by a text. -/
theorem Spell.written {texts : List String} {requested : List Filter} (h : Spell texts requested) {f : Filter}
    (hmem : f ∈ requested) : ∃ text ∈ texts, filter text = .ok f := by
  have hwritten : .ok f ∈ texts.map filter := h ▸ List.mem_map_of_mem hmem
  exact List.mem_map.1 hwritten

theorem filters_eq_ok_iff {texts : List String} {requested : List Filter} :
    filters texts = .ok requested ↔ Spell texts requested := by
  unfold Spell
  induction texts generalizing requested with
  | nil => simp [filters, eq_comm]
  | cons text rest ih =>
    rw [filters, List.map_cons]
    cases filter text with
    | error refusal => cases requested <;> simp
    | ok f =>
      cases requested with
      | nil => cases filters rest <;> simp [Except.map]
      | cons g others =>
        rw [List.map_cons, List.cons.injEq, ← ih]
        cases filters rest <;> simp [Except.map]

/-- Filters are refused for the sake of a text. -/
theorem filters_eq_error {texts : List String} {refusal : Refusal} (h : filters texts = .error refusal) :
    ∃ text ∈ texts, filter text = .error refusal := by
  induction texts with
  | nil => cases h
  | cons text rest ih =>
    rw [filters] at h
    cases hfilter : filter text with
    | error met =>
      rw [hfilter] at h
      cases h
      exact ⟨text, List.mem_cons_self .., hfilter⟩
    | ok f =>
      rw [hfilter] at h
      cases hrest : filters rest with
      | error met =>
        rw [hrest] at h
        cases h
        obtain ⟨other, hother, hrefused⟩ := ih hrest
        exact ⟨other, List.mem_cons_of_mem _ hother, hrefused⟩
      | ok others =>
        rw [hrest] at h
        cases h

/-! ## Planning -/

/-- The filters that are wanted: those requested, or one that takes every frame if there are none. -/
def wanted (requested : List Filter) : List Filter :=
  if requested.isEmpty then [.promiscuous none] else requested

theorem wanted_of_ne_nil {requested : List Filter} (h : requested ≠ []) : wanted requested = requested := by
  rw [wanted, if_neg (by simpa using h)]

/-- What is wanted is planned, merged as far as the slots ask for it. -/
theorem plannedFilters_of_spell {texts : List String} {requested : List Filter} (h : Spell texts requested)
    {slots : Nat} (hslots : 1 ≤ slots) : plannedFilters slots texts = .ok (shrink (wanted requested) slots) := by
  unfold plannedFilters
  rw [filters_eq_ok_iff.2 h]
  show (if slots < (wanted requested).length then _ else Except.ok (wanted requested)) = _
  by_cases hlong : slots < (wanted requested).length
  · rw [if_pos hlong, reduce, if_neg (by omega)]
    rfl
  · rw [if_neg hlong, Reduction.shrink_of_length_le (by omega)]

/-- Every filter that is planned has been checked or is a merge of such. -/
theorem inWidth_of_planned {texts : List String} {requested : List Filter} (h : Spell texts requested) (slots : Nat) :
    ∀ f ∈ shrink (wanted requested) slots, f.InWidth := by
  refine shrink_forall (fun a b ha _ => ha.merge b) (fun f hf => ?_) slots
  by_cases hnil : requested = []
  · rw [hnil] at hf
    rw [List.mem_singleton.1 hf]
    decide
  · rw [wanted_of_ne_nil hnil] at hf
    obtain ⟨text, -, hfilter⟩ := h.written hf
    exact (filter_eq_ok_iff.1 hfilter).1

theorem acceptedBy_planned {requested : List Filter} {frame : Frame} (slots : Nat)
    (h : acceptedBy (wanted requested) frame = true) : acceptedBy (shrink (wanted requested) slots) frame = true :=
  ((Partitioned.refl (wanted requested)).shrink slots).acceptedBy h

/-- What was requested is wanted. -/
theorem acceptedBy_wanted {requested : List Filter} {frame : Frame} (h : acceptedBy requested frame = true) :
    acceptedBy (wanted requested) frame = true := by
  by_cases hnil : requested = []
  · rw [hnil] at h
    cases h
  · rwa [wanted_of_ne_nil hnil]

/-! ## Installing -/

/-- Configure with the filters that texts spell: the state afterwards, and the refusal if there is one. -/
def install {σ : Type} (slots : Nat) (configure : List Filter → σ × Option Fault) (state : σ) (texts : List String) :
    σ × Option Refusal :=
  match plannedFilters slots texts with
  | .error refusal => (state, some refusal)
  | .ok planned => ((configure planned).1, (configure planned).2.map .fault)

/-- What installing the filters that texts spell makes of a bank.  A text that spells no filter leaves it as it was.
If all can be read there is no refusal, and the bank takes what the filters take that are now in it: everything if none
was asked for, what was asked for if that fits the slots, and no less if it does not. -/
structure Installed (before : Bank) (texts : List String) (after : Bank) (refusal : Option Refusal) : Prop where
  refused : (∃ text ∈ texts, ∃ met, filter text = .error met) →
    after = before ∧ ∃ text ∈ texts, ∃ met, filter text = .error met ∧ refusal = some met
  done : ∀ requested, texts.map filter = requested.map .ok →
    refusal = none ∧ ∃ planned, planned.length ≤ before.size ∧
      after.slots = planned ++ List.replicate (before.size - planned.length) .dead ∧
      (∀ frame, after.accepts frame = acceptedBy planned frame) ∧
      (∀ f ∈ planned, Filter.make f.id f.mask f.format = .ok f) ∧
      (texts = [] → ∀ frame, after.accepts frame = true) ∧
      (texts ≠ [] → texts.length ≤ before.size → ∀ frame, after.accepts frame = acceptedBy requested frame) ∧
      ∀ frame, acceptedBy requested frame = true → after.accepts frame = true

/-- If an adapter is configured with as many filters as its bank has slots, the texts of filters are installed. -/
theorem installed_of_configure {σ : Type} {configure : List Filter → σ × Option Fault} {state : σ} (bank : σ → Bank)
    (hslots : 1 ≤ (bank state).size)
    (hconfigure : ∀ planned after, (bank state).reconfigure planned = .ok after →
      (configure planned).2 = none ∧ bank (configure planned).1 = after) (texts : List String) :
    Installed (bank state) texts (bank (install (bank state).size configure state texts).1)
      (install (bank state).size configure state texts).2 where
  refused := by
    rintro ⟨text, hmem, met, hmet⟩
    cases hfilters : filters texts with
    | ok requested =>
      obtain ⟨f, -, hf⟩ := (filters_eq_ok_iff.1 hfilters).read hmem
      rw [hmet] at hf
      cases hf
    | error first =>
      obtain ⟨other, hother, hfirst⟩ := filters_eq_error hfilters
      rw [install, plannedFilters, hfilters]
      exact ⟨rfl, other, hother, first, hfirst, rfl⟩
  done := by
    intro requested (hspell : Spell texts requested)
    have hlength : (shrink (wanted requested) (bank state).size).length ≤ (bank state).size := by
      rw [length_shrink _ hslots]
      exact Nat.min_le_right ..
    have hafter := hconfigure (shrink (wanted requested) (bank state).size) _ (if_pos hlength)
    rw [install, plannedFilters_of_spell hspell hslots]
    dsimp only
    rw [hafter.1, hafter.2]
    refine ⟨rfl, _, hlength, rfl, fun frame => Bank.accepts_padded _ _ frame, fun f hf => ?_, fun hnil frame => ?_,
      fun hne hfits frame => ?_, fun frame hframe => ?_⟩
    · exact Filter.make_eq_ok_iff.2 ⟨rfl, inWidth_of_planned hspell _ f hf⟩
    · obtain rfl : requested = [] := List.length_eq_zero_iff.1 (by rw [hspell.length_eq, hnil]; rfl)
      rw [Bank.accepts_padded]
      exact acceptedBy_planned _ (by simp [wanted, acceptedBy])
    · have hsome : requested ≠ [] := by
        rintro rfl
        exact hne (List.length_eq_zero_iff.1 hspell.length_eq.symm)
      rw [Bank.accepts_padded, wanted_of_ne_nil hsome, Reduction.shrink_of_length_le (hspell.length_eq ▸ hfits)]
    · rw [Bank.accepts_padded]
      exact acceptedBy_planned _ (acceptedBy_wanted hframe)

/-! ## Kinds of adapters -/

namespace Medium

/-- The filter bank of the adapter. -/
def bank : Medium → Bank
  | .station net n => ((net.station? n).map (·.receiver.bank)).getD (.ofSize 0)
  | .serial _ adapter => adapter.receiver.bank

/-- There is an adapter, and it is started. -/
def Started : Medium → Prop
  | .station net n => ∃ station, net.station? n = some station ∧ station.phase = .started
  | .serial _ adapter => adapter.phase = .started

/-- The medium after the reaction to a configuration, and the fault if that was refused. -/
def reconfigure (medium : Medium) (filters : List Filter) : Medium × Option Fault :=
  match medium with
  | .station net n =>
    (.station (net.apply (.configure n filters)).net n, (net.apply (.configure n filters)).answer.fault?)
  | .serial device adapter =>
    (.serial device (adapter.respond (.configure filters)).adapter, (adapter.respond (.configure filters)).reply.fault?)

theorem size_bank (medium : Medium) : medium.bank.size = medium.slots := by
  cases medium with
  | serial device adapter => rfl
  | station net n =>
    rw [bank, slots]
    cases net.station? n <;> rfl

theorem configure_eq (medium : Medium) (filters : List Filter) :
    medium.configure filters = (medium.reconfigure filters).2.elim (.ok (medium.reconfigure filters).1) .error := by
  cases medium with
  | station net n =>
    rw [configure, reconfigure, ofReaction]
    cases (net.apply (.configure n filters)).answer <;> rfl
  | serial device adapter =>
    rw [configure, reconfigure, Slcan.Adapter.respond]
    rcases adapter.configure filters with ⟨adapter', _ | fault⟩ <;> rfl

/-- A started adapter takes as many filters as its bank has slots. -/
theorem Started.reconfigure {medium : Medium} (h : medium.Started) {filters : List Filter} {after : Bank}
    (hbank : medium.bank.reconfigure filters = .ok after) :
    (medium.reconfigure filters).2 = none ∧ (medium.reconfigure filters).1.bank = after := by
  cases medium with
  | station net n =>
    obtain ⟨station, hstation, hphase⟩ := h
    have hreceiver : station.receiver.reconfigure filters = .ok { station.receiver with bank := after } := by
      rw [bank, hstation] at hbank
      exact Receiver.reconfigure_eq_ok_iff.2 ⟨after, hbank, rfl⟩
    have happly : net.apply (.configure n filters) =
        (net.put n { station with receiver := { station.receiver with bank := after } }).quiet .done := by
      rw [Network.apply, Network.withStation, hstation]
      simp only [Network.configure, Phase.requireStarted_eq_ok_iff.2 hphase, hreceiver]
    rw [Medium.reconfigure, happly]
    refine ⟨rfl, ?_⟩
    show (((net.put n _).station? n).map (·.receiver.bank)).getD _ = after
    rw [Network.station?_put_self (Network.lt_of_station? hstation)]
    rfl
  | serial device adapter =>
    have hconfigure := Slcan.Adapter.configure_of_ok h (Receiver.reconfigure_eq_ok_iff.2 ⟨after, hbank, rfl⟩)
    rw [Medium.reconfigure, Slcan.Adapter.respond, hconfigure]
    exact ⟨rfl, rfl⟩

/-- Install the filters that texts spell: the medium afterwards, and the refusal if there is one. -/
def install (medium : Medium) (texts : List String) : Medium × Option Refusal :=
  Console.install medium.slots medium.reconfigure medium texts

theorem configureSpelled_eq (medium : Medium) (texts : List String) :
    medium.configureSpelled texts = (medium.install texts).2.elim (.ok (medium.install texts).1) .error := by
  rw [configureSpelled, install, Console.install]
  cases plannedFilters medium.slots texts with
  | error refusal => rfl
  | ok planned =>
    dsimp only
    rw [configure_eq]
    cases (medium.reconfigure planned).2 <;> rfl

end Medium

/-- The same for an adapter on a kernel socket. -/
def installSocket (adapter : SocketCan.Adapter) (texts : List String) : SocketCan.Adapter × Option Refusal :=
  install adapter.receiver.bank.size
    (fun filters =>
      ((adapter.respond (.configure filters)).adapter, (adapter.respond (.configure filters)).reply.fault?))
    adapter texts

/-- **Filters from their texts to the bank.**  A started adapter of any kind, with a slot at least, installs the filters
that texts spell, whatever its bank held before. -/
theorem install_installed (texts : List String) :
    (∀ medium : Medium, medium.Started → 1 ≤ medium.slots →
      Installed medium.bank texts (medium.install texts).1.bank (medium.install texts).2 ∧
      medium.configureSpelled texts = (medium.install texts).2.elim (.ok (medium.install texts).1) .error) ∧
    ∀ adapter : SocketCan.Adapter, adapter.phase = .started → 1 ≤ adapter.receiver.bank.size →
      Installed adapter.receiver.bank texts (installSocket adapter texts).1.receiver.bank
        (installSocket adapter texts).2 := by
  refine ⟨fun medium hstarted hslots => ⟨?_, medium.configureSpelled_eq texts⟩, fun adapter hstarted hslots => ?_⟩
  · rw [← medium.size_bank] at hslots
    rw [Medium.install, ← medium.size_bank]
    exact installed_of_configure Medium.bank hslots (fun _ _ hbank => hstarted.reconfigure hbank) texts
  · refine installed_of_configure (fun adapter : SocketCan.Adapter => adapter.receiver.bank) hslots
      (fun planned after hbank => ?_) texts
    have hconfigure := SocketCan.Adapter.configure_of_ok hstarted (Receiver.reconfigure_eq_ok_iff.2 ⟨after, hbank, rfl⟩)
    rw [SocketCan.Adapter.respond, hconfigure]
    exact ⟨rfl, rfl⟩

/-- A started station with one slot, which takes every frame. -/
def Medium.narrow : Medium :=
  .station (Network.empty.after [.addBus, .join 0 8 1, .start 0 false [], .configure 0 [.promiscuous none]]) 0

theorem install_installed_narrow :
    (Medium.narrow.install ["1ff/7ff:base", "100/200/300"]).1.bank = ⟨[.promiscuous none]⟩ ∧
      (Medium.narrow.install ["0x100/7FF:base", "101/7ff:base"]).2 = none ∧
      ∀ frame, (Filter.mk 0x101 0x7FF (some .base)).accepts frame = true →
        (Medium.narrow.install ["0x100/7FF:base", "101/7ff:base"]).1.bank.accepts frame = true := by
  have hstarted : Medium.narrow.Started :=
    ⟨⟨0, 8, .started, true, none, ⟨⟨[.promiscuous none]⟩, .fresh (some ⟨0, []⟩), []⟩⟩, by decide, rfl⟩
  have hinstalled := fun texts => ((install_installed texts).1 Medium.narrow hstarted (by decide)).1
  have hunread : filter "100/200/300" = .error (.badFilterMask "100/200/300") := rfl
  obtain ⟨hnone, planned, -, -, -, -, -, -, htaken⟩ := (hinstalled ["0x100/7FF:base", "101/7ff:base"]).done
    [⟨0x100, 0x7FF, some .base⟩, ⟨0x101, 0x7FF, some .base⟩] rfl
  refine ⟨?_, hnone, fun frame hframe => htaken frame (List.any_eq_true.2 ⟨_, by simp, hframe⟩)⟩
  exact ((hinstalled ["1ff/7ff:base", "100/200/300"]).refused ⟨_, by simp, _, hunread⟩).1.trans (by decide)

end CanBus.Console
