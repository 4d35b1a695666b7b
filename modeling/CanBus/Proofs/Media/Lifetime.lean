import CanBus.Proofs.Network.Delivery
import CanBus.Proofs.Network.Effect
import CanBus.Proofs.Slcan.Effect
import CanBus.Proofs.Slcan.Output

/-!
# Lifetimes — an adapter is started once and closed once

A run is told from the side of one adapter as a list of `Turn`s.  `Allows` says what an adapter answers in which
phase; if every turn of a run keeps to it (`Lives`), the whole run is `Orderly`.  Stations of a virtual network and
SLCAN adapters keep to it turn by turn, whatever others on the bus or the far side of the line do (`lifetimes_orderly`).
-/

namespace CanBus

/-- What is asked of an adapter. -/
inductive Ask where
  | start
  | configure
  | inject
  | send
  | close
  deriving DecidableEq, Repr

/-- What only a started adapter does. -/
def Ask.isUse : Ask → Bool
  | .start | .close => false
  | .configure | .inject | .send => true

/-- One step of a run for one adapter: what was asked of it, if anything, with the fault if that was refused, the
calls of its handler, and what had been written to its line before and after. -/
structure Turn where
  asked : Option (Ask × Option Fault)
  calls : List Delivery
  line : List UInt8
  line' : List UInt8

namespace Turn

/-- A start that succeeded. -/
def opens (turn : Turn) : Bool := turn.asked = some (.start, none)

/-- A close that succeeded. -/
def shuts (turn : Turn) : Bool := turn.asked = some (.close, none)

end Turn

/-- After these turns the adapter is between its start and its close. -/
def Open (past : List Turn) : Prop := past.any (·.opens) = true ∧ past.any (·.shuts) = false

/-- At most one start and one close succeed.  What only a started adapter does is refused as closed exactly outside
the time between them, and no handler is called then.  After the close everything is refused as closed, and nothing is
written. -/
structure Orderly (turns : List Turn) : Prop where
  opens_once : turns.countP (·.opens) ≤ 1
  shuts_once : turns.countP (·.shuts) ≤ 1
  use_iff : ∀ {past turn later}, turns = past ++ turn :: later → ∀ {ask fault}, turn.asked = some (ask, fault) →
    ask.isUse = true → (fault = some .closed ↔ ¬ Open past)
  called : ∀ {past turn later}, turns = past ++ turn :: later → turn.calls ≠ [] → Open past
  spent : ∀ {past turn later}, turns = past ++ turn :: later → past.any (·.shuts) = true →
    (∀ {ask fault}, turn.asked = some (ask, fault) → fault = some .closed) ∧ turn.line' = turn.line

/-! ## Turn by turn -/

/-- What an adapter in some phase answers. -/
inductive Allows : Phase → Ask → Option Fault → Prop where
  | start (fault : Option Fault) : Allows .created .start fault
  | startLate {phase : Phase} (hphase : phase ≠ .created) : Allows phase .start (some .closed)
  | use {ask : Ask} {fault : Option Fault} (hask : ask.isUse = true) (hfault : fault ≠ some .closed) :
      Allows .started ask fault
  | useAmiss {phase : Phase} {ask : Ask} (hask : ask.isUse = true) (hphase : phase ≠ .started) :
      Allows phase ask (some .closed)
  | close {phase : Phase} (hphase : phase ≠ .closed) : Allows phase .close none
  | closeLate : Allows .closed .close (some .closed)

namespace Turn

/-- The turn is one of an adapter in this phase. -/
structure Proper (turn : Turn) (phase : Phase) : Prop where
  allowed : ∀ {ask fault}, turn.asked = some (ask, fault) → Allows phase ask fault
  called : turn.calls ≠ [] → phase = .started
  silent : phase = .closed → turn.line' = turn.line

/-- The phase that the turn leaves an adapter in. -/
def next (turn : Turn) (phase : Phase) : Phase :=
  match turn.asked with
  | some (.start, none) => .started
  | some (.close, none) => .closed
  | _ => phase

variable {turn : Turn} {phase : Phase}

theorem next_of_opens (h : turn.opens = true) : turn.next phase = .started := by
  rw [next, of_decide_eq_true h]

theorem next_of_shuts (h : turn.shuts = true) : turn.next phase = .closed := by
  rw [next, of_decide_eq_true h]

theorem next_of_neither (hopens : turn.opens = false) (hshuts : turn.shuts = false) : turn.next phase = phase := by
  unfold next
  split
  · rename_i hasked
    exact absurd hasked (of_decide_eq_false hopens)
  · rename_i hasked
    exact absurd hasked (of_decide_eq_false hshuts)
  · rfl

theorem shuts_of_opens (h : turn.opens = true) : turn.shuts = false := by
  rw [shuts, of_decide_eq_true h]
  rfl

theorem Proper.created_of_opens (h : turn.Proper phase) (hopens : turn.opens = true) : phase = .created := by
  cases h.allowed (of_decide_eq_true hopens) with
  | start => rfl
  | use hask => cases hask

theorem Proper.ne_closed_of_shuts (h : turn.Proper phase) (hshuts : turn.shuts = true) : phase ≠ .closed := by
  cases h.allowed (of_decide_eq_true hshuts) with
  | use hask => cases hask
  | close hphase => exact hphase

/-- What a turn does to the phase. -/
theorem Proper.next_iff (h : turn.Proper phase) :
    (turn.next phase = .closed ↔ phase = .closed ∨ turn.shuts = true) ∧
      (turn.next phase = .started ↔ (phase = .started ∨ turn.opens = true) ∧ phase ≠ .closed ∧ turn.shuts = false) := by
  cases hopens : turn.opens with
  | true =>
    rw [next_of_opens hopens, shuts_of_opens hopens, h.created_of_opens hopens]
    decide
  | false =>
    cases hshuts : turn.shuts with
    | true =>
      rw [next_of_shuts hshuts]
      simp
    | false =>
      rw [next_of_neither hopens hshuts]
      cases phase <;> decide

end Turn

/-- Every turn is one of an adapter in the phase that the turns before it have left it in. -/
def Lives : Phase → List Turn → Prop
  | _, [] => True
  | phase, turn :: turns => turn.Proper phase ∧ Lives (turn.next phase) turns

/-- The phase in which a turn finds the adapter, by what succeeded before it. -/
theorem Lives.split {phase : Phase} {past later : List Turn} {turn : Turn} (h : Lives phase (past ++ turn :: later)) :
    ∃ now, turn.Proper now ∧ (now = .closed ↔ phase = .closed ∨ past.any (·.shuts) = true) ∧
      (now = .started ↔
        (phase = .started ∨ past.any (·.opens) = true) ∧ phase ≠ .closed ∧ past.any (·.shuts) = false) := by
  -- what the first turn does to the phase goes into the hypothesis on the others
  induction past generalizing phase with
  | nil => exact ⟨phase, h.1, by simp, by cases phase <;> simp⟩
  | cons first past ih =>
    obtain ⟨hfirst, hrest⟩ := h
    obtain ⟨now, hproper, hclosed, hstarted⟩ := ih hrest
    obtain ⟨hnext, hnext'⟩ := hfirst.next_iff
    refine ⟨now, hproper, ?_, ?_⟩
    · rw [hclosed, hnext, List.any_cons, Bool.or_eq_true, or_assoc]
    · simp only [hstarted, hnext', hnext, ne_eq, List.any_cons, Bool.or_eq_true, Bool.or_eq_false_iff, not_or,
        Bool.not_eq_true]
      constructor
      · rintro ⟨hopen, ⟨hphase, hshut⟩, hnone⟩
        refine ⟨?_, hphase, hshut, hnone⟩
        rcases hopen with ⟨hopen, -⟩ | hopen
        · exact or_assoc.1 (.inl hopen)
        · exact .inr (.inr hopen)
      · rintro ⟨hopen, hphase, hshut, hnone⟩
        refine ⟨?_, ⟨hphase, hshut⟩, hnone⟩
        rcases or_assoc.2 hopen with hopen | hopen
        · exact .inl ⟨hopen, hphase, hshut⟩
        · exact .inr hopen

theorem Lives.opens_once {phase : Phase} {turns : List Turn} (h : Lives phase turns) :
    turns.countP (·.opens) ≤ if phase = .created then 1 else 0 := by
  induction turns generalizing phase with
  | nil => exact Nat.zero_le _
  | cons turn turns ih =>
    obtain ⟨hturn, hlater⟩ := h
    have hrest := ih hlater
    rw [List.countP_cons]
    cases hopens : turn.opens with
    | true =>
      rw [Turn.next_of_opens hopens, if_neg nofun] at hrest
      rw [hturn.created_of_opens hopens]
      simpa using hrest
    | false =>
      cases hshuts : turn.shuts with
      | true =>
        rw [Turn.next_of_shuts hshuts, if_neg nofun] at hrest
        simp [Nat.le_zero.1 hrest]
      | false =>
        rw [Turn.next_of_neither hopens hshuts] at hrest
        simpa using hrest

theorem Lives.shuts_once {phase : Phase} {turns : List Turn} (h : Lives phase turns) :
    turns.countP (·.shuts) ≤ if phase = .closed then 0 else 1 := by
  induction turns generalizing phase with
  | nil => exact Nat.zero_le _
  | cons turn turns ih =>
    obtain ⟨hturn, hlater⟩ := h
    have hrest := ih hlater
    rw [List.countP_cons]
    cases hshuts : turn.shuts with
    | true =>
      rw [Turn.next_of_shuts hshuts, if_pos rfl] at hrest
      rw [if_neg (hturn.ne_closed_of_shuts hshuts)]
      simpa using hrest
    | false =>
      have hnext := hturn.next_iff.1
      rw [hshuts] at hnext
      simpa [hnext] using hrest

/-- **A run that keeps to the phases turn by turn is orderly.** -/
theorem Lives.orderly {turns : List Turn} (h : Lives .created turns) : Orderly turns where
  opens_once := h.opens_once
  shuts_once := h.shuts_once
  use_iff {past turn later} hturns {ask fault} hasked hask := by
    subst hturns
    obtain ⟨now, hproper, -, hstarted⟩ := h.split
    have hopen : Open past ↔ now = .started := by simp [hstarted, Open]
    rw [hopen]
    cases hproper.allowed hasked with
    | start => cases hask
    | startLate => cases hask
    | use hask hfault => exact iff_of_false hfault (not_not_intro rfl)
    | useAmiss hask hphase => exact iff_of_true rfl hphase
    | close => cases hask
    | closeLate => cases hask
  called {past turn later} hturns hcalls := by
    subst hturns
    obtain ⟨now, hproper, -, hstarted⟩ := h.split
    simpa [Open] using hstarted.1 (hproper.called hcalls)
  spent {past turn later} hturns hshuts := by
    subst hturns
    obtain ⟨now, hproper, hclosed, -⟩ := h.split
    obtain rfl := hclosed.2 (.inr hshuts)
    refine ⟨fun hasked => ?_, hproper.silent rfl⟩
    cases hproper.allowed hasked with
    | startLate => rfl
    | useAmiss => rfl
    | close hphase => exact absurd rfl hphase
    | closeLate => rfl

/-! ## Stations -/

namespace Network

/-- The station that something is asked of, and what that is. -/
def Operation.ask? : Operation → Option (Nat × Ask)
  | .start n _ _ => some (n, .start)
  | .configure n _ => some (n, .configure)
  | .inject n _ => some (n, .inject)
  | .send n _ => some (n, .send)
  | .close n => some (n, .close)
  | .addBus | .join _ _ _ | .arm _ _ | .drop _ | .pop _ => none

/-- The reaction to an operation as a turn of the station of number `n`, which has no line. -/
def Reaction.turn (reaction : Reaction) (op : Operation) (n : Nat) : Turn where
  asked :=
    match op.ask? with
    | none => none
    | some (p, ask) => if p = n ∧ reaction.answer ≠ .absent then some (ask, reaction.answer.fault?) else none
  calls := deliveriesTo n reaction.calls
  line := []
  line' := []

theorem Reaction.asked_turn_iff {reaction : Reaction} {op : Operation} {n : Nat} {ask : Ask} {fault : Option Fault} :
    (reaction.turn op n).asked = some (ask, fault) ↔
      op.ask? = some (n, ask) ∧ reaction.answer ≠ .absent ∧ reaction.answer.fault? = fault := by
  unfold turn
  cases hask : op.ask? with
  | none => simp
  | some asked =>
    obtain ⟨p, other⟩ := asked
    by_cases hthere : p = n ∧ reaction.answer ≠ .absent
    · simp [hthere]
    · simp only [if_neg hthere, Option.some.injEq, Prod.mk.injEq]
      exact iff_of_false nofun fun h => hthere ⟨h.1.1, h.2.1⟩

/-- Only a start or a close that succeeds leads to another phase. -/
theorem Reaction.next_turn {reaction : Reaction} {op : Operation} {n : Nat}
    (h : reaction.answer ≠ .absent → reaction.answer.fault? = none →
      op.ask? ≠ some (n, .start) ∧ op.ask? ≠ some (n, .close)) (phase : Phase) :
    (reaction.turn op n).next phase = phase := by
  refine Turn.next_of_neither (decide_eq_false fun hopens => ?_) (decide_eq_false fun hshuts => ?_)
  · obtain ⟨hask, hthere, hfault⟩ := asked_turn_iff.1 hopens
    exact (h hthere hfault).1 hask
  · obtain ⟨hask, hthere, hfault⟩ := asked_turn_iff.1 hshuts
    exact (h hthere hfault).2 hask

theorem Reaction.next_start {reaction : Reaction} {op : Operation} {n : Nat} {phase : Phase}
    (hask : op.ask? = some (n, .start)) (hdone : reaction.answer = .done) :
    (reaction.turn op n).next phase = .started :=
  Turn.next_of_opens (decide_eq_true (asked_turn_iff.2 ⟨hask, hdone ▸ nofun, hdone ▸ rfl⟩))

theorem Reaction.next_close {reaction : Reaction} {op : Operation} {n : Nat} {phase : Phase}
    (hask : op.ask? = some (n, .close)) (hdone : reaction.answer = .done) :
    (reaction.turn op n).next phase = .closed :=
  Turn.next_of_shuts (decide_eq_true (asked_turn_iff.2 ⟨hask, hdone ▸ nofun, hdone ▸ rfl⟩))

/-- A run as the turns of one station. -/
def turns (net : Network) (n : Nat) : List Operation → List Turn
  | [] => []
  | op :: ops => (net.apply op).turn op n :: (net.apply op).net.turns n ops

/-- The station of number `n` is in this phase, if it is there, and it is not to fail as if it were closed. -/
structure Stands (net : Network) (n : Nat) (phase : Phase) : Prop where
  phase_eq : ∀ {station}, net.station? n = some station → station.phase = phase
  fault_ne : ∀ {station}, net.station? n = some station → station.fault ≠ some .closed
  unmade : net.stations.length ≤ n → phase = .created

variable {net : Network} {n : Nat} {phase : Phase}

theorem Stands.clean (h : Stands net n phase) {p : Nat} {station : Station} (hp : net.station? p = some station)
    (hself : p = n) : station.fault ≠ some .closed := h.fault_ne (hself ▸ hp)

/-- A handler is called only of a station that is started. -/
theorem Effect.called (hnet : net.Sound) {op : Operation} {reaction : Reaction} (heffect : Effect net op reaction)
    {call : Call} (h : call ∈ reaction.calls) :
    ∃ station, net.station? call.station = some station ∧ station.phase = .started := by
  have hdeliver : ∀ {offers value}, call ∈ (net.delivering offers value).calls →
      ∃ station, net.station? call.station = some station ∧ station.phase = .started := by
    intro offers value hcall
    have hmem : call ∈ (net.deliver offers).2.1 := hcall
    obtain ⟨-, station, hstation, hhandler⟩ := mem_deliver hmem
    exact ⟨station, hstation, (hnet.handler_iff hstation).1 hhandler⟩
  cases heffect with
  | inject => exact hdeliver h
  | send => exact hdeliver h
  | _ => cases h

theorem Stands.called (h : Stands net n phase) (hnet : net.Sound) {op : Operation} {reaction : Reaction}
    (heffect : Effect net op reaction) (hcalls : deliveriesTo n reaction.calls ≠ []) : phase = .started := by
  obtain ⟨delivery, hdelivery⟩ := List.exists_mem_of_ne_nil _ hcalls
  obtain ⟨call, hcall, -⟩ := List.mem_map.1 hdelivery
  obtain ⟨hcall, hself⟩ := List.mem_filter.1 hcall
  obtain ⟨station, hstation, hstarted⟩ := heffect.called hnet hcall
  rw [beq_iff_eq.1 hself] at hstation
  rw [← h.phase_eq hstation, hstarted]

theorem fault?_delivering {offers : List (Nat × List Frame)} {value : Answer} (hvalue : value.fault? = none) :
    (net.delivering offers value).answer.fault? = none := by
  rw [answer_delivering]
  by_cases hdone : (net.deliver offers).2.2 = true
  · rw [if_pos hdone, hvalue]
  · rw [if_neg hdone]
    rfl

/-- A station answers as its phase allows. -/
theorem Stands.allows (h : Stands net n phase) {op : Operation} {reaction : Reaction}
    (heffect : Effect net op reaction) {ask : Ask} (hask : op.ask? = some (n, ask))
    (hthere : reaction.answer ≠ .absent) : Allows phase ask reaction.answer.fault? := by
  cases heffect with
  | absent op => exact absurd rfl hthere
  | refused hdeclined =>
    cases hdeclined with
    | start hstation hphase noRetransmit failsAt =>
      cases hask
      exact .startLate (h.phase_eq hstation ▸ hphase)
    | configure hstation hphase filters =>
      cases hask
      exact .useAmiss rfl (h.phase_eq hstation ▸ hphase)
    | filters hstation hphase hreceiver =>
      cases hask
      obtain rfl := (h.phase_eq hstation).symm.trans hphase
      obtain rfl := Receiver.reconfigure_eq_error hreceiver
      exact .use rfl nofun
    | inject hstation hphase frames =>
      cases hask
      exact .useAmiss rfl (h.phase_eq hstation ▸ hphase)
    | send hstation hphase frames =>
      cases hask
      exact .useAmiss rfl (h.phase_eq hstation ▸ hphase)
    | batch hstation hphase hfault hcheck =>
      cases hask
      obtain rfl := (h.phase_eq hstation).symm.trans hphase
      obtain ⟨breach, rfl⟩ := Batch.check_eq_error hcheck
      exact .use rfl nofun
    | close hstation hphase =>
      cases hask
      obtain rfl := (h.phase_eq hstation).symm.trans hphase
      exact .closeLate
    | join => cases hask
    | pop => cases hask
  | start hstation hphase noRetransmit failsAt =>
    cases hask
    obtain rfl := (h.phase_eq hstation).symm.trans hphase
    exact .start none
  | configure hstation hphase hreceiver =>
    cases hask
    obtain rfl := (h.phase_eq hstation).symm.trans hphase
    exact .use rfl nofun
  | inject hstation hphase frames =>
    cases hask
    obtain rfl := (h.phase_eq hstation).symm.trans hphase
    rw [fault?_delivering rfl]
    exact .use rfl nofun
  | meetFault hstation hphase hfault frames =>
    cases hask
    obtain rfl := (h.phase_eq hstation).symm.trans hphase
    exact .use rfl fun heq => h.fault_ne hstation (hfault.trans heq)
  | send hstation hphase hfault hcheck =>
    cases hask
    obtain rfl := (h.phase_eq hstation).symm.trans hphase
    rw [fault?_delivering rfl]
    exact .use rfl nofun
  | close hstation hphase =>
    cases hask
    exact .close (h.phase_eq hstation ▸ hphase)
  | _ => cases hask

theorem Stands.of_same {net' : Network} (h : Stands net n phase)
    (hlength : net'.stations.length = net.stations.length) (hstation : net'.station? n = net.station? n) :
    Stands net' n phase where
  phase_eq hn := h.phase_eq (hstation ▸ hn)
  fault_ne hn := h.fault_ne (hstation ▸ hn)
  unmade hn := h.unmade (hlength ▸ hn)

/-- A station that is replaced stands in its own new phase, the others in the one they had. -/
theorem Stands.put (h : Stands net n phase) {p : Nat} {station station' : Station} {phase' : Phase}
    (hp : net.station? p = some station) (hself : p = n → station'.phase = phase' ∧ station'.fault ≠ some .closed)
    (hother : p ≠ n → phase' = phase) : Stands (net.put p station') n phase' := by
  by_cases hpn : p = n
  · subst hpn
    obtain ⟨hphase, hfault⟩ := hself rfl
    have hput := station?_put_self (lt_of_station? hp) station'
    refine ⟨fun hn => ?_, fun hn => ?_, fun hn => ?_⟩
    · rw [← Option.some.inj (hput.symm.trans hn), hphase]
    · rw [← Option.some.inj (hput.symm.trans hn)]
      exact hfault
    · rw [length_stations_put] at hn
      exact absurd (lt_of_station? hp) (Nat.not_lt.2 hn)
  · rw [hother hpn]
    exact h.of_same (length_stations_put net p station') (station?_put_of_ne (Ne.symm hpn) station')

/-- A station that is replaced by one of its phase. -/
theorem Stands.replace (h : Stands net n phase) {p : Nat} {station station' : Station}
    (hp : net.station? p = some station) (hphase : station'.phase = station.phase)
    (hfault : p = n → station'.fault ≠ some .closed) : Stands (net.put p station') n phase :=
  h.put hp (fun hself => ⟨hphase.trans (h.phase_eq (hself ▸ hp)), hfault hself⟩) fun _ => rfl

theorem Stands.leave (h : Stands net n phase) (bus p : Nat) : Stands (net.leave bus p) n phase := h.of_same rfl rfl

theorem Stands.discard (h : Stands net n phase) (p : Nat) : Stands (net.discard p) n phase := by
  by_cases hp : n = p
  · subst hp
    have hnone : (net.discard n).station? n = none := station?_discard_self net n
    refine ⟨fun hn => ?_, fun hn => ?_, fun hn => h.unmade (by simpa using hn)⟩
    · exact absurd (hnone.symm.trans hn) nofun
    · exact absurd (hnone.symm.trans hn) nofun
  · exact h.of_same (length_stations_discard net p) (station?_discard_of_ne hp)

/-- A station that is made stands as created. -/
theorem Stands.enrol (h : Stands net n phase) (bus mtu slots : Nat) : Stands (net.enrol bus mtu slots) n phase := by
  by_cases hn : n = net.stations.length
  · obtain rfl := h.unmade (Nat.le_of_eq hn.symm)
    have hfresh : (net.enrol bus mtu slots).station? n = some (.fresh bus mtu slots) := by
      rw [station?_enrol, if_pos hn]
    refine ⟨fun hstation => ?_, fun hstation => ?_, fun _ => rfl⟩
    · obtain rfl := Option.some.inj (hfresh.symm.trans hstation)
      rfl
    · obtain rfl := Option.some.inj (hfresh.symm.trans hstation)
      nofun
  · have hsame : (net.enrol bus mtu slots).station? n = net.station? n := by rw [station?_enrol, if_neg hn]
    refine ⟨fun hp => h.phase_eq (hsame ▸ hp), fun hp => h.fault_ne (hsame ▸ hp), fun hlen => h.unmade ?_⟩
    simp only [Network.enrol, List.length_append] at hlen
    omega

theorem Stands.deliver (h : Stands net n phase) (offers : List (Nat × List Frame)) :
    Stands (net.deliver offers).1 n phase := by
  have hstation := deliver_station? net offers n
  refine ⟨fun hn => ?_, fun hn => ?_, fun hn => h.unmade (deliver_length net offers ▸ hn)⟩
  · obtain ⟨old, hold, rfl⟩ := Option.map_eq_some_iff.1 (hstation.symm.trans hn)
    have hphase : old.phase = phase := h.phase_eq hold
    exact hphase
  · obtain ⟨old, hold, rfl⟩ := Option.map_eq_some_iff.1 (hstation.symm.trans hn)
    have hfault : old.fault ≠ some .closed := h.fault_ne hold
    exact hfault

/-- A turn in which neither a start nor a close succeeds. -/
theorem Stands.stay (h : Stands net n phase) {op : Operation} {reaction : Reaction}
    (hturn : reaction.answer ≠ .absent → reaction.answer.fault? = none →
      op.ask? ≠ some (n, .start) ∧ op.ask? ≠ some (n, .close)) :
    Stands net n ((reaction.turn op n).next phase) := by
  rw [Reaction.next_turn hturn]
  exact h

/-- **One operation** leaves a station in the phase that its turn leads to. -/
theorem Stands.effect (h : Stands net n phase) {op : Operation} {reaction : Reaction} (heffect : Effect net op reaction)
    (hclean : op ≠ .arm n .closed) : Stands reaction.net n ((reaction.turn op n).next phase) := by
  cases heffect with
  | absent op => exact h.stay fun hthere => absurd rfl hthere
  | refused hdeclined => exact h.stay fun _ hdone => nomatch hdone
  | addBus => exact h.of_same rfl rfl
  | join hbus hmtu hslots =>
    refine .stay ?_ fun _ _ => ⟨nofun, nofun⟩
    exact h.enrol _ _ _
  | @start p station hstation hphase noRetransmit failsAt =>
    have hfault := h.clean hstation
    refine h.put hstation (fun hself => ⟨?_, hfault hself⟩) fun hother => ?_
    · refine (Reaction.next_start ?_ rfl).symm
      rw [Operation.ask?, hself]
    · refine Reaction.next_turn (fun _ _ => ?_) phase
      simpa [Operation.ask?] using hother
  | @configure p station filters receiver hstation hphase hreceiver =>
    have hfault := h.clean hstation
    refine .stay ?_ fun _ _ => ⟨nofun, nofun⟩
    exact h.replace hstation rfl hfault
  | @inject p station hstation hphase frames =>
    refine .stay ?_ fun _ _ => ⟨nofun, nofun⟩
    exact h.deliver [(p, frames)]
  | meetFault hstation hphase hfault frames =>
    refine .stay ?_ fun _ hdone => nomatch hdone
    exact h.replace hstation rfl fun _ => nofun
  | @send p station frames hstation hphase hfault hcheck =>
    refine .stay ?_ fun _ _ => ⟨nofun, nofun⟩
    exact h.deliver (net.broadcast p station.bus frames)
  | @arm p station hstation fault =>
    refine .stay ?_ fun _ _ => ⟨nofun, nofun⟩
    refine h.replace hstation rfl fun hself hclosed => hclean ?_
    rw [hself, Option.some.inj hclosed]
  | @close p station hstation hphase =>
    have hfault := h.clean hstation
    refine .leave ?_ _ _
    refine h.put hstation (fun hself => ⟨?_, hfault hself⟩) fun hother => ?_
    · refine (Reaction.next_close ?_ rfl).symm
      rw [Operation.ask?, hself]
    · refine Reaction.next_turn (fun _ _ => ?_) phase
      simpa [Operation.ask?] using hother
  | drop hstation =>
    refine .stay ?_ fun _ _ => ⟨nofun, nofun⟩
    exact h.discard _
  | @pop p station frame receiver hstation hpop =>
    have hfault := h.clean hstation
    refine .stay ?_ fun _ _ => ⟨nofun, nofun⟩
    exact h.replace hstation rfl hfault

/-- A run of a network is lived through by each station that is not told to fail as if it were closed. -/
theorem Stands.lives (hnet : net.Reachable) (h : Stands net n phase) {ops : List Operation}
    (hclean : .arm n .closed ∉ ops) : Lives phase (net.turns n ops) := by
  induction ops generalizing net phase with
  | nil => trivial
  | cons op ops ih =>
    obtain ⟨hop, hclean⟩ := List.ne_and_not_mem_of_not_mem_cons hclean
    have heffect := apply_effect net op
    have hnext := h.effect heffect (Ne.symm hop)
    refine ⟨⟨fun hasked => ?_, h.called hnet.sound heffect, fun _ => rfl⟩, ih ?_ hnext hclean⟩
    · obtain ⟨hask, hthere, rfl⟩ := Reaction.asked_turn_iff.1 hasked
      exact h.allows heffect hask hthere
    · obtain ⟨past, rfl⟩ := hnet
      exact ⟨past ++ [op], (after_append empty past [op]).symm⟩

end Network

/-! ## SLCAN adapters -/

/-- What a request asks. -/
def Request.ask : Request → Ask
  | .start _ _ => .start
  | .configure _ => .configure
  | .send _ _ => .send
  | .close => .close

namespace Slcan.Adapter

open SerialPort (Documented written)

variable {Port : Type} [SerialPort Port]

/-- One event of a session as a turn of its adapter. -/
def Passage.turn (passage : Passage Port) : Turn where
  asked :=
    match passage.event with
    | .request request => some (request.ask, passage.reaction.reply.fault?)
    | .arrive _ | .hangUp => none
  calls := passage.reaction.deliveries
  line := written passage.before.line
  line' := written passage.reaction.adapter.line

variable {adapter : Adapter Port}

/-- A batch that keeps the rules is not refused as if the adapter were closed, whatever the port does. -/
theorem course_ne_closed {port : Port} {receiver : Receiver} {frames : List Frame}
    (hcheck : Batch.check frames maxPayload = .ok ()) {inTime : Nat} {sending : Sending Port}
    (h : Course (wire Port).write port receiver inTime 0 frames sending) :
    (Reply.ofOutcome sending.outcome).fault? ≠ some .closed := by
  intro hclosed
  have hrefused := Reply.ofOutcome_eq_refused (Reply.fault?_eq_some_iff.1 hclosed)
  cases h with
  | done => cases hrefused
  | late => cases hrefused
  | failed => cases hrefused
  | @refused front back frame mid last fault hframes htime htakes hwrite =>
    cases hrefused
    have hfit : frame.payload.length ≤ maxPayload := (Batch.check_eq_ok_iff.1 hcheck).2.2.1 frame (by simp [hframes])
    cases isReported_write hfit hwrite

/-- An adapter answers a request as its phase allows. -/
theorem Effect.allows {request : Request} {reaction : Reaction Port} (h : Effect adapter (.request request) reaction) :
    Allows adapter.phase request.ask reaction.reply.fault? := by
  cases h with
  | declined hdeclined =>
    cases hdeclined with
    | start hphase noRetransmit failsAt => exact .startLate hphase
    | configure hphase filters => exact .useAmiss rfl hphase
    | filters hphase hreceiver =>
      obtain rfl := Receiver.reconfigure_eq_error hreceiver
      rw [hphase]
      exact .use rfl nofun
    | send hphase frames inTime => exact .useAmiss rfl hphase
    | batch hphase hcheck inTime =>
      obtain ⟨breach, rfl⟩ := Batch.check_eq_error hcheck
      rw [hphase]
      exact .use rfl nofun
    | close hphase =>
      rw [hphase]
      exact .closeLate
  | start hphase hopening noRetransmit failsAt =>
    rw [hphase]
    exact .start none
  | startFailed hphase hopening noRetransmit failsAt =>
    rw [hphase]
    exact .start _
  | configure hphase hreceiver =>
    rw [hphase]
    exact .use rfl nofun
  | send hphase hcheck hcourse =>
    rw [hphase]
    exact .use rfl (course_ne_closed hcheck hcourse)
  | close hphase => exact .close hphase

/-- **One event** is a turn of an adapter in its phase. -/
theorem Attended.proper [Documented Port] (h : adapter.Attended) {event : Event} {reaction : Reaction Port}
    (heffect : Effect adapter event reaction) : (Passage.turn ⟨adapter, event, reaction⟩).Proper adapter.phase := by
  refine ⟨fun hasked => ?_, fun hcalls => ?_, fun hclosed => ?_⟩
  · cases event with
    | request request =>
      cases hasked
      exact heffect.allows
    | arrive bytes => cases hasked
    | hangUp => cases hasked
  · cases heffect with
    | send hphase hcheck hcourse => exact hphase
    | arrive bytes =>
      -- whatever arrives, an adapter that is not started has no handler to call
      by_contra hphase
      have hnone : adapter.receiver.handler = none := Option.not_isSome_iff_eq_none.1 (hphase ∘ h.handler_iff.1)
      exact hcalls (receive_unattended hnone bytes)
    | _ => exact absurd rfl hcalls
  · cases heffect with
    | start hphase => exact absurd (hphase.symm.trans hclosed) nofun
    | startFailed hphase => exact absurd (hphase.symm.trans hclosed) nofun
    | send hphase => exact absurd (hphase.symm.trans hclosed) nofun
    | close hphase => exact absurd hclosed hphase
    | arrive bytes => exact congrArg written (adapter.receive_keeps bytes).1
    | hangUp => exact Documented.written_hangUp adapter.line
    | _ => rfl

theorem Effect.next_turn {event : Event} {reaction : Reaction Port} (h : Effect adapter event reaction) :
    (Passage.turn ⟨adapter, event, reaction⟩).next adapter.phase = reaction.adapter.phase := by
  cases h with
  | @declined request => cases request <;> rfl
  | @send frames hphase hcheck inTime sending hcourse => rfl
  | arrive bytes => exact (adapter.receive_keeps bytes).2.1.symm
  | _ => rfl

/-- A session is lived through, whatever arrives and whatever the port does. -/
theorem Attended.lives [Documented Port] (h : adapter.Attended) (events : List Event) :
    Lives adapter.phase ((adapter.session events).map (·.turn)) := by
  induction events generalizing adapter with
  | nil => trivial
  | cons event events ih =>
    have heffect := react_effect adapter event
    refine ⟨h.proper heffect, ?_⟩
    rw [heffect.next_turn]
    exact ih (h.effect heffect)

end Slcan.Adapter

/-- **Lifetimes.**  Every run of a virtual network is orderly for each of its stations, if the fault of being closed
is not armed at it, and every session of an SLCAN adapter is orderly, on every port that does what is documented. -/
theorem lifetimes_orderly :
    (∀ (ops : List Network.Operation) (n : Nat), .arm n .closed ∉ ops → Orderly (Network.empty.turns n ops)) ∧
    ∀ (Port : Type) [Slcan.SerialPort Port] [Slcan.SerialPort.Documented Port] (line : Except Fault Port)
      (bitrate : Bitrate) (slots : Nat) (adapter : Slcan.Adapter Port) (events : List Slcan.Event),
        Slcan.Adapter.connect line bitrate slots = .ok adapter → Orderly ((adapter.session events).map (·.turn)) := by
  constructor
  · intro ops n hclean
    have hstands : Network.Stands .empty n .created := by
      refine ⟨fun hstation => ?_, fun hstation => ?_, fun _ => rfl⟩ <;>
        simp [Network.station?, Network.empty] at hstation
    exact (hstands.lives ⟨[], rfl⟩ hclean).orderly
  · intro Port _ _ line bitrate slots adapter events hconnect
    obtain ⟨hattended, hcreated⟩ := Slcan.Adapter.attended_of_connect hconnect
    exact (hcreated ▸ hattended.lives events).orderly

/-- Station 0 is used before, between and after its start and its close, and 1 sends to it throughout. -/
def Network.usedUp : List Operation :=
  [.addBus, .join 0 64 1, .join 0 64 1, .start 1 false [], .send 0 mixedBatch, .start 0 false [2],
    .configure 0 [.promiscuous none], .start 0 true [], .send 1 mixedBatch, .inject 0 mixedBatch, .send 0 mixedBatch,
    .send 0 [], .close 0, .send 1 mixedBatch, .inject 0 mixedBatch, .start 0 false [], .close 0, .drop 0, .close 0]

/-- A session in which a frame arrives before the filters are set, after it and after the close. -/
def Slcan.Adapter.usedUp : List Event :=
  let line := ascii ['t', '7', 'F', 'F', '1', 'A', 'A'] ++ [carriageReturn]
  [.request (.configure []), .request (.start false []), .arrive line, .request (.configure [.promiscuous none]),
    .arrive line, .request .close, .arrive line, .request (.start false []), .request .close]

theorem lifetimes_orderly_usedUp :
    let turns := Network.empty.turns 0 Network.usedUp
    .arm 0 .closed ∉ Network.usedUp ∧
      turns.filterMap (·.asked) =
        [(.send, some .closed), (.start, none), (.configure, none), (.start, some .closed), (.inject, none),
          (.send, none), (.send, some (.contract .emptyBatch)), (.close, none), (.inject, some .closed),
          (.start, some .closed), (.close, some .closed)] ∧
      (turns.flatMap (·.calls)).map (·.completed) = [true, false, true] ∧ Orderly turns ∧
      ((Slcan.Adapter.newcomer.session Slcan.Adapter.usedUp).map (·.turn)).map (·.calls.length) =
        [0, 0, 0, 0, 1, 0, 0, 0, 0] ∧
      Orderly ((Slcan.Adapter.newcomer.session Slcan.Adapter.usedUp).map (·.turn)) := by
  obtain ⟨hstations, hadapters⟩ := lifetimes_orderly
  have hclean : .arm 0 .closed ∉ Network.usedUp := by decide
  have hconnect : Slcan.Adapter.connect (.ok Slcan.SerialLine.fresh) .kbit500 1 = .ok .newcomer := by decide
  exact ⟨hclean, by decide, by decide, hstations _ 0 hclean, by decide +kernel, hadapters _ _ _ _ _ _ hconnect⟩

end CanBus
