import CanBus.Acceptance.Bank
import CanBus.Guarded

/-!
# Receivers — the filter bank, the handler behind it and what the handler has collected

A receiver hands the frames that its bank accepts to the handler in one call, never with an empty batch.  The handler
stands behind a lock, which is held during the call.  A handler fails at the calls it was told to fail at; a failed call
collects nothing and poisons the lock.
-/

namespace CanBus

/-- A registered handler: how often it was called, and the numbers (from one) of the calls at which it fails. -/
structure Handler where
  calls : Nat
  failsAt : List Nat
  deriving DecidableEq, Repr

/-- One call of a handler with its batch, and whether the call came to its end. -/
structure Delivery where
  batch : List Frame
  completed : Bool
  deriving DecidableEq

/-- The result of an operation during which handlers may be called: a value, a refusal, or the failure of a
handler. -/
inductive Outcome (α : Type) where
  | done (value : α)
  | refused (fault : Fault)
  | handlerFailed
  deriving DecidableEq

/-- The receiving side of an adapter; `slot` holds its handler, if there is one. -/
structure Receiver where
  bank : Bank
  slot : Guarded (Option Handler)
  collected : List Frame
  deriving DecidableEq

namespace Receiver

/-- A receiver with dead filters and no handler. -/
def ofSize (slots : Nat) : Receiver := ⟨.ofSize slots, .fresh none, []⟩

/-- The handler, whatever became of those who held the lock before. -/
def handler (receiver : Receiver) : Option Handler := receiver.slot.lock

/-- Register a handler that fails at the given calls. -/
def register (receiver : Receiver) (failsAt : List Nat) : Receiver :=
  { receiver with slot := receiver.slot.set (some ⟨0, failsAt⟩) }

/-- Forget the handler; what it has collected stays. -/
def unregister (receiver : Receiver) : Receiver := { receiver with slot := receiver.slot.set none }

@[simp] theorem handler_ofSize (slots : Nat) : (ofSize slots).handler = none := rfl

@[simp] theorem handler_register (receiver : Receiver) (failsAt : List Nat) :
    (receiver.register failsAt).handler = some ⟨0, failsAt⟩ := Guarded.lock_set _ _

@[simp] theorem handler_unregister (receiver : Receiver) : receiver.unregister.handler = none := Guarded.lock_set _ _

/-- Replace the filters of the bank. -/
def reconfigure (receiver : Receiver) (filters : List Filter) : Except Fault Receiver :=
  (receiver.bank.reconfigure filters).map fun bank => { receiver with bank := bank }

theorem reconfigure_eq_ok_iff {receiver receiver' : Receiver} {filters : List Filter} :
    receiver.reconfigure filters = .ok receiver' ↔
      ∃ bank, receiver.bank.reconfigure filters = .ok bank ∧ receiver' = { receiver with bank := bank } := by
  unfold reconfigure
  cases receiver.bank.reconfigure filters with
  | error fault => exact ⟨nofun, nofun⟩
  | ok bank =>
    constructor
    · intro h
      cases h
      exact ⟨bank, rfl, rfl⟩
    · rintro ⟨_, hbank, rfl⟩
      cases hbank
      rfl

theorem handler_of_reconfigure {receiver receiver' : Receiver} {filters : List Filter}
    (h : receiver.reconfigure filters = .ok receiver') : receiver'.handler = receiver.handler := by
  obtain ⟨bank, -, rfl⟩ := reconfigure_eq_ok_iff.1 h
  rfl

theorem size_of_reconfigure {receiver receiver' : Receiver} {filters : List Filter}
    (h : receiver.reconfigure filters = .ok receiver') : receiver'.bank.size = receiver.bank.size := by
  obtain ⟨bank, hbank, rfl⟩ := reconfigure_eq_ok_iff.1 h
  exact Bank.size_of_reconfigure hbank

theorem reconfigure_eq_error {receiver : Receiver} {filters : List Filter} {fault : Fault}
    (h : receiver.reconfigure filters = .error fault) : fault = .contract .moreFiltersThanSlots := by
  unfold reconfigure at h
  cases hbank : receiver.bank.reconfigure filters with
  | ok bank =>
    rw [hbank] at h
    cases h
  | error met =>
    rw [hbank] at h
    cases h
    exact Bank.reconfigure_eq_error hbank

/-- Offer frames: those the bank accepts go to the handler, if there is one, in one call. -/
def offer (receiver : Receiver) (frames : List Frame) : Receiver × Option Delivery :=
  let batch := frames.filter receiver.bank.accepts
  match batch, receiver.handler with
  | [], _ => (receiver, none)
  | _, none => (receiver, none)
  | _, some handler =>
    let slot := receiver.slot.set (some { handler with calls := handler.calls + 1 })
    if handler.calls + 1 ∈ handler.failsAt then ({ receiver with slot := slot.poison }, some ⟨batch, false⟩)
    else ({ receiver with slot := slot, collected := receiver.collected ++ batch }, some ⟨batch, true⟩)

/-- Without a frame that passes, or without a handler, an offer does nothing. -/
theorem offer_of_silent {receiver : Receiver} {frames : List Frame}
    (h : frames.filter receiver.bank.accepts = [] ∨ receiver.handler = none) :
    receiver.offer frames = (receiver, none) := by
  unfold offer
  rcases h with h | h
  · rw [h]
  · rw [h]
    cases frames.filter receiver.bank.accepts <;> rfl

/-! ## Calls -/

/-- The receiver after calls of its handler: the batches of completed calls are collected, and a call that failed has
poisoned the lock. -/
def afterCalls (receiver : Receiver) (deliveries : List Delivery) : Receiver :=
  { receiver with
    slot := ⟨receiver.handler.map fun handler => { handler with calls := handler.calls + deliveries.length },
      receiver.slot.poisoned || deliveries.any (!·.completed)⟩,
    collected := receiver.collected ++ (deliveries.filter (·.completed)).flatMap (·.batch) }

@[simp] theorem bank_afterCalls (receiver : Receiver) (ds : List Delivery) :
    (receiver.afterCalls ds).bank = receiver.bank := rfl

@[simp] theorem handler_afterCalls (receiver : Receiver) (ds : List Delivery) :
    (receiver.afterCalls ds).handler =
      receiver.handler.map fun handler => { handler with calls := handler.calls + ds.length } := Guarded.lock_eq _

@[simp] theorem afterCalls_nil (receiver : Receiver) : receiver.afterCalls [] = receiver := by
  cases receiver with
  | mk bank slot collected => simp [afterCalls, handler, Guarded.lock_eq]

theorem afterCalls_append (receiver : Receiver) (ds es : List Delivery) :
    receiver.afterCalls (ds ++ es) = (receiver.afterCalls ds).afterCalls es := by
  rw [afterCalls, afterCalls, handler_afterCalls]
  simp [afterCalls, Function.comp_def, Nat.add_assoc, Bool.or_assoc]

/-- Frames that pass are one call of the handler. -/
theorem offer_of_handler {receiver : Receiver} {frames : List Frame} {handler : Handler}
    (hbatch : frames.filter receiver.bank.accepts ≠ []) (hhandler : receiver.handler = some handler) :
    let delivery : Delivery :=
      ⟨frames.filter receiver.bank.accepts, decide (handler.calls + 1 ∉ handler.failsAt)⟩
    receiver.offer frames = (receiver.afterCalls [delivery], some delivery) := by
  intro delivery
  obtain ⟨first, rest, hfirst⟩ := List.exists_cons_of_ne_nil hbatch
  unfold delivery offer afterCalls
  rw [hhandler, hfirst]
  by_cases hfails : handler.calls + 1 ∈ handler.failsAt <;> simp [hfails, Guarded.set, Guarded.poison]

/-- An offer is one call of the handler or none. -/
theorem offer_fst (receiver : Receiver) (frames : List Frame) :
    (receiver.offer frames).1 = receiver.afterCalls (receiver.offer frames).2.toList := by
  by_cases h : frames.filter receiver.bank.accepts = [] ∨ receiver.handler = none
  · rw [offer_of_silent h]
    exact (afterCalls_nil receiver).symm
  · obtain ⟨hbatch, hhandler⟩ := not_or.1 h
    obtain ⟨handler, hhandler⟩ := Option.ne_none_iff_exists'.1 hhandler
    rw [offer_of_handler hbatch hhandler]
    rfl

theorem offer_handler_isSome (receiver : Receiver) (frames : List Frame) :
    (receiver.offer frames).1.handler.isSome = receiver.handler.isSome := by
  rw [offer_fst, handler_afterCalls, Option.isSome_map]

/-- A handler is registered, and it never fails. -/
def Reliable (receiver : Receiver) : Prop := ∃ calls, receiver.handler = some ⟨calls, []⟩

theorem reliable_register (receiver : Receiver) : (receiver.register []).Reliable := ⟨0, receiver.handler_register []⟩

theorem Reliable.afterCalls {receiver : Receiver} (h : receiver.Reliable) (ds : List Delivery) :
    (receiver.afterCalls ds).Reliable := by
  obtain ⟨calls, hhandler⟩ := h
  exact ⟨calls + ds.length, by rw [handler_afterCalls, hhandler]; rfl⟩

theorem Reliable.reconfigure {receiver receiver' : Receiver} {filters : List Filter} (h : receiver.Reliable)
    (hreceiver : receiver.reconfigure filters = .ok receiver') : receiver'.Reliable := by
  obtain ⟨calls, hhandler⟩ := h
  exact ⟨calls, (handler_of_reconfigure hreceiver).trans hhandler⟩

/-- The calls that a batch makes of a handler that never fails: none for an empty one. -/
def completedCalls (batch : List Frame) : List Delivery := if batch = [] then [] else [⟨batch, true⟩]

theorem flatMap_completedCalls (batch : List Frame) : (completedCalls batch).flatMap (·.batch) = batch := by
  unfold completedCalls
  by_cases h : batch = []
  · rw [if_pos h, h]
    rfl
  · rw [if_neg h]
    simp

/-- Offering frames to a handler that never fails is a completed call with those the bank accepts. -/
theorem Reliable.offer {receiver : Receiver} (h : receiver.Reliable) (frames : List Frame) :
    receiver.offer frames =
      (receiver.afterCalls (completedCalls (frames.filter receiver.bank.accepts)),
        (completedCalls (frames.filter receiver.bank.accepts)).head?) := by
  obtain ⟨calls, hhandler⟩ := h
  unfold completedCalls
  by_cases hbatch : frames.filter receiver.bank.accepts = []
  · rw [offer_of_silent (.inl hbatch), if_pos hbatch, afterCalls_nil]
    rfl
  · rw [offer_of_handler hbatch hhandler, if_neg hbatch]
    simp

/-- No handler that may fail is registered. -/
def Harmless (receiver : Receiver) : Prop := receiver.handler = none ∨ receiver.Reliable

theorem Harmless.reconfigure {receiver receiver' : Receiver} {filters : List Filter} (h : receiver.Harmless)
    (hreceiver : receiver.reconfigure filters = .ok receiver') : receiver'.Harmless := by
  rcases h with hnone | hreliable
  · exact .inl ((handler_of_reconfigure hreceiver).trans hnone)
  · exact .inr (hreliable.reconfigure hreceiver)

theorem Harmless.afterCalls {receiver : Receiver} (h : receiver.Harmless) (ds : List Delivery) :
    (receiver.afterCalls ds).Harmless := by
  rcases h with hnone | hreliable
  · exact .inl (by rw [handler_afterCalls, hnone, Option.map_none])
  · exact .inr (hreliable.afterCalls ds)

/-- Whatever is offered then, the call comes to its end. -/
theorem Harmless.offer {receiver : Receiver} (h : receiver.Harmless) (frames : List Frame) :
    (receiver.offer frames).1.Harmless ∧
      ∀ delivery, (receiver.offer frames).2 = some delivery → delivery.completed = true := by
  rcases h with hnone | hreliable
  · rw [offer_of_silent (.inr hnone)]
    exact ⟨.inl hnone, nofun⟩
  · rw [hreliable.offer]
    refine ⟨.inr (hreliable.afterCalls _), fun delivery hdelivery => ?_⟩
    unfold completedCalls at hdelivery
    by_cases hbatch : frames.filter receiver.bank.accepts = []
    · simp [hbatch] at hdelivery
    · rw [if_neg hbatch] at hdelivery
      cases hdelivery
      rfl

/-- One completed call for each frame that passes. -/
def singles (receiver : Receiver) (frames : List Frame) : List Delivery :=
  (frames.filter receiver.bank.accepts).map fun frame => ⟨[frame], true⟩

@[simp] theorem singles_nil (receiver : Receiver) : receiver.singles [] = [] := rfl

theorem singles_append (receiver : Receiver) (frames more : List Frame) :
    receiver.singles (frames ++ more) = receiver.singles frames ++ receiver.singles more := by simp [singles]

@[simp] theorem singles_afterCalls (receiver : Receiver) (ds : List Delivery) (frames : List Frame) :
    (receiver.afterCalls ds).singles frames = receiver.singles frames := rfl

theorem collected_singles (receiver : Receiver) (frames : List Frame) :
    (receiver.afterCalls (receiver.singles frames)).collected =
      receiver.collected ++ frames.filter receiver.bank.accepts := by
  simp [afterCalls, singles, List.filter_map, Function.comp_def, List.flatMap_map]

/-- A frame alone is one call or none. -/
theorem singles_singleton (receiver : Receiver) (frame : Frame) :
    receiver.singles [frame] = if receiver.bank.accepts frame then [⟨[frame], true⟩] else [] := by
  by_cases h : receiver.bank.accepts frame <;> simp [singles, h]

/-- An offer of one frame at most. -/
theorem Reliable.offer_short {receiver : Receiver} (h : receiver.Reliable) {frames : List Frame}
    (hshort : frames.length ≤ 1) :
    receiver.offer frames =
      (receiver.afterCalls (receiver.singles frames), (receiver.singles frames).head?) := by
  match frames with
  | [] =>
    rw [offer_of_silent (.inl rfl), singles_nil, afterCalls_nil]
    rfl
  | [frame] =>
    rw [h.offer, singles_singleton]
    by_cases haccepts : receiver.bank.accepts frame <;> simp [completedCalls, haccepts]
  | _ :: _ :: _ => simp at hshort

theorem flatMap_singles (receiver : Receiver) (frames : List Frame) :
    (receiver.singles frames).flatMap (·.batch) = frames.filter receiver.bank.accepts := by
  simp [singles, List.flatMap_map]

/-- Take the oldest collected frame. -/
def pop (receiver : Receiver) : Except Fault (Frame × Receiver) :=
  match receiver.collected with
  | [] => .error (.contract .nothingReceived)
  | frame :: rest => .ok (frame, { receiver with collected := rest })

theorem pop_eq_ok_iff {receiver receiver' : Receiver} {frame : Frame} :
    receiver.pop = .ok (frame, receiver') ↔
      ∃ rest, receiver.collected = frame :: rest ∧ receiver' = { receiver with collected := rest } := by
  unfold pop
  cases hcollected : receiver.collected with
  | nil => simp
  | cons first rest =>
    simp only [Except.ok.injEq, Prod.mk.injEq, List.cons.injEq]
    constructor
    · rintro ⟨rfl, rfl⟩
      exact ⟨rest, ⟨rfl, rfl⟩, rfl⟩
    · rintro ⟨_, ⟨rfl, rfl⟩, rfl⟩
      exact ⟨rfl, rfl⟩

end Receiver

end CanBus
