import CanBus.Transmission

/-!
# Sending — what becomes of a batch

A sending takes one of a few courses (`Course`), whatever the line makes of the frames (`sendEach_course`): the batch or
its time comes to an end, a frame is late or refused, or the handler fails.  In time, over a line that takes every
frame and with a handler that never fails, the whole batch is sent (`Course.of_reliable`).
-/

namespace CanBus

/-! ## Lines that take frames -/

/-- The line takes frames as a whole, one after the other, and is another one then. -/
inductive Takes {α : Type} (write : α → Frame → Writing α) : α → List Frame → α → Prop where
  | nil (line : α) : Takes write line [] line
  | cons {line next last : α} {frame : Frame} {rest : List Frame} (hwrite : write line frame = .whole next)
      (hrest : Takes write next rest last) : Takes write line (frame :: rest) last

section Takes

variable {α : Type} {write : α → Frame → Writing α} {line last : α} {frames : List Frame}

theorem takes_singleton {frame : Frame} (hwrite : write line frame = .whole last) : Takes write line [frame] last :=
  .cons hwrite (.nil last)

/-- A line becomes one other line of frames. -/
theorem Takes.unique (h : Takes write line frames last) {other : α} (hother : Takes write line frames other) :
    other = last := by
  induction h with
  | nil line =>
    cases hother
    rfl
  | cons hwrite hrest ih =>
    cases hother with
    | cons hwrite' hrest' =>
      rw [hwrite] at hwrite'
      cases hwrite'
      exact ih hrest'

/-- A line that takes frames has taken those before any other of them. -/
theorem Takes.split {front back : List Frame} (h : Takes write line (front ++ back) last) :
    ∃ mid, Takes write line front mid ∧ Takes write mid back last := by
  induction front generalizing line with
  | nil => exact ⟨line, .nil line, h⟩
  | cons frame front ih =>
    cases h with
    | cons hwrite hrest =>
      obtain ⟨mid, hfront, hback⟩ := ih hrest
      exact ⟨mid, .cons hwrite hfront, hback⟩

/-- A line that takes frames has refused none of them, and none was late. -/
theorem Takes.whole_next {front back : List Frame} {frame : Frame} {mid : α} (h : Takes write line frames last)
    (hframes : frames = front ++ frame :: back) (hfront : Takes write line front mid) :
    ∃ next, write mid frame = .whole next := by
  obtain ⟨other, hother, hback⟩ := (hframes ▸ h).split
  cases hback with
  | cons hwrite hrest => exact ⟨_, hother.unique hfront ▸ hwrite⟩

/-- If every frame that is taken adds its piece to what the line shows, then the line shows them all. -/
theorem Takes.output {β : Type} {out : α → List β} {piece : Frame → List β} (h : Takes write line frames last)
    (hwhole : ∀ {line line' frame}, write line frame = .whole line' → out line' = out line ++ piece frame) :
    out last = out line ++ frames.flatMap piece := by
  induction h with
  | nil line => exact (List.append_nil _).symm
  | cons hwrite hrest ih => rw [ih, hwhole hwrite, List.append_assoc, List.flatMap_cons]

end Takes

/-! ## What is handed back -/

/-- The calls that frames make when they are sent, if none of these fails: each frame that asks to be handed back and
passes the bank is one call, if there is a handler. -/
def Receiver.echoes (receiver : Receiver) (frames : List Frame) : List Delivery :=
  if receiver.handler.isSome then receiver.singles (Batch.echoed frames) else []

namespace Receiver

variable {receiver : Receiver}

theorem echoes_nil (receiver : Receiver) : receiver.echoes [] = [] := by
  unfold echoes
  cases receiver.handler.isSome <;> rfl

theorem echoes_append (receiver : Receiver) (frames more : List Frame) :
    receiver.echoes (frames ++ more) = receiver.echoes frames ++ receiver.echoes more := by
  unfold echoes
  cases receiver.handler.isSome with
  | false => rfl
  | true =>
    simp only [if_true]
    rw [Batch.echoed_append, singles_append]

@[simp] theorem echoes_afterCalls (receiver : Receiver) (ds : List Delivery) :
    (receiver.afterCalls ds).echoes = receiver.echoes := by
  funext frames
  rw [echoes, echoes, handler_afterCalls, Option.isSome_map, singles_afterCalls]

theorem echoes_of_isSome (h : receiver.handler.isSome = true) (frames : List Frame) :
    receiver.echoes frames = receiver.singles (Batch.echoed frames) := if_pos h

/-- One frame that is sent is no call, or a call that comes to its end, or one at which the handler fails. -/
theorem offer_echoed (receiver : Receiver) (frame : Frame) :
    receiver.offer (Batch.echoed [frame]) =
        (receiver.afterCalls (receiver.echoes [frame]), (receiver.echoes [frame]).head?) ∧
        (∀ delivery, (receiver.echoes [frame]).head? = some delivery →
          receiver.echoes [frame] = [delivery] ∧ delivery.completed = true) ∨
      frame.loopback = true ∧ receiver.bank.accepts (frame.tagged true) = true ∧
        (∃ handler, receiver.handler = some handler ∧ handler.calls + 1 ∈ handler.failsAt) ∧
          receiver.offer (Batch.echoed [frame]) =
            (receiver.afterCalls [⟨[frame.tagged true], false⟩], some ⟨[frame.tagged true], false⟩) := by
  by_cases hsilent : (Batch.echoed [frame]).filter receiver.bank.accepts = [] ∨ receiver.handler = none
  · have hnone : receiver.echoes [frame] = [] := by
      rcases hsilent with hbatch | hhandler
      · unfold echoes singles
        rw [hbatch]
        exact ite_self _
      · rw [echoes, hhandler]
        rfl
    rw [offer_of_silent hsilent, hnone, afterCalls_nil]
    exact .inl ⟨rfl, nofun⟩
  · obtain ⟨hbatch, hhandler⟩ := not_or.1 hsilent
    obtain ⟨handler, hhandler⟩ := Option.ne_none_iff_exists'.1 hhandler
    have hasked : frame.loopback = true := by
      cases hloopback : frame.loopback with
      | true => rfl
      | false =>
        rw [Batch.echoed_singleton, hloopback] at hbatch
        exact absurd rfl hbatch
    rw [Batch.echoed_singleton, if_pos hasked] at hbatch ⊢
    have haccepts : receiver.bank.accepts (frame.tagged true) = true := by
      cases hpass : receiver.bank.accepts (frame.tagged true) with
      | true => rfl
      | false => exact absurd (by simp [hpass]) hbatch
    have hfilter : [frame.tagged true].filter receiver.bank.accepts = [frame.tagged true] := by simp [haccepts]
    have hsome : receiver.handler.isSome = true := by rw [hhandler]; rfl
    have hecho : receiver.echoes [frame] = [⟨[frame.tagged true], true⟩] := by
      rw [echoes_of_isSome hsome, Batch.echoed_singleton, if_pos hasked, singles_singleton, if_pos haccepts]
    have hoffer := offer_of_handler hbatch hhandler
    rw [hfilter] at hoffer
    rw [hoffer, hecho]
    by_cases hfails : handler.calls + 1 ∈ handler.failsAt
    · exact .inr ⟨hasked, haccepts, ⟨handler, hhandler, hfails⟩, by simp [hfails]⟩
    · refine .inl ⟨by simp [hfails], fun delivery hdelivery => ?_⟩
      cases hdelivery
      exact ⟨rfl, rfl⟩

end Receiver

/-! ## The course of a sending -/

/-- A sending with calls before its own. -/
def Sending.behind {α : Type} (sending : Sending α) (deliveries : List Delivery) : Sending α :=
  { sending with deliveries := deliveries ++ sending.deliveries }

/-- How a sending can go.  The batch or its time comes to an end; a frame of the batch is late or refused behind those
that were taken; or the handler fails at the frame taken last. -/
inductive Course {α : Type} (write : α → Frame → Writing α) (line : α) (receiver : Receiver) (inTime sent : Nat)
    (frames : List Frame) : Sending α → Prop where
  | done {last : α} (htakes : Takes write line (frames.take inTime) last) :
      Course write line receiver inTime sent frames ⟨last, receiver.afterCalls (receiver.echoes (frames.take inTime)),
        .done (sent + min inTime frames.length), receiver.echoes (frames.take inTime)⟩
  | late {front back : List Frame} {frame : Frame} {mid last : α} (hframes : frames = front ++ frame :: back)
      (htime : front.length < inTime) (htakes : Takes write line front mid) (hwrite : write mid frame = .late last) :
      Course write line receiver inTime sent frames ⟨last, receiver.afterCalls (receiver.echoes front),
        .done (sent + front.length), receiver.echoes front⟩
  | refused {front back : List Frame} {frame : Frame} {mid last : α} {fault : Fault}
      (hframes : frames = front ++ frame :: back) (htime : front.length < inTime)
      (htakes : Takes write line front mid) (hwrite : write mid frame = .refused last fault) :
      Course write line receiver inTime sent frames ⟨last, receiver.afterCalls (receiver.echoes front),
        .refused fault, receiver.echoes front⟩
  | failed {front back : List Frame} {frame : Frame} {last : α} {handler : Handler}
      (hframes : frames = front ++ frame :: back) (htime : front.length < inTime)
      (htakes : Takes write line (front ++ [frame]) last) (hasked : frame.loopback = true)
      (haccepts : receiver.bank.accepts (frame.tagged true) = true) (hhandler : receiver.handler = some handler)
      (hfails : handler.calls + (receiver.echoes front).length + 1 ∈ handler.failsAt) :
      Course write line receiver inTime sent frames
        ⟨last, receiver.afterCalls (receiver.echoes front ++ [⟨[frame.tagged true], false⟩]), .handlerFailed,
          receiver.echoes front ++ [⟨[frame.tagged true], false⟩]⟩

section Course

variable {α : Type} {write : α → Frame → Writing α} {line next : α} {receiver : Receiver} {inTime sent : Nat}
  {frames rest : List Frame} {frame : Frame} {sending : Sending α}

/-- One more frame at the front, whose call, if there is one, comes to its end. -/
theorem Course.cons (hwrite : write line frame = .whole next)
    (h : Course write next (receiver.afterCalls (receiver.echoes [frame])) inTime (sent + 1) rest sending) :
    Course write line receiver (inTime + 1) sent (frame :: rest) (sending.behind (receiver.echoes [frame])) := by
  have hechoes : ∀ later, receiver.echoes [frame] ++ receiver.echoes later = receiver.echoes (frame :: later) := by
    intro later
    rw [← Receiver.echoes_append]
    rfl
  unfold Sending.behind
  cases h with
  | @done last htakes =>
    have hcount : sent + 1 + min inTime rest.length = sent + min (inTime + 1) (frame :: rest).length := by
      rw [List.length_cons, Nat.add_min_add_right]
      omega
    rw [Receiver.echoes_afterCalls, ← Receiver.afterCalls_append, hechoes, hcount]
    exact .done (.cons hwrite htakes)
  | @late front back lost mid last hframes htime htakes hlate =>
    have hcount : sent + 1 + front.length = sent + (frame :: front).length := by
      rw [List.length_cons]
      omega
    rw [Receiver.echoes_afterCalls, ← Receiver.afterCalls_append, hechoes, hcount]
    exact .late (by rw [hframes]; rfl) (Nat.succ_lt_succ htime) (.cons hwrite htakes) hlate
  | @refused front back lost mid last fault hframes htime htakes hrefused =>
    rw [Receiver.echoes_afterCalls, ← Receiver.afterCalls_append, hechoes]
    exact .refused (by rw [hframes]; rfl) (Nat.succ_lt_succ htime) (.cons hwrite htakes) hrefused
  | @failed front back lost last handler hframes htime htakes hasked haccepts hhandler hfails =>
    obtain ⟨first, hfirst, rfl⟩ := Option.map_eq_some_iff.1 ((receiver.handler_afterCalls _).symm.trans hhandler)
    have hnumber : first.calls + (receiver.echoes [frame]).length + (receiver.echoes front).length + 1 =
        first.calls + (receiver.echoes (frame :: front)).length + 1 := by
      rw [← hechoes front, List.length_append]
      omega
    rw [Receiver.echoes_afterCalls] at hfails
    rw [Receiver.echoes_afterCalls, ← Receiver.afterCalls_append, ← List.append_assoc, hechoes]
    exact .failed (by rw [hframes]; rfl) (Nat.succ_lt_succ htime) (.cons hwrite htakes) hasked haccepts hfirst
      (hnumber ▸ hfails)

/-- **Every sending** takes one of the courses. -/
theorem sendEach_course (write : α → Frame → Writing α) (line : α) (receiver : Receiver) (inTime sent : Nat)
    (frames : List Frame) :
    Course write line receiver inTime sent frames (sendEach write line receiver inTime sent frames) := by
  have hnothing : ∀ {line receiver inTime sent frames}, frames.take inTime = [] → min inTime frames.length = 0 →
      Course write line receiver inTime sent frames ⟨line, receiver, .done sent, []⟩ := by
    intro line receiver inTime sent frames htake hmin
    have htakes : Takes write line (frames.take inTime) line := by
      rw [htake]
      exact .nil line
    have hcourse : Course write line receiver inTime sent frames _ := .done htakes
    rwa [htake, hmin, Receiver.echoes_nil, Receiver.afterCalls_nil] at hcourse
  induction frames generalizing line receiver inTime sent with
  | nil =>
    rw [sendEach_nil]
    exact hnothing List.take_nil (Nat.min_zero _)
  | cons frame rest ih =>
    cases inTime with
    | zero => exact hnothing rfl (Nat.zero_min _)
    | succ inTime =>
      have hsplit : frame :: rest = [] ++ frame :: rest := rfl
      have htime : ([] : List Frame).length < inTime + 1 := Nat.zero_lt_succ inTime
      cases hwrite : write line frame with
      | late last =>
        have hcourse : Course write line receiver (inTime + 1) sent (frame :: rest) _ :=
          .late hsplit htime (.nil line) hwrite
        rw [sendEach_of_late hwrite]
        rwa [Receiver.echoes_nil, Receiver.afterCalls_nil] at hcourse
      | refused last fault =>
        have hcourse : Course write line receiver (inTime + 1) sent (frame :: rest) _ :=
          .refused hsplit htime (.nil line) hwrite
        rw [sendEach_of_refused hwrite]
        rwa [Receiver.echoes_nil, Receiver.afterCalls_nil] at hcourse
      | whole next =>
        rw [sendEach_cons hwrite]
        rcases receiver.offer_echoed frame with
          ⟨hoffer, hcall⟩ | ⟨hasked, haccepts, ⟨handler, hhandler, hfails⟩, hoffer⟩
        · have hlater := (ih next (receiver.afterCalls (receiver.echoes [frame])) inTime (sent + 1)).cons hwrite
          rw [hoffer]
          cases hhead : (receiver.echoes [frame]).head? with
          | none =>
            rw [List.head?_eq_none_iff.1 hhead] at hlater ⊢
            exact hlater
          | some delivery =>
            obtain ⟨hone, hcompleted⟩ := hcall delivery hhead
            rw [hone] at hlater ⊢
            dsimp only
            rw [if_pos hcompleted]
            exact hlater
        · have hnumber : handler.calls + (receiver.echoes []).length + 1 ∈ handler.failsAt := by
            rw [receiver.echoes_nil]
            exact hfails
          have hcourse : Course write line receiver (inTime + 1) sent (frame :: rest) _ :=
            .failed hsplit htime (takes_singleton hwrite) hasked haccepts hhandler hnumber
          rw [hoffer]
          rwa [receiver.echoes_nil] at hcourse

/-! ### What every course leaves alone -/

/-- The receiver has done no more than what the calls make of it. -/
theorem Course.receiver_eq (h : Course write line receiver inTime sent frames sending) :
    sending.receiver = receiver.afterCalls sending.deliveries := by
  cases h <;> rfl

theorem Course.handler_isSome (h : Course write line receiver inTime sent frames sending) :
    sending.receiver.handler.isSome = receiver.handler.isSome := by
  rw [h.receiver_eq, Receiver.handler_afterCalls, Option.isSome_map]

/-- A handler that never fails fails at no call of a sending. -/
theorem Course.harmless (h : Course write line receiver inTime sent frames sending) (hharmless : receiver.Harmless) :
    sending.receiver.Harmless ∧ sending.outcome ≠ .handlerFailed := by
  refine ⟨h.receiver_eq ▸ hharmless.afterCalls _, ?_⟩
  cases h with
  | done htakes => nofun
  | late hframes htime htakes hwrite => nofun
  | refused hframes htime htakes hwrite => nofun
  | failed hframes htime htakes hasked haccepts hhandler hfails =>
    rcases hharmless with hnone | ⟨calls, hreliable⟩
    · rw [hnone] at hhandler
      cases hhandler
    · rw [hreliable] at hhandler
      cases hhandler
      cases hfails

/-! ### Sendings in which nothing is in the way -/

/-- Over a line that takes every frame, the batch or its time comes to an end, or the handler fails. -/
theorem Course.of_takes {last : α} (h : Course write line receiver inTime sent frames sending)
    (htakes : Takes write line frames last) :
    (∃ front, front <+: frames ∧ Takes write line front sending.line) ∧
      (sending.outcome = .done (sent + min inTime frames.length) ∨ sending.outcome = .handlerFailed) := by
  cases h with
  | done hdone => exact ⟨⟨_, List.take_prefix _ _, hdone⟩, .inl rfl⟩
  | late hframes _ hfront hwrite =>
    obtain ⟨next, hnext⟩ := htakes.whole_next hframes hfront
    cases hwrite.symm.trans hnext
  | refused hframes _ hfront hwrite =>
    obtain ⟨next, hnext⟩ := htakes.whole_next hframes hfront
    cases hwrite.symm.trans hnext
  | @failed front back frame last handler hframes _ hfront =>
    refine ⟨⟨_, ⟨back, ?_⟩, hfront⟩, .inr rfl⟩
    rw [hframes, List.append_cons front frame back]

/-- In time, over a line that takes every frame, and with a handler that never fails, the whole batch is sent, and each
frame that asks for it and passes is a call. -/
theorem Course.of_reliable {last : α} (h : Course write line receiver inTime sent frames sending)
    (hreliable : receiver.Reliable) (htakes : Takes write line frames last) (htime : frames.length ≤ inTime) :
    sending = ⟨last, receiver.afterCalls (receiver.singles (Batch.echoed frames)), .done (sent + frames.length),
      receiver.singles (Batch.echoed frames)⟩ := by
  have hsome : receiver.handler.isSome = true := by
    obtain ⟨calls, hhandler⟩ := hreliable
    rw [hhandler]
    rfl
  have hfailed := (h.harmless (.inr hreliable)).2
  cases h with
  | done hdone =>
    rw [List.take_of_length_le htime] at hdone ⊢
    rw [Nat.min_eq_right htime, receiver.echoes_of_isSome hsome, hdone.unique htakes]
  | late hframes _ hfront hwrite =>
    obtain ⟨next, hnext⟩ := htakes.whole_next hframes hfront
    cases hwrite.symm.trans hnext
  | refused hframes _ hfront hwrite =>
    obtain ⟨next, hnext⟩ := htakes.whole_next hframes hfront
    cases hwrite.symm.trans hnext
  | failed => exact absurd rfl hfailed

/-! ### What a course leaves on the line -/

/-- Frames at the front of the batch were taken, and behind them at most one was late or refused. -/
theorem Course.taken (h : Course write line receiver inTime sent frames sending) :
    ∃ front mid, front <+: frames ∧ Takes write line front mid ∧ (sending.line = mid ∨
      ∃ frame, front ++ [frame] <+: frames ∧
        (write mid frame = .late sending.line ∨ ∃ fault, write mid frame = .refused sending.line fault)) := by
  cases h with
  | done htakes => exact ⟨_, _, List.take_prefix _ _, htakes, .inl rfl⟩
  | @late front back frame mid last hframes htime htakes hwrite =>
    refine ⟨front, mid, ⟨_, hframes.symm⟩, htakes, .inr ⟨frame, ⟨back, ?_⟩, .inl hwrite⟩⟩
    rw [hframes, List.append_cons front frame back]
  | @refused front back frame mid last fault hframes htime htakes hwrite =>
    refine ⟨front, mid, ⟨_, hframes.symm⟩, htakes, .inr ⟨frame, ⟨back, ?_⟩, .inr ⟨fault, hwrite⟩⟩⟩
    rw [hframes, List.append_cons front frame back]
  | @failed front back frame last handler hframes htime htakes =>
    refine ⟨front ++ [frame], last, ⟨back, ?_⟩, htakes, .inl rfl⟩
    rw [hframes, List.append_cons front frame back]

end Course

end CanBus
