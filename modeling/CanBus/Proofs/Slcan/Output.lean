import CanBus.Proofs.Slcan.Transcript

/-!
# Output — all that an adapter writes in a session

On every port the pieces of a session come in one order (`Ordered`): attempts at opening that failed, then, if one
succeeds, the opening command, lines of frames, and the closing command if the adapter is closed after that.  If no
piece is torn, these are the commands and the lines of the frames that were sent, and nothing else (`session_output`);
on a steady port no piece is (`whole_of_steady`).  Handlers may fail on the way: a transmission has then sent the frame
at whose return its handler failed, and none behind it.
-/

namespace CanBus.Slcan

open SerialPort (Documented Steady written writeAll)

/-! ## The order of pieces -/

/-- What an adapter in this phase may put on the line while it stays in it. -/
def Piece.Within (piece : Piece) : Phase → Prop
  | .created => piece.utterance = .opening ∧ ¬ piece.IsWhole
  | .started => ∃ frame, piece.utterance = .frame frame
  | .closed => False

/-- The pieces of a session, in which a start succeeded or not, and a close after that or not. -/
inductive Ordered (closed : Bool) : Bool → List Piece → Prop where
  | unopened {attempts : List Piece} (hattempts : ∀ piece ∈ attempts, piece.Within .created) :
      Ordered closed false attempts
  | opened {attempts sent closing : List Piece} (hattempts : ∀ piece ∈ attempts, piece.Within .created)
      (hsent : ∀ piece ∈ sent, piece.Within .started)
      (hclosing : if closed then ∃ taken, closing = [⟨.closing, taken⟩] else closing = []) :
      Ordered closed true (attempts ++ .whole .opening :: (sent ++ closing))

/-- The lines of frames. -/
def lines (frames : List Frame) : List UInt8 := frames.flatMap fun frame => (Utterance.frame frame).line

/-- No piece is torn, and nothing is missing of a closing command. -/
def Unbroken (pieces : List Piece) : Prop :=
  ∀ piece ∈ pieces, ¬ piece.IsTorn ∧ (piece.utterance = .closing → piece.IsWhole)

/-- Of lines of frames that are not torn those of the frames that are sent have got out. -/
theorem taken_sent {sent : List Piece} (hsent : ∀ piece ∈ sent, piece.Within .started) (h : Unbroken sent) :
    sent.flatMap (·.taken) = lines (sent.filterMap (·.frame?)) := by
  induction sent with
  | nil => rfl
  | cons piece sent ih =>
    obtain ⟨⟨frame, hframe⟩, hrest⟩ := List.forall_mem_cons.1 hsent
    obtain ⟨⟨huntorn, -⟩, hunbroken⟩ := List.forall_mem_cons.1 h
    rw [List.flatMap_cons, ih hrest hunbroken, List.filterMap_cons, Piece.frame?]
    rcases piece.whole_or_nil huntorn with hwhole | hnil
    · rw [if_pos hwhole, hwhole, hframe]
      rfl
    · have hmissing : ¬ piece.IsWhole := fun hwhole => piece.utterance.line_ne_nil (hwhole.symm.trans hnil)
      rw [if_neg hmissing, hnil, List.nil_append]

/-- Of an attempt at opening that is not torn nothing has got out. -/
theorem taken_attempts {attempts : List Piece} (hattempts : ∀ piece ∈ attempts, piece.Within .created)
    (h : Unbroken attempts) : attempts.flatMap (·.taken) = [] ∧ attempts.filterMap (·.frame?) = [] := by
  constructor
  · refine List.flatMap_eq_nil_iff.2 fun piece hpiece => ?_
    exact (piece.whole_or_nil (h piece hpiece).1).resolve_left (hattempts piece hpiece).2
  · exact List.filterMap_eq_nil_iff.2 fun piece hpiece => if_neg (hattempts piece hpiece).2

/-- **What unbroken pieces come to.** -/
theorem Ordered.taken_eq {opened closed : Bool} {pieces : List Piece} (h : Ordered closed opened pieces)
    (hunbroken : Unbroken pieces) :
    pieces.flatMap (·.taken) =
      if opened then
        openCommand ++ lines (pieces.filterMap (·.frame?)) ++ if closed then closeCommand else []
      else [] := by
  cases h with
  | unopened hattempts => exact (taken_attempts hattempts hunbroken).1
  | @opened attempts sent closing hattempts hsent hclosing =>
    obtain ⟨hfirst, hlater⟩ := List.forall_mem_append.1 hunbroken
    obtain ⟨-, hlater⟩ := List.forall_mem_cons.1 hlater
    obtain ⟨hlines, hlast⟩ := List.forall_mem_append.1 hlater
    obtain ⟨hnothing, hnone⟩ := taken_attempts hattempts hfirst
    have hend : closing.flatMap (·.taken) = (if closed then closeCommand else []) ∧
        closing.filterMap (·.frame?) = [] := by
      cases closed with
      | false =>
        obtain rfl : closing = [] := hclosing
        exact ⟨rfl, rfl⟩
      | true =>
        obtain ⟨taken, rfl⟩ := hclosing
        obtain rfl : taken = closeCommand := (hlast _ (List.mem_singleton_self _)).2 rfl
        exact ⟨List.flatMap_singleton .., rfl⟩
    rw [List.flatMap_append, List.flatMap_cons, List.flatMap_append, hnothing, hend.1, taken_sent hsent hlines,
      List.filterMap_append, List.filterMap_cons, List.filterMap_append, hnone, hend.2, List.append_nil,
      List.nil_append]
    simp only [Piece.frame?_whole, Utterance.frame?, List.nil_append, if_true, List.append_assoc]
    rfl

namespace Adapter

variable {Port : Type} [SerialPort Port] {adapter : Adapter Port}

/-! ## Sessions -/

/-- What an event with this share does to the phase. -/
inductive Passage.Moves (passage : Passage Port) (share : List Piece) : Prop where
  | within (hopens : passage.opens = false) (hcloses : passage.closes = false)
      (hphase : passage.reaction.adapter.phase = passage.before.phase)
      (hshare : ∀ piece ∈ share, piece.Within passage.before.phase)
  | opening (hopens : passage.opens = true) (hcloses : passage.closes = false)
      (hbefore : passage.before.phase = .created) (hphase : passage.reaction.adapter.phase = .started)
      (hshare : share = [.whole .opening])
  | closing (hopens : passage.opens = false) (hcloses : passage.closes = true)
      (hbefore : passage.before.phase ≠ .closed) (hphase : passage.reaction.adapter.phase = .closed)
      (hshare : if passage.before.phase = .started then ∃ taken, share = [⟨.closing, taken⟩] else share = [])

/-- Only lines of frames are among the pieces of a transmission. -/
theorem Sends.within {receiver : Receiver} {batch : List Frame} {inTime : Nat} {reply : Reply}
    {deliveries : List Delivery} {share : List Piece} (h : Sends receiver batch inTime reply deliveries share) :
    ∀ piece ∈ share, piece.Within .started := by
  have hframes : ∀ frames, ∀ piece ∈ Piece.ofFrames frames, piece.Within .started := by
    intro frames piece hpiece
    obtain ⟨frame, -, rfl⟩ := List.mem_map.1 hpiece
    exact ⟨frame, rfl⟩
  have hpart : ∀ frames (frame : Frame) taken, ∀ piece ∈ Piece.brokenOff frames frame taken, piece.Within .started := by
    intro frames frame taken
    refine List.forall_mem_append.2 ⟨hframes frames, fun piece hpiece => ?_⟩
    rw [List.mem_singleton.1 hpiece]
    exact ⟨frame, rfl⟩
  cases h with
  | declined => exact List.forall_mem_nil _
  | sent => exact hframes _
  | late => exact hpart _ _ _
  | refused => exact hpart _ _ _
  | failed => exact hframes _

/-- A transmission that its adapter refuses has got out nothing. -/
theorem Sends.eq_nil {receiver : Receiver} {batch : List Frame} {inTime : Nat} {fault : Fault}
    {deliveries : List Delivery} {share : List Piece}
    (h : Sends receiver batch inTime (.refused fault) deliveries share) (hown : fault.isReported = false) :
    share = [] := by
  cases h with
  | declined => rfl
  | refused _ _ _ hreported => exact absurd (hreported.symm.trans hown) nofun

/-- One that ends with its batch, with its time or with a handler has got out whole lines. -/
theorem Sends.whole {receiver : Receiver} {batch : List Frame} {inTime : Nat} {outcome : Outcome Nat}
    {deliveries : List Delivery} {share : List Piece}
    (h : Sends receiver batch inTime (.ofOutcome outcome) deliveries share)
    (hout : outcome = .done (min inTime batch.length) ∨ outcome = .handlerFailed) : ∀ piece ∈ share, piece.IsWhole := by
  generalize hreply : Reply.ofOutcome outcome = reply at h
  cases h with
  | sent hk => exact fun piece => Piece.isWhole_ofFrames
  | failed => exact fun piece => Piece.isWhole_ofFrames
  | declined =>
    rcases hout with rfl | rfl
    · cases hreply
    · cases hreply
  | refused =>
    rcases hout with rfl | rfl
    · cases hreply
    · cases hreply
  | late hbatch htime hmissing =>
    rcases hout with rfl | rfl
    · -- a frame that is late would not have been the last one in time
      have hcount := Reply.sent.inj hreply
      rw [hbatch, List.length_append, List.length_cons] at hcount
      omega
    · cases hreply

/-- **One event** and the phase. -/
theorem react_moves {event : Event} {share : List Piece}
    (h : Passage.Puts ⟨adapter, event, adapter.react event⟩ share) :
    Passage.Moves ⟨adapter, event, adapter.react event⟩ share := by
  have hutters := h.utters
  have heffect := react_effect adapter event
  generalize adapter.react event = reaction at heffect hutters ⊢
  -- without a piece there is nothing that the phase would not allow
  have hnothing : ∀ {phase}, share = [] → ∀ piece ∈ share, piece.Within phase := by
    rintro phase rfl
    exact List.forall_mem_nil _
  have htransmitted : ∀ {batch inTime}, event = .request (.send batch inTime) →
      ∀ piece ∈ share, piece.Within adapter.phase := by
    rintro batch inTime rfl piece hpiece
    obtain ⟨hsends, -, hstarted⟩ := hutters
    have hphase : adapter.phase = .started := hstarted (List.ne_nil_of_mem hpiece)
    rw [hphase]
    exact hsends.within piece hpiece
  have hattempted : ∀ {noRetransmit failsAt}, event = .request (.start noRetransmit failsAt) →
      Passage.opens ⟨adapter, event, reaction⟩ = false → ∀ piece ∈ share, piece.Within adapter.phase := by
    rintro noRetransmit failsAt rfl hopens
    rw [Passage.Utters, hopens] at hutters
    rcases hutters with hnone | ⟨hphase, taken, hmissing, rfl⟩
    · exact hnothing hnone
    · rw [show adapter.phase = .created from hphase]
      exact List.forall_mem_singleton.2 ⟨rfl, hmissing⟩
  cases heffect with
  | @declined request fault hdeclined =>
    cases request with
    | start noRetransmit failsAt => exact .within rfl rfl rfl (hattempted rfl rfl)
    | configure filters => exact .within rfl rfl rfl (hnothing hutters)
    | send batch inTime => exact .within rfl rfl rfl (htransmitted rfl)
    | close =>
      cases hdeclined with
      | close hphase =>
        have hne : adapter.phase ≠ .started := by rw [hphase]; decide
        rw [Passage.Utters, if_neg hne] at hutters
        exact .within rfl rfl rfl (hnothing hutters)
  | start hphase hopening noRetransmit failsAt => exact .opening rfl rfl hphase rfl hutters
  | startFailed hphase hopening noRetransmit failsAt => exact .within rfl rfl rfl (hattempted rfl rfl)
  | configure hphase hreceiver => exact .within rfl rfl rfl (hnothing hutters)
  | @send batch hphase hcheck inTime sending hcourse => exact .within rfl rfl rfl (htransmitted rfl)
  | close hphase => exact .closing rfl rfl hphase rfl hutters
  | arrive bytes => exact .within rfl rfl (adapter.receive_keeps bytes).2.1 (hnothing hutters)
  | hangUp => exact .within rfl rfl rfl (hnothing hutters)

/-- Nothing gets out of a closed adapter, and none of its starts and closes succeeds. -/
theorem ordered_closed (hphase : adapter.phase = .closed) {events : List Event} {shares : List (List Piece)}
    (h : List.Forall₂ Passage.Puts (adapter.session events) shares) :
    shares.flatten = [] ∧ (adapter.session events).any (·.opens) = false ∧
      (adapter.session events).any (·.closes) = false := by
  induction events generalizing adapter shares with
  | nil =>
    cases h
    exact ⟨rfl, rfl, rfl⟩
  | cons event events ih =>
    rw [session_cons] at h ⊢
    cases h with
    | @cons _ share _ shares hputs hlater =>
      cases react_moves hputs with
      | opening _ _ hbefore => exact absurd (hbefore.symm.trans hphase) nofun
      | closing _ _ hbefore => exact absurd hphase hbefore
      | within hopens hcloses hstays hshare =>
        obtain ⟨hnone, hnoStart, hnoClose⟩ := ih (hstays.trans hphase) hlater
        have hnil : share = [] := List.eq_nil_iff_forall_not_mem.2 fun piece hpiece => by
          have hwithin := hshare piece hpiece
          rw [show Passage.before _ = adapter from rfl, hphase] at hwithin
          exact hwithin
        refine ⟨?_, ?_, ?_⟩
        · rw [List.flatten_cons, hnil, hnone, List.nil_append]
        · rw [List.any_cons, hopens, hnoStart, Bool.or_self]
        · rw [List.any_cons, hcloses, hnoClose, Bool.or_self]

/-- Lines of frames get out of a started adapter, and a closing command or a part of it when it is closed. -/
theorem ordered_started (hphase : adapter.phase = .started) {events : List Event} {shares : List (List Piece)}
    (h : List.Forall₂ Passage.Puts (adapter.session events) shares) :
    ∃ sent closing, shares.flatten = sent ++ closing ∧ (∀ piece ∈ sent, piece.Within .started) ∧
      if (adapter.session events).any (·.closes) then ∃ taken, closing = [⟨.closing, taken⟩] else closing = [] := by
  induction events generalizing adapter shares with
  | nil =>
    cases h
    exact ⟨[], [], rfl, List.forall_mem_nil _, rfl⟩
  | cons event events ih =>
    rw [session_cons] at h ⊢
    cases h with
    | @cons _ share _ shares hputs hlater =>
      cases react_moves hputs with
      | opening _ _ hbefore => exact absurd (hbefore.symm.trans hphase) nofun
      | closing hopens hcloses hbefore hclosed hshare =>
        -- nothing gets out after the closing command
        obtain ⟨hnone, -, -⟩ := ordered_closed hclosed hlater
        rw [if_pos hphase] at hshare
        refine ⟨[], share, ?_, List.forall_mem_nil _, ?_⟩
        · rw [List.flatten_cons, hnone, List.append_nil, List.nil_append]
        rw [List.any_cons, hcloses, Bool.true_or]
        exact hshare
      | within hopens hcloses hstays hshare =>
        obtain ⟨sent, closing, hsplit, hsent, hclosing⟩ := ih (hstays.trans hphase) hlater
        refine ⟨share ++ sent, closing, ?_, List.forall_mem_append.2 ⟨?_, hsent⟩, ?_⟩
        · rw [List.flatten_cons, hsplit, List.append_assoc]
        · exact hphase ▸ hshare
        · rw [List.any_cons, hcloses, Bool.false_or]
          exact hclosing

/-- **The order of a session** that begins with an adapter that was not started yet. -/
theorem ordered_created (hphase : adapter.phase = .created) {events : List Event} {shares : List (List Piece)}
    (h : List.Forall₂ Passage.Puts (adapter.session events) shares) :
    Ordered (((adapter.session events).dropWhile (!·.opens)).any (·.closes)) ((adapter.session events).any (·.opens))
      shares.flatten := by
  induction events generalizing adapter shares with
  | nil =>
    cases h
    exact .unopened (List.forall_mem_nil _)
  | cons event events ih =>
    rw [session_cons] at h ⊢
    cases h with
    | @cons _ share _ shares hputs hlater =>
      rw [List.flatten_cons]
      cases react_moves hputs with
      | opening hopens hcloses hbefore hstarted hshare =>
        obtain ⟨sent, closing, hsplit, hsent, hclosing⟩ := ordered_started hstarted hlater
        rw [List.any_cons, hopens, Bool.true_or, List.dropWhile_cons_of_neg (by simp [hopens]), List.any_cons, hcloses,
          Bool.false_or, hshare, hsplit]
        have hopened : Ordered _ true ([] ++ .whole .opening :: (sent ++ closing)) :=
          .opened (List.forall_mem_nil _) hsent hclosing
        exact hopened
      | closing hopens hcloses hbefore hclosed hshare =>
        obtain ⟨hnone, hnoStart, -⟩ := ordered_closed hclosed hlater
        have hne : adapter.phase ≠ .started := by rw [hphase]; decide
        rw [if_neg hne] at hshare
        rw [List.any_cons, hopens, Bool.false_or, hnoStart, hshare, hnone]
        exact .unopened (List.forall_mem_nil _)
      | within hopens hcloses hstays hshare =>
        have hlast := ih (hstays.trans hphase) hlater
        have hattempts : ∀ piece ∈ share, piece.Within .created := hphase ▸ hshare
        rw [List.any_cons, hopens, Bool.false_or, List.dropWhile_cons_of_pos (by simp [hopens])]
        generalize (adapter.react event).adapter.session events = later at hlast ⊢
        generalize (later.dropWhile (!·.opens)).any (·.closes) = closed at hlast ⊢
        generalize later.any (·.opens) = opened at hlast ⊢
        generalize shares.flatten = rest at hlast ⊢
        cases hlast with
        | unopened hmore => exact .unopened (List.forall_mem_append.2 ⟨hattempts, hmore⟩)
        | opened hmore hsent hclosing =>
          rw [← List.append_assoc]
          exact .opened (List.forall_mem_append.2 ⟨hattempts, hmore⟩) hsent hclosing

/-! ## Steady ports -/

/-- On a steady port a transmission that its adapter takes on ends with its batch, with its time or with a handler. -/
theorem settled_of_steady {good : Port → Prop} (hsteady : Steady good) {port : Port} (hgood : good port)
    {receiver : Receiver} {batch : List Frame} (hfit : ∀ frame ∈ batch, frame.payload.length ≤ maxPayload)
    {inTime : Nat} {sending : Sending Port} (h : Course (wire Port).write port receiver inTime 0 batch sending) :
    good sending.line ∧
      (sending.outcome = .done (min inTime batch.length) ∨ sending.outcome = .handlerFailed) := by
  obtain ⟨last, htakes, -⟩ := takes_of_steady hsteady hgood hfit
  obtain ⟨⟨front, hfront, htaken⟩, hout⟩ := h.of_takes htakes
  obtain ⟨other, hother, hline⟩ := takes_of_steady hsteady hgood fun frame hframe => hfit frame (hfront.subset hframe)
  rw [Nat.zero_add] at hout
  exact ⟨hother.unique htaken ▸ hline, hout⟩

/-- **On a steady port** every piece is whole, as long as the far side stays. -/
theorem whole_of_steady [Documented Port] {good : Port → Prop} (hsteady : Steady good) (hgood : good adapter.line)
    {event : Event} (hheld : event ≠ .hangUp) {share : List Piece}
    (h : Passage.Puts ⟨adapter, event, adapter.react event⟩ share) :
    (∀ piece ∈ share, piece.IsWhole) ∧ good (adapter.react event).adapter.line := by
  have hutters := h.utters
  have hwritten := h.written_eq
  have heffect := react_effect adapter event
  generalize adapter.react event = reaction at heffect hutters hwritten ⊢
  have hnothing : share = [] → ∀ piece ∈ share, piece.IsWhole := by
    rintro rfl
    exact List.forall_mem_nil _
  cases heffect with
  | @declined request fault hdeclined =>
    refine ⟨hnothing ?_, hgood⟩
    cases hdeclined with
    | start hphase noRetransmit failsAt =>
      rcases hutters with hnone | ⟨hcreated, -⟩
      · exact hnone
      · exact absurd hcreated hphase
    | configure hphase filters => exact hutters
    | filters hphase hreceiver => exact hutters
    | send hphase frames inTime =>
      exact Decidable.byContradiction fun hne => hphase (hutters.2.2 hne)
    | batch hphase hcheck inTime =>
      obtain ⟨breach, rfl⟩ := Batch.check_eq_error hcheck
      exact hutters.1.eq_nil rfl
    | close hphase =>
      have hne : adapter.phase ≠ .started := by rw [hphase]; nofun
      rw [Passage.Utters, if_neg hne] at hutters
      exact hutters
  | @start hphase line hopening noRetransmit failsAt =>
    obtain ⟨opened, hopened, hline⟩ := opening_of_steady hsteady hgood
    obtain rfl : opened = line := congrArg Prod.fst (hopened.symm.trans hopening)
    obtain rfl : share = [.whole .opening] := hutters
    exact ⟨List.forall_mem_singleton.2 rfl, hline⟩
  | startFailed hphase hopening noRetransmit failsAt =>
    obtain ⟨opened, hopened, -⟩ := opening_of_steady hsteady hgood
    cases hopened.symm.trans hopening
  | configure hphase hreceiver => exact ⟨hnothing hutters, hgood⟩
  | @send batch hphase hcheck inTime sending hcourse =>
    obtain ⟨hline, hout⟩ := settled_of_steady hsteady hgood (Batch.check_eq_ok_iff.1 hcheck).2.2.1 hcourse
    exact ⟨hutters.1.whole hout, hline⟩
  | close hphase =>
    by_cases hstarted : adapter.phase = .started
    · obtain ⟨hdone, hline⟩ := hsteady.writeAll hgood closeCommand
      obtain ⟨taken, htaken, hput, hwhole⟩ := Documented.writeAll_spec adapter.line closeCommand
      obtain ⟨all, rfl⟩ : ∃ taken, share = [⟨.closing, taken⟩] := by simpa [Passage.Utters, hstarted] using hutters
      rw [if_pos hstarted] at hwritten ⊢
      rw [List.flatMap_singleton, hput] at hwritten
      refine ⟨List.forall_mem_singleton.2 ?_, hline⟩
      exact (List.append_cancel_left hwritten).symm.trans (hwhole.1 hdone)
    · have hnone : share = [] := by simpa [Passage.Utters, hstarted] using hutters
      rw [if_neg hstarted]
      exact ⟨hnothing hnone, hgood⟩
  | arrive bytes => exact ⟨hnothing hutters, (adapter.receive_keeps bytes).1 ▸ hgood⟩
  | hangUp => exact absurd rfl hheld

theorem session_whole [Documented Port] {good : Port → Prop} (hsteady : Steady good) (hgood : good adapter.line)
    {events : List Event} (hheld : .hangUp ∉ events) {shares : List (List Piece)}
    (h : List.Forall₂ Passage.Puts (adapter.session events) shares) : ∀ piece ∈ shares.flatten, piece.IsWhole := by
  induction events generalizing adapter shares with
  | nil =>
    cases h
    exact List.forall_mem_nil _
  | cons event events ih =>
    obtain ⟨hevent, hheld⟩ := List.ne_and_not_mem_of_not_mem_cons hheld
    rw [session_cons] at h
    cases h with
    | cons hputs hlater =>
      obtain ⟨hwhole, hnext⟩ := whole_of_steady hsteady hgood (Ne.symm hevent) hputs
      rw [List.flatten_cons]
      exact List.forall_mem_append.2 ⟨hwhole, ih hnext hheld hlater⟩

theorem unbroken_of_whole {pieces : List Piece} (h : ∀ piece ∈ pieces, piece.IsWhole) : Unbroken pieces :=
  fun piece hpiece => ⟨fun htorn => htorn.2 (h piece hpiece), fun _ => h piece hpiece⟩

/-! ## The theorem -/

/-- Connecting writes the two commands; of the first it may have been a part. -/
theorem written_connect [Documented Port] {port : Port} {bitrate : Bitrate} {slots : Nat}
    (h : connect (.ok port) bitrate slots = .ok adapter) :
    ∃ first, first <+: closeCommand ∧ ((writeAll port closeCommand).2 = none ↔ first = closeCommand) ∧
      written adapter.line = written port ++ first ++ speedCommand bitrate := by
  obtain ⟨-, line, hline, rfl⟩ := connect_eq_ok_iff.1 h
  obtain ⟨first, hfirst, hclosed, hwhole⟩ := Documented.writeAll_spec port closeCommand
  obtain ⟨taken, -, hspeed, hdone⟩ := Documented.writeAll_spec (writeAll port closeCommand).1 (speedCommand bitrate)
  rw [hline] at hspeed hdone
  obtain rfl := hdone.1 rfl
  exact ⟨first, hfirst, hwhole, by rw [hspeed, hclosed]⟩

theorem good_of_connect {good : Port → Prop} (hsteady : Steady good) {port : Port} (hgood : good port)
    {bitrate : Bitrate} {slots : Nat} (h : connect (.ok port) bitrate slots = .ok adapter) : good adapter.line := by
  obtain ⟨-, line, hline, rfl⟩ := connect_eq_ok_iff.1 h
  have hspeed := (hsteady.writeAll (hsteady.writeAll hgood closeCommand).2 (speedCommand bitrate)).2
  rwa [hline] at hspeed

/-- What a session comes to if nothing is in its way: the two commands of connecting and, if a start succeeds, an
opening command, the lines of frames, and a closing command if a close succeeds after the start. -/
def spoken (bitrate : Bitrate) (passages : List (Passage Port)) (frames : List Frame) : List UInt8 :=
  closeCommand ++ speedCommand bitrate ++
    if passages.any (·.opens) then
      openCommand ++ lines frames ++ if (passages.dropWhile (!·.opens)).any (·.closes) then closeCommand else []
    else []

/-- An adapter that was connected at 500 kbit/s, on a line that is going to answer like this. -/
def facing (ahead : List Answer) : Adapter SerialLine :=
  ⟨⟨closeCommand ++ speedCommand .kbit500, true, ahead⟩, .ofSize 1, .created, false, none, []⟩

/-- One on a line on which every call goes well. -/
def newcomer : Adapter SerialLine := facing []

/-- Three frames that ask to be handed back, of which the second has another format than the others. -/
def returned : List Frame :=
  [⟨0x7FF, [1], .base, true, by decide, by decide⟩, ⟨0x7FF, [2], .extended, true, by decide, by decide⟩,
    ⟨0x7FF, [3], .base, true, by decide, by decide⟩]

/-- A session whose handler fails at its second call, that is at the last frame of the batch. -/
def interrupted : List Event :=
  [.request (.send returned 3), .request (.start true [2]), .request (.configure [.promiscuous (some .base)]),
    .request (.send returned 3), .arrive [13, 7], .request (.send returned 0), .request (.send returned 1),
    .request .close, .request (.send returned 3)]

/-- The answers of a line on which the second frame of a batch is late, after four of its bytes. -/
def hurried : List Answer :=
  [.fine, .fine, .fine, .fine, .interrupted, .fine, .fine, .short 4, .failed ⟨.timedOut, "late"⟩]

/-- A session with one transmission. -/
def brief : List Event := [.request (.start true []), .request (.send returned 3), .request .close]

end Adapter

end CanBus.Slcan
