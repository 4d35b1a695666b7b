import CanBus.Proofs.Network.Delivery
import CanBus.Proofs.Network.Effect
import CanBus.Proofs.Slcan.Transcript

/-!
# Refusals — what is refused has not happened

Whatever a network refuses leaves it as it was and calls no handler, save that a transmission uses up the fault that it
meets.  Whatever an SLCAN adapter refuses of itself leaves it as it was, writes nothing and calls no handler, on a port
of any kind; and if the port refuses a start, handler and reader are gone again (`refused_changes_nothing`).
-/

namespace CanBus

/-! ## Virtual networks -/

namespace Network

variable {net : Network}

/-- The fault that an operation meets: the one armed at a started station that is to transmit. -/
def armed? (net : Network) : Operation → Option Fault
  | .send n _ => (net.station? n).bind fun station => if station.phase = .started then station.fault else none
  | _ => none

/-- Deliveries end in their value or in the failure of a handler. -/
theorem delivering_not_refused {offers : List (Nat × List Frame)} {value : Answer} {fault : Fault}
    (hvalue : value ≠ .refused fault) : (net.delivering offers value).answer ≠ .refused fault := by
  have hanswer : (net.delivering offers value).answer =
      if (net.deliver offers).2.2 then value else .handlerFailed := rfl
  rw [hanswer]
  by_cases hdone : (net.deliver offers).2.2 = true
  · rwa [if_pos hdone]
  · rw [if_neg hdone]
    nofun

/-- What is declined meets no fault. -/
theorem Declined.armed?_eq {op : Operation} {fault : Fault} (h : Declined net op fault) : net.armed? op = none := by
  cases h with
  | send h hphase frames => simp [armed?, h, hphase]
  | batch h hphase hfault hcheck => simp [armed?, h, hfault]
  | _ => rfl

/-- **One refused operation.**  It called no handler, and it changed nothing unless it met the fault that it was refused
with, which is used up then. -/
theorem apply_refused {op : Operation} {fault : Fault} (h : (net.apply op).answer = .refused fault) :
    net.armed? op = none ∧ net.apply op = net.quiet (.refused fault) ∨
      ∃ n frames station, op = .send n frames ∧ net.station? n = some station ∧ station.phase = .started ∧
        station.fault = some fault ∧
          net.apply op = (net.put n { station with fault := none }).quiet (.refused fault) := by
  have heffect := apply_effect net op
  generalize net.apply op = reaction at heffect h ⊢
  cases heffect with
  | refused hdeclined =>
    cases h
    exact .inl ⟨hdeclined.armed?_eq, rfl⟩
  | meetFault hstation hphase hfault frames =>
    cases h
    exact .inr ⟨_, frames, _, rfl, hstation, hphase, hfault, rfl⟩
  | inject hstation hphase frames => exact absurd h (delivering_not_refused nofun)
  | send hstation hphase hfault hcheck => exact absurd h (delivering_not_refused nofun)
  | _ => cases h

/-- A fault that is met is the answer, and it is used up. -/
theorem apply_of_armed {n : Nat} {station : Station} {fault : Fault} (h : net.station? n = some station)
    (hphase : station.phase = .started) (hfault : station.fault = some fault) (frames : List Frame) :
    net.apply (.send n frames) = (net.put n { station with fault := none }).quiet (.refused fault) := by
  rw [apply, withStation, h]
  simp only [send, Phase.requireStarted_eq_ok_iff.2 hphase, hfault]

end Network

/-! ## SLCAN adapters -/

namespace Slcan.Adapter

section

variable {Port : Type} [SerialPort Port] {adapter : Adapter Port}

/-- **One refused request.**  Refused by the adapter itself, it wrote nothing, called no handler and changed nothing. -/
theorem respond_declined {request : Request} {fault : Fault} (h : (adapter.respond request).reply = .refused fault)
    (hown : fault.isReported = false) : adapter.respond request = ⟨adapter, .refused fault, [], []⟩ := by
  have heffect : Effect adapter (.request request) (adapter.respond request) := react_effect adapter (.request request)
  generalize adapter.respond request = reaction at heffect h ⊢
  cases heffect with
  | declined hdeclined =>
    cases h
    rfl
  | start => cases h
  | configure => cases h
  | close => cases h
  | @startFailed hphase line met hopening noRetransmit failsAt =>
    cases h
    exact absurd ((isReported_opening (congrArg Prod.snd hopening)).symm.trans hown) nofun
  | @send batch hphase hcheck inTime sending hcourse =>
    have hout : sending.outcome = .refused fault := Reply.ofOutcome_eq_refused h
    cases hcourse with
    | done => cases hout
    | late => cases hout
    | failed => cases hout
    | @refused front back frame mid last met hframes htime htakes hwrite =>
      cases hout
      -- a frame of a batch that keeps the rules has a line, so that it is the port that refuses it
      have hfit : frame.payload.length ≤ maxPayload := (Batch.check_eq_ok_iff.1 hcheck).2.2.1 frame (by simp [hframes])
      have hreported := isReported_write hfit hwrite
      exact absurd (hreported.symm.trans hown) nofun

/-- A start that is refused, by the adapter or by its port, has left everything but the port as it was. -/
theorem Attended.start_refused (h : adapter.Attended) {noRetransmit : Bool} {failsAt : List Nat} {fault : Fault}
    (hrefused : (adapter.respond (.start noRetransmit failsAt)).reply = .refused fault) :
    ∃ line, adapter.respond (.start noRetransmit failsAt) =
      ⟨{ adapter with line := line }, .refused fault, [], []⟩ := by
  have heffect := start_effect adapter noRetransmit failsAt
  generalize adapter.respond (.start noRetransmit failsAt) = reaction at heffect hrefused ⊢
  cases heffect with
  | declined hdeclined =>
    cases hrefused
    exact ⟨adapter.line, rfl⟩
  | start => cases hrefused
  | @startFailed hphase line met hopening =>
    cases hrefused
    have hne : adapter.phase ≠ .started := by rw [hphase]; nofun
    rw [h.unregister_eq hne, ← h.reader_eq hne]
    exact ⟨line, rfl⟩

end

/-- On a serial line on which no call fails any more, a request has changed nothing, whatever it is refused for. -/
theorem Attended.respond_refused {adapter : Adapter SerialLine} (h : adapter.Attended)
    (hahead : adapter.line.ahead = []) {request : Request} {fault : Fault}
    (hrefused : (adapter.respond request).reply = .refused fault) :
    adapter.respond request = ⟨adapter, .refused fault, [], []⟩ := by
  have heffect : Effect adapter (.request request) (adapter.respond request) := react_effect adapter (.request request)
  generalize adapter.respond request = reaction at heffect hrefused ⊢
  cases heffect with
  | declined hdeclined =>
    cases hrefused
    rfl
  | start => cases hrefused
  | configure => cases hrefused
  | close => cases hrefused
  | @startFailed hphase line met hopening noRetransmit failsAt =>
    cases hrefused
    have hne : adapter.phase ≠ .started := by rw [hphase]; nofun
    have hline : line = adapter.line := SerialLine.line_of_opening hahead hopening
    rw [h.unregister_eq hne, ← h.reader_eq hne, hline]
  | @send batch hphase hcheck inTime sending hcourse =>
    have hout : sending.outcome = .refused fault := Reply.ofOutcome_eq_refused hrefused
    have hfit := (Batch.check_eq_ok_iff.1 hcheck).2.2.1
    rw [SerialLine.course_refused hahead hfit hcourse hout]
    rfl

end Slcan.Adapter

/-- Whatever has happened to an adapter, its handler and its reader are there just while it is started. -/
theorem Slcan.Adapter.attended_after {Port : Type} [SerialPort Port] {line : Except Fault Port} {bitrate : Bitrate}
    {slots : Nat} {adapter : Adapter Port} (h : connect line bitrate slots = .ok adapter) (events : List Event) :
    (adapter.after events).Attended := by
  have hattended := (attended_of_connect h).1
  clear h
  induction events generalizing adapter with
  | nil => exact hattended
  | cons event events ih =>
    rw [after_cons]
    exact ih (hattended.effect (react_effect adapter event))

/-- **Refusals.**  An operation that a network refuses and a request that an SLCAN adapter itself refuses change
nothing, write nothing and call no handler.  Only a transmission that meets an armed fault has used it up, and is
refused with it.  If the port refuses the start of an adapter, everything but the port is as it was; and on a serial
line on which no call fails any more, but whose far side may be gone, every refused request has changed nothing. -/
theorem refused_changes_nothing :
    (∀ (net : Network) (op : Network.Operation) (fault : Fault), (net.apply op).answer = .refused fault →
      (net.apply op).calls = [] ∧ ((net.apply op).net = net ∨
        ∃ n frames station, op = .send n frames ∧ net.station? n = some station ∧ station.phase = .started ∧
          station.fault = some fault ∧ (net.apply op).net = net.put n { station with fault := none })) ∧
    (∀ (net : Network) (n : Nat) (frames : List Frame) (station : Station) (fault : Fault),
      net.station? n = some station → station.phase = .started → station.fault = some fault →
        net.apply (.send n frames) = ⟨net.put n { station with fault := none }, .refused fault, []⟩) ∧
    (∀ (Port : Type) [Slcan.SerialPort Port] (adapter : Slcan.Adapter Port) (request : Request) (fault : Fault),
      (adapter.respond request).reply = .refused fault → fault.isReported = false →
        adapter.respond request = ⟨adapter, .refused fault, [], []⟩) ∧
    (∀ (Port : Type) [Slcan.SerialPort Port] (line : Except Fault Port) (bitrate : Bitrate) (slots : Nat)
      (adapter : Slcan.Adapter Port) (events : List Slcan.Event) (noRetransmit : Bool) (failsAt : List Nat)
      (fault : Fault), Slcan.Adapter.connect line bitrate slots = .ok adapter →
        ((adapter.after events).respond (.start noRetransmit failsAt)).reply = .refused fault →
          ∃ port, (adapter.after events).respond (.start noRetransmit failsAt) =
            ⟨{ adapter.after events with line := port }, .refused fault, [], []⟩) ∧
    ∀ (line : Except Fault Slcan.SerialLine) (bitrate : Bitrate) (slots : Nat)
      (adapter : Slcan.Adapter Slcan.SerialLine) (events : List Slcan.Event) (request : Request) (fault : Fault),
        Slcan.Adapter.connect line bitrate slots = .ok adapter → (adapter.after events).line.ahead = [] →
          ((adapter.after events).respond request).reply = .refused fault →
            (adapter.after events).respond request = ⟨adapter.after events, .refused fault, [], []⟩ := by
  refine ⟨?_, ?_, ?_, ?_, ?_⟩
  · intro net op fault h
    rcases Network.apply_refused h with ⟨-, hquiet⟩ | ⟨n, frames, station, hop, hstation, hphase, hfault, hmet⟩
    · rw [hquiet]
      exact ⟨rfl, .inl rfl⟩
    · rw [hmet]
      exact ⟨rfl, .inr ⟨n, frames, station, hop, hstation, hphase, hfault, rfl⟩⟩
  · intro net n frames station fault h hphase hfault
    exact Network.apply_of_armed h hphase hfault frames
  · intro Port _ adapter request fault h hown
    exact Slcan.Adapter.respond_declined h hown
  · intro Port _ line bitrate slots adapter events noRetransmit failsAt fault hconnect h
    exact (Slcan.Adapter.attended_after hconnect events).start_refused h
  · intro line bitrate slots adapter events request fault hconnect hahead h
    exact (Slcan.Adapter.attended_after hconnect events).respond_refused hahead h

/-- A network with a fault armed at a started station. -/
def Network.strained : Network := crowd.after [.arm 0 .timeout]

/-- An SLCAN adapter that was started and closed again. -/
def Slcan.Adapter.spent : Adapter SerialLine :=
  ⟨⟨speedCommand .kbit500 ++ openCommand ++ closeCommand, true, []⟩, .ofSize 2, .closed, true, none, []⟩

theorem refused_changes_nothing_strained :
    Network.strained.apply (.send 0 []) = ⟨Network.crowd, .refused .timeout, []⟩ ∧
      (Network.strained.apply (.configure 0 [.dead, .dead])).net = Network.strained ∧
      Slcan.Adapter.spent.respond (.send mixedBatch 2) = ⟨Slcan.Adapter.spent, .refused .closed, [], []⟩ := by
  obtain ⟨hnet, harmed, hserial, -⟩ := refused_changes_nothing
  have hstation : Network.strained.station? 0 =
      some ⟨0, 64, .started, true, some .timeout, ⟨⟨[.promiscuous none]⟩, .fresh (some ⟨0, []⟩), []⟩⟩ := by decide
  refine ⟨(harmed _ 0 [] _ _ hstation rfl rfl).trans (by decide), ?_, hserial _ _ _ _ rfl rfl⟩
  rcases (hnet Network.strained (.configure 0 [.dead, .dead]) (.contract .moreFiltersThanSlots) (by decide)).2 with
    hsame | ⟨n, frames, station, hop, -⟩
  · exact hsame
  · cases hop

end CanBus
