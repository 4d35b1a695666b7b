import CanBus.Proofs.Media.Lines
import CanBus.Proofs.Media.Solo

/-!
# Interchange — every kind of adapter is seen alike

A station alone on a virtual bus, an SLCAN adapter on a steady port and an adapter on a kernel socket, each with the
same number of filter slots, are observed alike through every allowed run (`interchangeable`): they all refine the same
plain adapter.
-/

namespace CanBus

/-- An adapter of each kind before anything has happened. -/
def Plain.fresh (slots : Nat) : Plain := ⟨.created, false, .ofSize slots⟩

/-- A session can be taken up on a steady port. -/
theorem Slcan.Adapter.exists_connect {Port : Type} [SerialPort Port] {good : Port → Prop}
    (hsteady : SerialPort.Steady good) {port : Port} (hport : good port) (bitrate : Bitrate) {slots : Nat}
    (h : slots ≠ 0) :
    ∃ adapter, connect (.ok port) bitrate slots = .ok adapter ∧ adapter.Presents good (.fresh slots) := by
  obtain ⟨-, hclosed⟩ := hsteady.writeAll hport closeCommand
  obtain ⟨hspeed, hset⟩ := hsteady.writeAll hclosed (speedCommand bitrate)
  exact ⟨_, connect_eq_ok_iff.2 ⟨h, _, Prod.ext rfl hspeed, rfl⟩, rfl, rfl, rfl, hset, rfl, nofun⟩

theorem SocketCan.Adapter.connect_fresh {slots : Nat} (h : slots ≠ 0) :
    connect (.ok .fresh) slots = .ok ⟨.fresh, .ofSize slots, .created, false, false, []⟩ := by
  rw [connect, if_neg h]
  rfl

theorem SocketCan.Adapter.presents_fresh (slots : Nat) :
    Presents ⟨.fresh, .ofSize slots, .created, false, false, []⟩ (.fresh slots) :=
  ⟨rfl, rfl, rfl, ⟨rfl, rfl⟩, rfl, nofun⟩

namespace Network

/-- A new bus and a station on it that takes classic frames. -/
theorem after_join {slots : Nat} (h : slots ≠ 0) :
    empty.after [.addBus, .join 0 8 slots] = solo (.fresh 0 8 slots) := by
  have hjoin : empty.addBus.1.join 0 8 slots = .ok (empty.addBus.1.enrol 0 8 slots, 0) :=
    join_eq_ok_iff.2 ⟨⟨by decide, h⟩, rfl, rfl⟩
  have happly : empty.addBus.1.apply (.join 0 8 slots) = (empty.addBus.1.enrol 0 8 slots).quiet (.joined 0) := by
    rw [apply, if_pos (by decide), hjoin]
  show (empty.addBus.1.apply (.join 0 8 slots)).net = _
  rw [happly]
  rfl

theorem presents_fresh (slots : Nat) : Presents (solo (.fresh 0 8 slots)) (.fresh slots) :=
  ⟨_, rfl, rfl, rfl, rfl, rfl, rfl, rfl, nofun⟩

end Network

/-- **Adapters are interchangeable.**  A virtual station, an SLCAN adapter on a steady port and an adapter on a kernel
socket with the same number of slots answer alike, retransmit alike and hand the same frames to their handlers, at every
step of every allowed run. -/
theorem interchangeable {Port : Type} [Slcan.SerialPort Port] {good : Port → Prop}
    (hsteady : Slcan.SerialPort.Steady good) {port : Port} (hport : good port) {slots : Nat} (hslots : 1 ≤ slots)
    (bitrate : Bitrate) {happenings : List Happening} (hallowed : Happening.AllAllowed .created happenings) :
    let net := Network.empty.after [.addBus, .join 0 8 slots]
    ∃ serial socket, Slcan.Adapter.connect (.ok port) bitrate slots = .ok serial ∧
      SocketCan.Adapter.connect (.ok .fresh) slots = .ok socket ∧
      net.station? 0 = some (.fresh 0 8 slots) ∧
      observations Slcan.Adapter.meet serial happenings = observations Network.meet net happenings ∧
      observations SocketCan.Adapter.meet socket happenings = observations Network.meet net happenings := by
  intro net
  have hne : slots ≠ 0 := by omega
  obtain ⟨serial, hserial, hpresents⟩ := Slcan.Adapter.exists_connect hsteady hport bitrate hne
  have hsocket := SocketCan.Adapter.connect_fresh hne
  have hnet : net = Network.solo (.fresh 0 8 slots) := Network.after_join hne
  have hplain : observations Network.meet net happenings = observations Plain.meet (.fresh slots) happenings := by
    rw [hnet]
    exact Network.refines.observations_eq (Network.presents_fresh slots) hallowed
  refine ⟨serial, _, hserial, hsocket, by rw [hnet]; rfl, ?_, ?_⟩
  · have hrefines : Refines Slcan.Adapter.meet (Slcan.Adapter.Presents good) := Slcan.Adapter.refines hsteady
    rw [hplain]
    exact hrefines.observations_eq hpresents hallowed
  · rw [hplain]
    exact SocketCan.Adapter.refines.observations_eq (SocketCan.Adapter.presents_fresh slots) hallowed

/-- A frame of the base format that asks to be handed back. -/
def probe : Frame := ⟨0x7DF, [2, 1, 13], .base, true, by decide, by decide⟩

/-- An ordinary run, with a request after its end. -/
def ordinaryRun : List Happening :=
  [.request (.start true []), .request (.configure [.promiscuous (some .base)]), .arrival probe,
    .request (.send [probe] 1), .request .close, .request (.send [probe] 1)]

/-- What is seen of the ordinary run. -/
def ordinaryView : List Observation :=
  [⟨.done, some false, []⟩, ⟨.done, some false, []⟩, ⟨.done, some false, [probe.tagged false]⟩,
    ⟨.sent 1, some false, [probe]⟩, ⟨.done, some false, []⟩, ⟨.refused .closed, some false, []⟩]

/-- `interchangeable` on the ordinary run and a serial line. -/
theorem interchangeable_ordinaryRun :
    1 ≤ 1 ∧ Happening.AllAllowed .created ordinaryRun ∧
      ∃ serial socket, Slcan.Adapter.connect (.ok Slcan.SerialLine.fresh) .kbit500 1 = .ok serial ∧
        SocketCan.Adapter.connect (.ok .fresh) 1 = .ok socket ∧
        observations Slcan.Adapter.meet serial ordinaryRun = ordinaryView ∧
        observations SocketCan.Adapter.meet socket ordinaryRun = ordinaryView := by
  have hallowed : Happening.AllAllowed .created ordinaryRun := by
    exact ⟨rfl, trivial, ⟨rfl, by decide⟩, Nat.le_refl 1, trivial, Nat.le_refl 1, trivial⟩
  have hview : observations Network.meet (Network.empty.after [.addBus, .join 0 8 1]) ordinaryRun = ordinaryView := by
    decide
  have hfresh : Slcan.SerialLine.fresh.Sure := ⟨rfl, rfl⟩
  obtain ⟨serial, socket, hserial, hsocket, -, hfirst, hsecond⟩ :=
    interchangeable Slcan.SerialLine.steady hfresh (Nat.le_refl 1) .kbit500 hallowed
  exact ⟨Nat.le_refl 1, hallowed, serial, socket, hserial, hsocket, hfirst.trans hview, hsecond.trans hview⟩

end CanBus
