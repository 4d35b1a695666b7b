import CanBus.Proofs.Slcan.Codec
import CanBus.Proofs.Transmission
import CanBus.Slcan.Adapter

/-!
# Serial ports — what gets out

Serial lines keep to what is documented of serial ports (`SerialLine.documented`), and those on which nothing is going
to fail are steady (`SerialLine.steady`).  On every documented port the opening of a channel gets out its command or a
part of it (`written_opening`), and the writing of a frame gets out its line or a part of it (`wrote_write`).
-/

namespace CanBus.Slcan

open SerialPort (Documented Steady written writeAll)

/-! ## Serial lines -/

namespace SerialLine

/-- However the system answers, a part at the front gets out, and all of it if there is no failure. -/
theorem writeRest_spec (before : List UInt8) (ahead : List Answer) (bytes : List UInt8) :
    ∃ taken, taken <+: bytes ∧ (writeRest before ahead bytes).1.written = before ++ taken ∧
      ((writeRest before ahead bytes).2 = none ↔ taken = bytes) := by
  induction before, ahead, bytes using writeRest.induct with
  | case1 before ahead => exact ⟨[], List.prefix_rfl, by simp [writeRest], by simp [writeRest]⟩
  | case2 before bytes hne => exact ⟨bytes, List.prefix_rfl, by simp [writeRest], by simp [writeRest]⟩
  | case3 before ahead bytes hne => exact ⟨bytes, List.prefix_rfl, by simp [writeRest], by simp [writeRest]⟩
  | case4 before ahead bytes hne =>
    exact ⟨[], List.nil_prefix, by simp [writeRest], by simpa [writeRest] using Ne.symm hne⟩
  | case5 before n ahead bytes hne hn ih =>
    obtain ⟨taken, htaken, hwritten, hdone⟩ := ih
    rw [writeRest.eq_4 _ _ _ _ hne, if_neg hn]
    refine ⟨bytes.take n ++ taken, ?_, by rw [hwritten, List.append_assoc], hdone.trans ?_⟩
    · have hprefix := (List.prefix_append_right_inj (bytes.take n)).2 htaken
      rwa [List.take_append_drop] at hprefix
    · rw [← List.append_right_inj (bytes.take n), List.take_append_drop]
  | case6 before ahead bytes hne ih => simpa [writeRest] using ih
  | case7 before failure ahead bytes hne =>
    exact ⟨[], List.nil_prefix, by simp [writeRest], by simpa [writeRest] using Ne.symm hne⟩

theorem write_spec (line : SerialLine) (bytes : List UInt8) :
    ∃ taken, taken <+: bytes ∧ (line.write bytes).1.written = line.written ++ taken ∧
      ((line.write bytes).2 = none ↔ taken = bytes) := by
  cases bytes with
  | nil => exact ⟨[], List.prefix_rfl, (List.append_nil _).symm, by simp [write]⟩
  | cons b bytes =>
    have hne : b :: bytes ≠ [] := List.cons_ne_nil b bytes
    rw [write.eq_2 _ _ hne]
    cases line.connected with
    | true => exact writeRest_spec line.written line.ahead (b :: bytes)
    | false => exact ⟨[], List.nil_prefix, (List.append_nil _).symm, by simp⟩

theorem written_call (line : SerialLine) : line.call.1.written = line.written := by
  unfold call
  split <;> rfl

/-- A serial line is a port as it is documented. -/
instance documented : Documented SerialLine where
  writeAll_spec := write_spec
  written_setTimeout := written_call
  written_tryClone := written_call
  written_spawn := written_call
  written_hangUp _ := rfl

/-- The far side is there, and no call to come is going to fail. -/
structure Sure (line : SerialLine) : Prop where
  connected : line.connected = true
  ahead_eq : line.ahead = []

theorem call_of_ahead {line : SerialLine} (h : line.ahead = []) : line.call = (line, none) := by rw [call, h]

/-- With nothing ahead, a line takes everything, or nothing once the far side is gone. -/
theorem write_of_ahead {line : SerialLine} (h : line.ahead = []) (bytes : List UInt8) :
    line.write bytes =
      if line.connected ∨ bytes = [] then ({ line with written := line.written ++ bytes }, none)
      else (line, some gone) := by
  obtain ⟨before, connected, ahead⟩ := line
  obtain rfl : ahead = [] := h
  cases bytes with
  | nil => simp [write]
  | cons b bytes => cases connected <;> simp [write, writeRest]

theorem steady : Steady Sure where
  setTimeout := by
    intro line h
    have hcall : SerialPort.setTimeout line = (line, none) := by
      show (line.call.1, line.call.2.map _) = _
      rw [call_of_ahead h.ahead_eq]
      rfl
    rw [hcall]
    exact ⟨rfl, h⟩
  tryClone := by
    intro line h
    have hcall : SerialPort.tryClone line = (line, none) := by
      show (line.call.1, line.call.2.map _) = _
      rw [call_of_ahead h.ahead_eq]
      rfl
    rw [hcall]
    exact ⟨rfl, h⟩
  spawn := by
    intro line h
    have hcall : SerialPort.spawn line = (line, none) := call_of_ahead h.ahead_eq
    rw [hcall]
    exact ⟨rfl, h⟩
  writeAll := by
    intro line h bytes
    have hwrite : writeAll line bytes = ({ line with written := line.written ++ bytes }, none) := by
      show line.write bytes = _
      rw [write_of_ahead h.ahead_eq, if_pos (.inl h.connected)]
    rw [hwrite]
    exact ⟨rfl, h.connected, h.ahead_eq⟩

end SerialLine

/-! ## Opening -/

variable {Port : Type} [SerialPort Port]

namespace Adapter

/-- The opening of a channel gets out a part of its command, and all of it just if it succeeds. -/
theorem written_opening [Documented Port] (port : Port) :
    ∃ taken, taken <+: openCommand ∧ written (opening port).1 = written port ++ taken ∧
      ((opening port).2 = none ↔ taken = openCommand) := by
  have hclone := Documented.written_tryClone port
  unfold opening
  generalize SerialPort.tryClone port = cloned at hclone ⊢
  obtain ⟨line, _ | text⟩ := cloned
  · have hspawn := Documented.written_spawn line
    dsimp only at hclone ⊢
    generalize SerialPort.spawn line = spawned at hspawn ⊢
    obtain ⟨last, _ | failure⟩ := spawned
    · obtain ⟨taken, htaken, hwritten, hdone⟩ := Documented.writeAll_spec last openCommand
      dsimp only at hspawn ⊢
      refine ⟨taken, htaken, ?_, ?_⟩
      · rw [hwritten, hspawn, hclone]
      · rw [Option.map_eq_none_iff, hdone]
    · refine ⟨[], List.nil_prefix, ?_, nofun, nofun⟩
      exact hspawn.trans (hclone.trans (List.append_nil _).symm)
  · exact ⟨[], List.nil_prefix, hclone.trans (List.append_nil _).symm, nofun, nofun⟩

/-- What opening is refused with has been reported by the system. -/
theorem isReported_opening {port : Port} {fault : Fault} (h : (opening port).2 = some fault) :
    fault.isReported = true := by
  unfold opening at h
  generalize SerialPort.tryClone port = cloned at h
  obtain ⟨line, _ | text⟩ := cloned
  · dsimp only at h
    generalize SerialPort.spawn line = spawned at h
    obtain ⟨last, _ | failure⟩ := spawned
    · obtain ⟨failure, -, rfl⟩ := Option.map_eq_some_iff.1 h
      exact failure.isReported_fault
    · cases h
      exact failure.isReported_fault
  · cases h
    rfl

theorem opening_of_steady {good : Port → Prop} (h : Steady good) {port : Port} (hport : good port) :
    ∃ line, opening port = (line, none) ∧ good line := by
  obtain ⟨hclone, hcloned⟩ := h.tryClone hport
  obtain ⟨hspawn, hspawned⟩ := h.spawn hcloned
  obtain ⟨hwrite, hwritten⟩ := h.writeAll hspawned openCommand
  have hcloned' : SerialPort.tryClone port = ((SerialPort.tryClone port).1, none) := Prod.ext rfl hclone
  have hspawned' : SerialPort.spawn (SerialPort.tryClone port).1 =
      ((SerialPort.spawn (SerialPort.tryClone port).1).1, none) :=
    Prod.ext rfl hspawn
  refine ⟨_, ?_, hwritten⟩
  rw [opening, hcloned']
  dsimp only
  rw [hspawned']
  dsimp only
  rw [hwrite]
  rfl

end Adapter

/-! ## Writing frames -/

/-- What the writing of a frame has got out: its line, or a part of this that is not all of it. -/
inductive Wrote (port : Port) (frame : Frame) : Writing Port → Prop where
  | whole {port' : Port} {line : List UInt8} (hline : Line.encode frame = .ok line)
      (hwritten : written port' = written port ++ line) : Wrote port frame (.whole port')
  | late {port' : Port} {line taken : List UInt8} (hline : Line.encode frame = .ok line) (htaken : taken <+: line)
      (hmissing : taken ≠ line) (hwritten : written port' = written port ++ taken) : Wrote port frame (.late port')
  | declined {fault : Fault} (hline : Line.encode frame = .error fault) : Wrote port frame (.refused port fault)
  | refused {port' : Port} {fault : Fault} {line taken : List UInt8} (hline : Line.encode frame = .ok line)
      (htaken : taken <+: line) (hmissing : taken ≠ line) (hwritten : written port' = written port ++ taken)
      (hreported : fault.isReported = true) : Wrote port frame (.refused port' fault)

theorem nonempty_of_encode {frame : Frame} {line : List UInt8} (h : Line.encode frame = .ok line) : line ≠ [] := by
  obtain ⟨-, rfl⟩ := Line.encode_eq_ok_iff.1 h
  simp

/-- **One frame** on a documented port. -/
theorem wrote_write [Documented Port] (port : Port) (frame : Frame) :
    Wrote port frame ((wire Port).write port frame) := by
  unfold Wire.write
  cases hline : (wire Port).encode frame with
  | error fault => exact .declined hline
  | ok line =>
    have hlimit : written ((wire Port).limit port).1 = written port := Documented.written_setTimeout port
    have hreported : ∀ fault, ((wire Port).limit port).2 = some fault → fault.isReported = true := by
      intro fault hfault
      obtain ⟨text, -, rfl⟩ := Option.map_eq_some_iff.1 hfault
      rfl
    generalize (wire Port).limit port = limit at hlimit hreported ⊢
    obtain ⟨limited, _ | fault⟩ := limit
    · obtain ⟨taken, htaken, hwritten, hdone⟩ := Documented.writeAll_spec limited line
      have hput : (wire Port).put limited line = writeAll limited line := rfl
      dsimp only at hlimit ⊢
      rw [hput]
      rw [hlimit] at hwritten
      generalize writeAll limited line = put at hwritten hdone ⊢
      obtain ⟨last, _ | failure⟩ := put
      · obtain rfl := hdone.1 rfl
        exact .whole hline hwritten
      · have hmissing : taken ≠ line := fun h => nomatch hdone.2 h
        dsimp only
        by_cases hlate : (wire Port).isLate failure.kind = true
        · rw [if_pos hlate]
          exact .late hline htaken hmissing hwritten
        · rw [if_neg hlate]
          exact .refused hline htaken hmissing hwritten failure.isReported_fault
    · exact .refused hline List.nil_prefix (nonempty_of_encode hline).symm (hlimit.trans (List.append_nil _).symm)
        (hreported fault rfl)

/-- What the writing of a frame that fits is refused with has been reported by the system. -/
theorem isReported_write {port last : Port} {frame : Frame} (hfit : frame.payload.length ≤ maxPayload) {fault : Fault}
    (h : (wire Port).write port frame = .refused last fault) : fault.isReported = true := by
  have hline : (wire Port).encode frame = .ok _ := Line.encode_eq_ok_iff.2 ⟨hfit, rfl⟩
  have hlimit : ∀ fault, ((wire Port).limit port).2 = some fault → fault.isReported = true := by
    intro fault hfault
    obtain ⟨text, -, rfl⟩ := Option.map_eq_some_iff.1 hfault
    rfl
  rw [Wire.write, hline] at h
  dsimp only at h
  generalize (wire Port).limit port = limit at h hlimit
  obtain ⟨limited, _ | met⟩ := limit
  · dsimp only at h
    generalize (wire Port).put limited _ = put at h
    obtain ⟨next, _ | failure⟩ := put
    · cases h
    · dsimp only at h
      split at h
      · cases h
      · cases h
        exact failure.isReported_fault
  · cases h
    exact hlimit _ rfl

/-- A steady port takes every frame that fits. -/
theorem write_of_steady {good : Port → Prop} (h : Steady good) {port : Port} (hport : good port) {frame : Frame}
    (hfit : frame.payload.length ≤ maxPayload) :
    ∃ last, (wire Port).write port frame = .whole last ∧ good last := by
  obtain ⟨hlimit, hlimited⟩ := h.setTimeout hport
  obtain ⟨line, hline⟩ : ∃ line, (wire Port).encode frame = .ok line := ⟨_, Line.encode_eq_ok_iff.2 ⟨hfit, rfl⟩⟩
  obtain ⟨hput, hlast⟩ := h.writeAll hlimited line
  have hlimit' : (wire Port).limit port = ((SerialPort.setTimeout port).1, none) := by
    show ((SerialPort.setTimeout port).1, (SerialPort.setTimeout port).2.map Fault.io) = _
    rw [hlimit]
    rfl
  have hput' : (wire Port).put (SerialPort.setTimeout port).1 line =
      ((writeAll (SerialPort.setTimeout port).1 line).1, none) := Prod.ext rfl hput
  refine ⟨_, ?_, hlast⟩
  rw [Wire.write, hline]
  dsimp only
  rw [hlimit']
  dsimp only
  rw [hput']

/-- It takes them one after the other. -/
theorem takes_of_steady {good : Port → Prop} (h : Steady good) {port : Port} (hport : good port) {frames : List Frame}
    (hfit : ∀ frame ∈ frames, frame.payload.length ≤ maxPayload) :
    ∃ last, Takes (wire Port).write port frames last ∧ good last := by
  induction frames generalizing port with
  | nil => exact ⟨port, .nil port, hport⟩
  | cons frame rest ih =>
    obtain ⟨hframe, hrest⟩ := List.forall_mem_cons.1 hfit
    obtain ⟨next, hwrite, hnext⟩ := write_of_steady h hport hframe
    obtain ⟨last, htakes, hlast⟩ := ih hnext hrest
    exact ⟨last, .cons hwrite htakes, hlast⟩

/-! ### Serial lines on which nothing fails any more -/

namespace SerialLine

variable {line : SerialLine}

theorem limit_of_ahead (h : line.ahead = []) : (wire SerialLine).limit line = (line, none) := by
  have hcall : SerialPort.setTimeout line = (line, none) := by
    show (line.call.1, line.call.2.map _) = _
    rw [call_of_ahead h]
    rfl
  show ((SerialPort.setTimeout line).1, (SerialPort.setTimeout line).2.map Fault.io) = _
  rw [hcall]
  rfl

/-- Once the far side is gone, every frame is refused, and nothing is written. -/
theorem write_of_gone (h : line.ahead = []) (hgone : line.connected = false) {frame : Frame}
    (hfit : frame.payload.length ≤ maxPayload) : (wire SerialLine).write line frame = .refused line gone.fault := by
  have hline : (wire SerialLine).encode frame = .ok _ := Line.encode_eq_ok_iff.2 ⟨hfit, rfl⟩
  have hput : (wire SerialLine).put line (ascii (Line.body frame) ++ [carriageReturn]) = (line, some gone) := by
    show line.write (ascii (Line.body frame) ++ [carriageReturn]) = (line, some gone)
    rw [write_of_ahead h, if_neg (by simp [hgone])]
  rw [Wire.write, hline]
  dsimp only
  rw [limit_of_ahead h]
  dsimp only
  rw [hput]
  rfl

theorem takes_of_gone (h : line.ahead = []) (hgone : line.connected = false) {frames : List Frame}
    (hfit : ∀ frame ∈ frames, frame.payload.length ≤ maxPayload) {last : SerialLine}
    (htakes : Takes (wire SerialLine).write line frames last) : frames = [] ∧ last = line := by
  cases htakes with
  | nil => exact ⟨rfl, rfl⟩
  | cons hwrite hrest => cases hwrite.symm.trans (write_of_gone h hgone (hfit _ List.mem_cons_self))

/-- So a line on which no call fails any more has taken frames at the front of the batch, and nothing of the others. -/
theorem takes_of_course (h : line.ahead = []) {receiver : Receiver} {batch : List Frame}
    (hfit : ∀ frame ∈ batch, frame.payload.length ≤ maxPayload) {inTime sent : Nat} {sending : Sending SerialLine}
    (hcourse : Course (wire SerialLine).write line receiver inTime sent batch sending) :
    ∃ front, front <+: batch ∧ Takes (wire SerialLine).write line front sending.line := by
  cases hconnected : line.connected with
  | true =>
    obtain ⟨last, htakes, -⟩ := takes_of_steady steady ⟨hconnected, h⟩ hfit
    exact (hcourse.of_takes htakes).1
  | false =>
    obtain ⟨front, mid, hfront, htakes, hend⟩ := hcourse.taken
    have hfits : ∀ frame ∈ front, frame.payload.length ≤ maxPayload := fun f hf => hfit f (hfront.subset hf)
    obtain ⟨rfl, rfl⟩ := takes_of_gone h hconnected hfits htakes
    refine ⟨[], hfront, ?_⟩
    rcases hend with hsame | ⟨frame, hframe, hwrite⟩
    · rw [hsame]
      exact htakes
    · have hgone := write_of_gone h hconnected (hfit frame (hframe.subset (by simp)))
      rcases hwrite with hlate | ⟨fault, hrefused⟩
      · cases hgone.symm.trans hlate
      · cases hgone.symm.trans hrefused
        exact htakes

/-- A transmission that is refused has written nothing then, and handed nothing back. -/
theorem course_refused (h : line.ahead = []) {receiver : Receiver} {batch : List Frame}
    (hfit : ∀ frame ∈ batch, frame.payload.length ≤ maxPayload) {inTime sent : Nat} {sending : Sending SerialLine}
    (hcourse : Course (wire SerialLine).write line receiver inTime sent batch sending) {fault : Fault}
    (hout : sending.outcome = .refused fault) : sending = ⟨line, receiver, .refused fault, []⟩ := by
  cases hconnected : line.connected with
  | true =>
    -- a line that holds takes every frame of the batch
    obtain ⟨last, htakes, -⟩ := takes_of_steady steady ⟨hconnected, h⟩ hfit
    obtain ⟨-, hdone | hfailed⟩ := hcourse.of_takes htakes
    · cases hdone.symm.trans hout
    · cases hfailed.symm.trans hout
  | false =>
    cases hcourse with
    | done => cases hout
    | late => cases hout
    | failed => cases hout
    | @refused front back frame mid last met hbatch htime htakes hwrite =>
      cases hout
      have hfits : ∀ f ∈ front, f.payload.length ≤ maxPayload := fun f hf => hfit f (by simp [hbatch, hf])
      obtain ⟨rfl, rfl⟩ := takes_of_gone h hconnected hfits htakes
      cases (write_of_gone h hconnected (hfit frame (by simp [hbatch]))).symm.trans hwrite
      rw [receiver.echoes_nil, receiver.afterCalls_nil]

/-- An attempt at opening that fails has written nothing then. -/
theorem line_of_opening (h : line.ahead = []) {last : SerialLine} {fault : Fault}
    (hopening : Adapter.opening line = (last, some fault)) : last = line := by
  have hclone : SerialPort.tryClone line = (line, none) := by
    show (line.call.1, line.call.2.map _) = _
    rw [call_of_ahead h]
    rfl
  have hspawn : SerialPort.spawn line = (line, none) := call_of_ahead h
  have hwrite : writeAll line openCommand = _ := write_of_ahead h openCommand
  rw [Adapter.opening, hclone] at hopening
  dsimp only at hopening
  rw [hspawn] at hopening
  dsimp only at hopening
  rw [hwrite] at hopening
  split at hopening
  · cases hopening
  · cases hopening
    rfl

end SerialLine

end CanBus.Slcan
