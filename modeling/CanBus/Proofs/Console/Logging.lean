import CanBus.Console.Run
import CanBus.Proofs.Console.Files
import CanBus.Text.JsonReader

/-!
# Logging — what the file of a log holds

What is added to a log is in its file or waits in its buffer (`Logged`), and once the buffer was written the file holds
it all.  So the log of a command that shows the frames which come in holds the header and a line for each of them
(`sniff_logs`), however the command ends.
-/

namespace CanBus.Console

open Capture (Header Received logText)

/-! ## Programs over rehearsals -/

/-- A program over a rehearsal: how it ends, and the rehearsal then. -/
def rehearse {α : Type} (p : Program (StateM Rehearsal) α) (r : Rehearsal) : Except Refusal α × Rehearsal :=
  StateT.run (ExceptT.run p) r

section

variable {α β : Type} {p : Program (StateM Rehearsal) α} {f : α → Program (StateM Rehearsal) β} {r r' : Rehearsal}

theorem rehearse_pure (a : α) (r : Rehearsal) : rehearse (pure a) r = (.ok a, r) := rfl

theorem rehearse_lift (act : StateM Rehearsal α) (r : Rehearsal) :
    rehearse (ExceptT.lift act) r = (.ok (StateT.run act r).1, (StateT.run act r).2) := rfl

theorem rehearse_bind (p : Program (StateM Rehearsal) α) (f : α → Program (StateM Rehearsal) β) (r : Rehearsal) :
    rehearse (p >>= f) r =
      match rehearse p r with
      | (.ok a, r') => rehearse (f a) r'
      | (.error refusal, r') => (.error refusal, r') := by
  have hbind : rehearse (p >>= f) r =
      StateT.run (ExceptT.bindCont f (rehearse p r).1) (rehearse p r).2 := rfl
  rw [hbind]
  rcases rehearse p r with ⟨refusal | a, r'⟩ <;> rfl

theorem rehearse_tryCatch (p : Program (StateM Rehearsal) α) (handle : Refusal → Program (StateM Rehearsal) α)
    (r : Rehearsal) :
    rehearse (tryCatch p handle) r =
      match rehearse p r with
      | (.ok a, r') => (.ok a, r')
      | (.error refusal, r') => rehearse (handle refusal) r' := by
  show StateT.run (ExceptT.tryCatch p handle) r = _
  unfold rehearse ExceptT.tryCatch ExceptT.mk
  rw [StateT.run_bind, ExceptT.run]
  cases StateT.run p r with
  | mk result r' => cases result <;> rfl

/-- What the host does by itself always ends well. -/
theorem rehearse_lift_bind {γ : Type} (act : StateM Rehearsal γ) (f : γ → Program (StateM Rehearsal) β)
    (r : Rehearsal) :
    rehearse (ExceptT.lift act >>= f) r = rehearse (f (StateT.run act r).1) (StateT.run act r).2 := by
  rw [rehearse_bind, rehearse_lift]

theorem rehearse_bind_of_ok {a : α} (h : rehearse p r = (.ok a, r')) : rehearse (p >>= f) r = rehearse (f a) r' := by
  rw [rehearse_bind, h]

end

/-! ## Writing -/

theorem run_attempt (change : Rehearsal → Except SystemError Rehearsal) (r : Rehearsal) :
    StateT.run (attempt change) r =
      match change r with
      | .error e => (.error e.message, r)
      | .ok r' => (.ok (), r') := by
  have hrun : StateT.run (attempt change) r = StateT.run (m := Id) (match change r with
      | .error e => pure (.error e.message)
      | .ok r' => do
        set r'
        return .ok ()) r := rfl
  rw [hrun]
  cases change r <;> rfl

section

variable {r : Rehearsal} {path : String} {cs : List Char} {buffer : LogBuffer}

/-- Texts that are written to a file come behind what it held, and nothing else happens. -/
theorem write_holds (h : r.tree.Holds path cs) (texts : List String) :
    ∃ tree, rehearse (write path texts) r = (.ok (), { r with tree := tree }) ∧
      tree.Holds path (cs ++ texts.flatMap String.toList) := by
  induction texts generalizing r cs with
  | nil => exact ⟨r.tree, rfl, by simpa using h⟩
  | cons text rest ih =>
    by_cases hempty : text = ""
    · obtain ⟨tree, hrest, hholds⟩ := ih h
      refine ⟨tree, ?_, by simpa [hempty] using hholds⟩
      rw [← hrest, write, if_neg (by simpa using hempty)]
    · obtain ⟨mid, happend, hmid⟩ := Rehearsal.append_of_holds h text
      obtain ⟨tree, hrest, hholds⟩ := ih (r := { r with tree := mid }) hmid
      have hrun : StateT.run (Host.append path text : StateM Rehearsal _) r = (.ok (), { r with tree := mid }) := by
        show StateT.run (attempt _) r = _
        rw [run_attempt, happend]
      refine ⟨tree, ?_, by simpa using hholds⟩
      rw [write, if_pos hempty, rehearse_lift_bind, hrun]
      exact hrest

/-- What was added to a log: it is in the file, but for what waits. -/
def Logged (tree : FileTree) (buffer : LogBuffer) (cs : List Char) : Prop :=
  ∃ written, tree.Holds buffer.path written ∧ written ++ buffer.waiting.toList = cs

theorem addText_logged (h : Logged r.tree buffer cs) (text : String) :
    ∃ tree after, rehearse (addText buffer text) r = (.ok after, { r with tree := tree }) ∧ after.path = buffer.path ∧
      Logged tree after (cs ++ text.toList) := by
  obtain ⟨written, hholds, rfl⟩ := h
  obtain ⟨tree, hwrite, hholds'⟩ := write_holds hholds (buffer.put text).1
  refine ⟨tree, (buffer.put text).2, rehearse_bind_of_ok hwrite, buffer.path_put text, _,
    (buffer.path_put text).symm ▸ hholds', ?_⟩
  rw [List.append_assoc, buffer.put_text, List.append_assoc]

theorem addLine_logged (h : Logged r.tree buffer cs) (line : List Char) :
    ∃ tree after, rehearse (addLine (some buffer) line) r = (.ok (some after), { r with tree := tree }) ∧
      after.path = buffer.path ∧ Logged tree after (cs ++ (line ++ ['\n'])) := by
  obtain ⟨tree, mid, hline, hmid, hlogged⟩ := addText_logged h (String.ofList line)
  obtain ⟨tree', after, hbreak, hafter, hlogged'⟩ := addText_logged (r := { r with tree := tree }) hlogged "\n"
  refine ⟨tree', after, ?_, hafter.trans hmid, by simpa using hlogged'⟩
  show rehearse (addText buffer _ >>= fun mid => addText mid "\n" >>= fun after => pure (some after)) r = _
  rw [rehearse_bind_of_ok hline, rehearse_bind_of_ok hbreak, rehearse_pure]

/-- Once what waits was written, all of it is in the file. -/
theorem flush_logged (h : Logged r.tree buffer cs) :
    ∃ tree, rehearse (flush (some buffer)) r = (.ok (), { r with tree := tree }) ∧ tree.Holds buffer.path cs := by
  obtain ⟨written, hholds, rfl⟩ := h
  simpa [flush] using write_holds hholds [buffer.waiting]

/-- A log begins with its header. -/
theorem beginLog_logged [Json.Codec] (h : r.tree.Free path) (target : Target) :
    ∃ tree buffer, rehearse (beginLog target (some path)) r = (.ok (some buffer), { r with tree := tree }) ∧
      buffer.path = path ∧ Logged tree buffer
        ((Header.make target.backend.label target.device (target.bitrate.map (·.name))).line ++ ['\n']) := by
  obtain ⟨tree, hcreate, hholds⟩ := Rehearsal.create_of_free h
  have hrun : StateT.run (Host.create path : StateM Rehearsal _) r = (.ok (), { r with tree := tree }) := by
    show StateT.run (attempt _) r = _
    rw [run_attempt, hcreate]
  have hlogged : Logged tree ⟨path, ""⟩ [] := ⟨[], hholds, rfl⟩
  obtain ⟨tree', after, hline, hafter, hlogged'⟩ := addLine_logged (r := { r with tree := tree }) hlogged
    (Header.make target.backend.label target.device (target.bitrate.map (·.name))).line
  refine ⟨tree', after, ?_, hafter, hlogged'⟩
  rw [beginLog, rehearse_lift_bind, hrun]
  exact hline

/-- Add lines to a log one after the other. -/
def addLines {m : Type → Type} [Monad m] [Host m] (log : Option LogBuffer) :
    List (List Char) → Program m (Option LogBuffer)
  | [] => return log
  | line :: lines => do addLines (← addLine log line) lines

theorem addLines_logged (h : Logged r.tree buffer cs) (lines : List (List Char)) :
    ∃ tree after, rehearse (addLines (some buffer) lines) r = (.ok (some after), { r with tree := tree }) ∧
      after.path = buffer.path ∧ Logged tree after (cs ++ lines.flatMap (· ++ ['\n'])) := by
  induction lines generalizing r buffer cs with
  | nil => exact ⟨r.tree, buffer, rfl, rfl, by simpa using h⟩
  | cons line lines ih =>
    obtain ⟨tree, mid, hline, hmid, hlogged⟩ := addLine_logged h line
    obtain ⟨tree', after, hlines, hafter, hlogged'⟩ := ih (r := { r with tree := tree }) hlogged
    refine ⟨tree', after, ?_, hafter.trans hmid, by simpa using hlogged'⟩
    rw [addLines, rehearse_bind_of_ok hline]
    exact hlines

end

/-! ## Programs that write to no file -/

/-- Files and output stay as they are. -/
def Quiet {α : Type} (p : Program (StateM Rehearsal) α) : Prop :=
  ∀ r, (rehearse p r).2.tree = r.tree ∧ (rehearse p r).2.output = r.output

section

variable {α β : Type} {p : Program (StateM Rehearsal) α} {f : α → Program (StateM Rehearsal) β}

theorem Quiet.pure (a : α) : Quiet (pure a) := fun _ => ⟨rfl, rfl⟩

theorem Quiet.throw (refusal : Refusal) : Quiet (throw refusal : Program (StateM Rehearsal) α) := fun _ => ⟨rfl, rfl⟩

theorem Quiet.bind (hp : Quiet p) (hf : ∀ a, Quiet (f a)) : Quiet (p >>= f) := by
  intro r
  have h := hp r
  rw [rehearse_bind]
  generalize rehearse p r = run at h ⊢
  obtain ⟨refusal | a, r'⟩ := run
  · exact h
  · exact ⟨(hf _ r').1.trans h.1, (hf _ r').2.trans h.2⟩

theorem Quiet.require {ε : Type} (refusal : ε → Refusal) (result : Except ε α) : Quiet (require refusal result) := by
  cases result with
  | ok a => exact .pure a
  | error e => exact .throw (refusal e)

end

theorem quiet_settle (medium : Medium) : Quiet (settle medium) := by
  unfold settle
  split
  next bytes after =>
    split
    · exact .bind (fun _ => ⟨rfl, rfl⟩) fun _ => .bind (.require _ _) fun _ => .pure _
    · exact .pure _

theorem quiet_openSerial (device : String) (bitrate : Bitrate) : Quiet (openSerial device bitrate) :=
  .bind (fun _ => ⟨rfl, rfl⟩) fun _ => .bind (.require _ _) fun _ => quiet_settle _

theorem quiet_openTarget (target : Target) : Quiet (openTarget target) := by
  unfold openTarget
  cases target.backend.resolve target.device with
  | auto =>
    show Quiet (openDevice target.device)
    unfold openDevice
    cases Device.family target.device with
    | serialLine => exact quiet_openSerial _ _
    | kernelSocket => exact .throw _
  | virtual => exact .pure _
  | slcan => exact quiet_openSerial _ _
  | socketCan => exact .throw _

theorem quiet_startMedium (medium : Medium) : Quiet (startMedium medium) :=
  .bind (.require _ _) fun _ => quiet_settle _

theorem quiet_closeMedium (medium : Medium) : Quiet (closeMedium medium) :=
  .bind (fun _ => ⟨rfl, rfl⟩) fun _ => .bind (.require _ _) fun _ => quiet_settle _

theorem quiet_openFiltered (target : Target) (specs : List String) : Quiet (openFiltered target specs) :=
  .bind (quiet_openTarget target) fun _ => .bind (quiet_startMedium _) fun _ => .require _ _

/-! ## Waiting for frames -/

/-- The rehearsal with other files and other output. -/
def Rehearsal.rewritten (r : Rehearsal) (tree : FileTree) (output : String) : Rehearsal :=
  { r with tree := tree, output := output }

/-- Waiting for a frame over a rehearsal: the frame if one comes, the medium and the rehearsal then. -/
def awaited (patience : Nat) (medium : Medium) (r : Rehearsal) : (Option Frame × Medium) × Rehearsal :=
  StateT.run (m := Id) (awaitFrame patience medium) r

/-- Waiting looks at neither files nor output, and leaves them as they are. -/
theorem awaited_rewritten (patience : Nat) (medium : Medium) (r : Rehearsal) (tree : FileTree) (output : String) :
    awaited patience medium (r.rewritten tree output) =
      ((awaited patience medium r).1, (awaited patience medium r).2.rewritten tree output) := by
  induction patience generalizing medium r with
  | zero =>
    unfold awaited awaitFrame
    cases medium.take? <;> rfl
  | succ patience ih =>
    unfold awaited awaitFrame
    cases medium.take? with
    | some taken => rfl
    | none =>
      cases medium with
      | station net n => rfl
      | serial device adapter =>
        exact ih (.serial device (adapter.receive (StateT.run (Host.listen : StateM Rehearsal _) r).1).adapter)
          (StateT.run (Host.listen : StateM Rehearsal _) r).2

theorem awaited_keeps (patience : Nat) (medium : Medium) (r : Rehearsal) :
    (awaited patience medium r).2.tree = r.tree ∧ (awaited patience medium r).2.output = r.output := by
  have h : awaited patience medium r = _ := awaited_rewritten patience medium r r.tree r.output
  exact ⟨congrArg (·.2.tree) h, congrArg (·.2.output) h⟩

theorem rehearse_awaitFrame_bind {β : Type} (patience : Nat) (medium : Medium)
    (f : Option Frame × Medium → Program (StateM Rehearsal) β) (r : Rehearsal) :
    rehearse (ExceptT.lift (awaitFrame patience medium) >>= f) r =
      rehearse (f (awaited patience medium r).1) (awaited patience medium r).2 :=
  rehearse_lift_bind (awaitFrame patience medium) f r

/-- The frames that come in, at most `count` of them, each waited for with a heartbeat on its way. -/
def incoming (idle : Nat) : Nat → Medium → Rehearsal → List Received
  | 0, _, _ => []
  | count + 1, medium, r =>
    match awaited idle (withHeartbeat medium) r with
    | ((none, _), _) => []
    | ((some frame, medium), r) => ⟨frame, Rehearsal.time⟩ :: incoming idle count medium r

theorem incoming_rewritten (idle count : Nat) (medium : Medium) (r : Rehearsal) (tree : FileTree) (output : String) :
    incoming idle count medium (r.rewritten tree output) = incoming idle count medium r := by
  induction count generalizing medium r with
  | zero => rfl
  | succ count ih =>
    rw [incoming, incoming, awaited_rewritten]
    rcases awaited idle (withHeartbeat medium) r with ⟨⟨_ | frame, medium⟩, r⟩
    · rfl
    · exact congrArg _ (ih medium r)

/-! ## Showing frames -/

/-- The output that shows frames as they came in. -/
def shown (received : List Received) : List Char := received.flatMap fun each => (frameLine each).toList ++ ['\n']

/-- The lines of a log for frames. -/
def recordLines [Json.Codec] (received : List Received) : List Char := received.flatMap (·.record.line ++ ['\n'])

theorem line_recordLines [Json.Codec] (header : Header) (received : List Received) :
    header.line ++ ['\n'] ++ recordLines received = logText header received := by
  rw [logText, List.append_assoc]
  rfl

/-- **Every frame that comes in is shown and logged**, and nothing else is. -/
theorem capture_logs [Json.Codec] {r : Rehearsal} {buffer : LogBuffer} {cs : List Char}
    (h : Logged r.tree buffer cs) (idle count : Nat) (medium : Medium) :
    ∃ after medium' r', rehearse (capture idle count (some buffer) medium) r = (.ok (some after, medium'), r') ∧
      after.path = buffer.path ∧ Logged r'.tree after (cs ++ recordLines (incoming idle count medium r)) ∧
      r'.output.toList = r.output.toList ++ shown (incoming idle count medium r) := by
  induction count generalizing r buffer cs medium with
  | zero => exact ⟨buffer, medium, r, rfl, rfl, by simpa [incoming, recordLines] using h, by simp [incoming, shown]⟩
  | succ count ih =>
    rw [capture, rehearse_awaitFrame_bind, incoming]
    have hkeeps := awaited_keeps idle (withHeartbeat medium) r
    generalize awaited idle (withHeartbeat medium) r = found at hkeeps ⊢
    obtain ⟨⟨frame?, medium⟩, r₁⟩ := found
    obtain ⟨htree, houtput⟩ : r₁.tree = r.tree ∧ r₁.output = r.output := hkeeps
    rw [← htree] at h
    rw [← houtput]
    cases frame? with
    | none => exact ⟨buffer, medium, r₁, rfl, rfl, by simpa [recordLines] using h, by simp [shown]⟩
    | some frame =>
      let received : Received := ⟨frame, Rehearsal.time⟩
      let printed := r₁.print (frameLine received ++ "\n")
      have hsay : rehearse (say (frameLine received)) r₁ = (.ok (), printed) := rfl
      obtain ⟨tree, mid, hline, hmid, hlogged⟩ := addLine_logged (r := printed) h received.record.line
      obtain ⟨after, medium', r', hrest, hafter, hlogged', hshown⟩ :=
        ih (r := { printed with tree := tree }) hlogged medium
      have hsame : incoming idle count medium { printed with tree := tree } = incoming idle count medium r₁ :=
        incoming_rewritten idle count medium r₁ tree printed.output
      rw [hsame] at hlogged' hshown
      refine ⟨after, medium', r', ?_, hafter.trans hmid, ?_, ?_⟩
      · show rehearse (say (frameLine received) >>= fun _ => addLine (some buffer) received.record.line >>= fun log =>
          capture idle count log medium) r₁ = _
        rw [rehearse_bind_of_ok hsay, rehearse_bind_of_ok hline]
        exact hrest
      · simpa [recordLines, received] using hlogged'
      · rw [hshown]
        simp [shown, printed, received, Rehearsal.print]

/-- So all of them are in the file once what waits was written, and stay there when the medium is closed. -/
theorem capture_holds [Json.Codec] {r : Rehearsal} {buffer : LogBuffer} {cs : List Char}
    (h : Logged r.tree buffer cs) (idle count : Nat) (medium : Medium) :
    ∃ result r', rehearse (do
        let (log, medium) ← capture idle count (some buffer) medium
        flush log
        let _ ← closeMedium medium) r = (result, r') ∧
      r'.output.toList = r.output.toList ++ shown (incoming idle count medium r) ∧
      r'.tree.Holds buffer.path (cs ++ recordLines (incoming idle count medium r)) := by
  obtain ⟨after, medium', r₁, hcapture, hafter, hlogged, hshown⟩ := capture_logs h idle count medium
  obtain ⟨tree, hflush, hholds⟩ := flush_logged hlogged
  let closing : Program (StateM Rehearsal) Unit := do
    let _ ← closeMedium medium'
  have hquiet : Quiet closing := .bind (quiet_closeMedium medium') fun _ => .pure ()
  obtain ⟨htree, houtput⟩ := hquiet { r₁ with tree := tree }
  refine ⟨(rehearse closing { r₁ with tree := tree }).1, (rehearse closing { r₁ with tree := tree }).2, ?_, ?_, ?_⟩
  · rw [rehearse_bind_of_ok hcapture]
    exact rehearse_bind_of_ok hflush
  · rw [houtput, hshown]
  · rw [htree, ← hafter]
    exact hholds

/-! ## Commands -/

/-- When an act ends the program, what waits is written first. -/
theorem rehearse_guarding {α : Type} (log : Option LogBuffer) (act : Program (StateM Rehearsal) α) (r : Rehearsal) :
    rehearse (guarding log act) r =
      match rehearse act r with
      | (.ok a, r') => (.ok a, r')
      | (.error refusal, r') => (.error refusal, (rehearse (flush log) r').2) := by
  rw [guarding, rehearse_tryCatch]
  rcases rehearse act r with ⟨refusal | a, r'⟩ <;> rfl

/-- The frames that come in while a command shows them: none if nothing can be opened. -/
def sniffed [Json.Codec] (target : Target) (count idle : Nat) (specs : List String) (path : String) (r : Rehearsal) :
    List Received :=
  match rehearse (openFiltered target specs) (rehearse (beginLog target (some path)) r).2 with
  | (.error _, _) => []
  | (.ok medium, r) => incoming idle count (withPeer medium) r

/-- **The log of the frames that come in**: however the command ends, the file holds the header and a line for each
frame that came in, in their order, and each of them was shown. -/
theorem sniff_logs [Json.Codec] {r : Rehearsal} {path : String} (h : r.tree.Free path) (target : Target)
    (count idle : Nat) (specs : List String) :
    ∃ result r', rehearse (sniff target count idle specs (some path)) r = (result, r') ∧
      r'.output.toList = r.output.toList ++ shown (sniffed target count idle specs path r) ∧
      r'.tree.Holds path (logText (Header.make target.backend.label target.device (target.bitrate.map (·.name)))
        (sniffed target count idle specs path r)) := by
  obtain ⟨tree, buffer, hbegin, hpath, hlogged⟩ := beginLog_logged h target
  have hopened := quiet_openFiltered target specs { r with tree := tree }
  rw [sniff, sniffed, rehearse_bind_of_ok hbegin, hbegin, rehearse_bind, rehearse_guarding]
  generalize rehearse (openFiltered target specs) { r with tree := tree } = opened at hopened ⊢
  obtain ⟨opened, r₁⟩ := opened
  obtain ⟨htree, houtput⟩ : r₁.tree = tree ∧ r₁.output = r.output := hopened
  rw [← htree] at hlogged
  rw [← hpath, ← houtput]
  cases opened with
  | error refusal =>
    -- nothing was opened, and the header that waits is written
    obtain ⟨tree', hflush, hholds⟩ := flush_logged hlogged
    refine ⟨.error refusal, { r₁ with tree := tree' }, ?_, by simp [shown], ?_⟩
    · show (Except.error refusal, (rehearse (flush (some buffer)) r₁).2) = _
      rw [hflush]
    · rw [← line_recordLines]
      simpa [recordLines] using hholds
  | ok medium =>
    rw [← line_recordLines]
    exact capture_holds hlogged idle count (withPeer medium)

example : (sniffed ⟨"mock0", .auto, none⟩ 2 5 [] "a.srlog" (.fresh [] none none)).map (·.frame) =
    [heartbeat, heartbeat] := by decide +kernel

end CanBus.Console
