import CanBus.Capture.Log
import CanBus.Console.Arguments
import CanBus.Console.Host
import CanBus.Console.LogBuffer
import CanBus.Console.Medium
import CanBus.Console.SelfTest

/-!
# Running commands

A command is a `Program` over any host: it ends well, or with a `Refusal` that `perform` reports.  Whatever was
written before a refusal stays written.
-/

namespace CanBus.Console

/-- A course of actions that may end with a refusal. -/
abbrev Program (m : Type → Type) := ExceptT Refusal m

variable {m : Type → Type} [Monad m] [Host m]

/-- The value, or the end of the program. -/
def require {ε α : Type} (refusal : ε → Refusal) (result : Except ε α) : Program m α :=
  match result with
  | .ok a => pure a
  | .error e => throw (refusal e)

/-- Write one line of output. -/
def say (line : String) : Program m Unit := ExceptT.lift (Host.print line)

/-- Pass on to the device what the medium has written. -/
def settle (medium : Medium) : Program m Medium := do
  let (bytes, medium) := medium.takeWritten
  if bytes ≠ [] then
    require .fault (← ExceptT.lift (Host.transmit bytes))
  return medium

/-! ## Logging -/

/-- Write texts to a file one after the other. -/
def write (path : String) : List String → Program m Unit
  | [] => pure ()
  | text :: rest => do
    if text ≠ "" then
      require .system (← ExceptT.lift (Host.append path text))
    write path rest

/-- Add a text to a log. -/
def addText (buffer : LogBuffer) (text : String) : Program m LogBuffer := do
  let (texts, after) := buffer.put text
  write buffer.path texts
  return after

/-- Add a line to the log, if one is kept. -/
def addLine (log : Option LogBuffer) (line : List Char) : Program m (Option LogBuffer) := do
  match log with
  | none => return none
  | some buffer => return some (← addText (← addText buffer (String.ofList line)) "\n")

/-- Write what waits. -/
def flush (log : Option LogBuffer) : Program m Unit :=
  match log with
  | none => pure ()
  | some buffer => write buffer.path [buffer.waiting]

/-- Do something that may end the program, and write what waits if it does. -/
def guarding {α : Type} (log : Option LogBuffer) (act : Program m α) : Program m α :=
  tryCatch act fun refusal => do
    let _ ← ExceptT.lift (flush log).run
    throw refusal

/-- Begin a log of what a target receives, if one is wanted. -/
def beginLog [Json.Codec] (target : Target) (log : Option String) : Program m (Option LogBuffer) := do
  match log with
  | none => return none
  | some path =>
    require .system (← ExceptT.lift (Host.create path))
    let header := Capture.Header.make target.backend.label target.device (target.bitrate.map (·.name))
    addLine (some ⟨path, ""⟩) header.line

/-! ## Opening -/

/-- The speed of a line unless asked for otherwise. -/
def defaultBitrate : Bitrate := .kbit500

/-- Open an SLCAN adapter at a device. -/
def openSerial (device : String) (bitrate : Bitrate) : Program m Medium := do
  let line ← ExceptT.lift (Host.connect device)
  let adapter ← require .fault (Slcan.Adapter.connect line bitrate Slcan.Adapter.defaultSlots)
  settle (.serial device adapter)

/-- Open the adapter that a device name belongs to. -/
def openDevice (device : String) : Program m Medium :=
  match Device.family device with
  | .serialLine => openSerial device defaultBitrate
  | .kernelSocket => throw (.fault (.unsupported "socketcan backend not compiled in"))

/-- Open what a user asks for.  A bitrate counts only where SLCAN is asked for by name. -/
def openTarget (target : Target) : Program m Medium :=
  match target.backend.resolve target.device with
  | .auto => openDevice target.device
  | .virtual => pure .fresh
  | .slcan => openSerial target.device (target.bitrate.getD defaultBitrate)
  | .socketCan => throw (.notBuilt "socketcan")

/-! ## Operating -/

def startMedium (medium : Medium) : Program m Medium := do
  settle (← require .fault medium.start)

def closeMedium (medium : Medium) : Program m Medium := do
  ExceptT.lift Host.unlisten
  settle (← require .fault medium.close)

/-- Send one frame, and say how many went out. -/
def sendFrame (medium : Medium) (frame : Frame) (deadline : Nat) : Program m (Nat × Medium) := do
  let (count, after) ← require .fault (medium.send [frame] (deadline == 0))
  return (count, ← settle after)

/-- The next frame within some milliseconds, if one comes. -/
def awaitFrame : Nat → Medium → m (Option Frame × Medium)
  | patience, medium =>
    match medium.take? with
    | some (frame, medium) => return (some frame, medium)
    | none =>
      match patience, medium with
      | 0, medium => return (none, medium)
      | patience + 1, .station net n => do
        -- nobody else is there to send
        Host.pause (patience + 1)
        return (none, .station net n)
      | patience + 1, .serial device adapter => do
        let bytes ← Host.listen
        awaitFrame patience (.serial device (adapter.receive bytes).adapter)

/-- One line that shows a frame as it came in. -/
def frameLine (received : Capture.Received) : String :=
  received.frame.render ++ "\tlen=" ++ toString received.frame.payload.length ++ "\t" ++
    String.ofList received.moment.render

/-! ## The commands -/

/-- Show the ports of a backend.  A virtual bus has none, and kernel interfaces are not looked for. -/
def list (backend : Backend) : Program m Unit := do
  if backend = .slcan ∨ backend = .auto then
    for (port, driver) in ← ExceptT.lift Host.ports do
      say (port ++ "\t" ++ driver)

/-- The frame that keeps a virtual bus from being silent. -/
def heartbeat : Frame := ⟨0x700, [0, 0, 0, 0], .base, false, by decide, by decide⟩

/-- Attach a further station to a virtual bus. -/
def withPeer (medium : Medium) : Medium :=
  match medium with
  | .station net n => .station (net.after [.join 0 8 1, .start net.stations.length false []]) n
  | other => other

/-- Let the station that was attached last send a heartbeat. -/
def withHeartbeat (medium : Medium) : Medium :=
  match medium with
  | .station net n => .station (net.after [.send (net.stations.length - 1) [heartbeat]]) n
  | other => other

/-- Show up to `count` frames and add them to the log, until one is too long in coming.  Each is waited for with a
heartbeat on its way. -/
def capture [Json.Codec] (idle : Nat) : Nat → Option LogBuffer → Medium → Program m (Option LogBuffer × Medium)
  | 0, log, medium => return (log, medium)
  | count + 1, log, medium => do
    let (frame?, medium) ← ExceptT.lift (awaitFrame idle (withHeartbeat medium))
    match frame? with
    | none => return (log, medium)
    | some frame =>
      let received : Capture.Received := ⟨frame, ← ExceptT.lift Host.now⟩
      say (frameLine received)
      capture idle count (← addLine log received.record.line) medium

/-- Open a target, begin operation and set the filters that texts spell. -/
def openFiltered (target : Target) (specs : List String) : Program m Medium := do
  let medium ← startMedium (← openTarget target)
  require id (medium.configureSpelled specs)

/-- Show the frames that come in. -/
def sniff [Json.Codec] (target : Target) (count idle : Nat) (specs : List String) (log : Option String) :
    Program m Unit := do
  let log ← beginLog target log
  let medium ← guarding log (openFiltered target specs)
  let (log, medium) ← capture idle count log (withPeer medium)
  flush log
  let _ ← closeMedium medium

/-- Send one frame. -/
def send (target : Target) (id : String) (data : List String) (extended : Bool) (deadline : Nat) :
    Program m Unit := do
  let frame ← require (fun r => r) (frame id data extended false)
  let medium ← openTarget target
  let medium ← startMedium medium
  let (_, medium) ← sendFrame medium frame deadline
  let _ ← closeMedium medium

/-- Try a device out: open it, send a frame and listen for one. -/
def doctor (target : Target) (id : String) (data : List String) (patience deadline : Nat) : Program m Unit := do
  let frame ← require (fun r => r) (frame id data false false)
  say ("doctor: backend=" ++ target.backend.label ++ " device=" ++ target.device ++ " bitrate=" ++
    (target.bitrate.map (·.name)).getD "default")
  let medium ← openTarget target
  say ("open: ok (" ++ medium.name ++ ", mtu=" ++ toString medium.mtu ++ ", filters=" ++
    toString medium.slots ++ ")")
  let medium ← startMedium medium
  let medium ← require .fault (medium.configure [.promiscuous none])
  let (count, medium) ← sendFrame medium frame deadline
  say ("send: " ++ toString count ++ "/1 (" ++ toString frame.payload.length ++ " bytes)")
  let medium ←
    if patience = 0 then pure medium
    else do
      let (frame?, medium) ← ExceptT.lift (awaitFrame patience medium)
      match frame? with
      | some frame => say ("recv: " ++ frameLine ⟨frame, ← ExceptT.lift Host.now⟩)
      | none =>
        ExceptT.lift (Host.complain ("recv: no frame within " ++ toString patience ++
          " ms (timed out waiting on channel)"))
      pure medium
  let _ ← closeMedium medium
  say "doctor: done"

/-- How far a replay has come. -/
structure Replay where
  medium : Medium
  previous : Option Moment
  sent : Nat
  skipped : Nat

/-- Keep the recorded distance to the line before. -/
def keepPace (previous : Option Moment) (record : Capture.Record) : m (Option Moment) := do
  let moment := Moment.read? record.time
  if let (some earlier, some later) := (previous, moment) then
    Host.pause (Moment.gap earlier later / 1000000)
  return moment.or previous

/-- Send the frames of lines one after the other. -/
def replayLines [Json.Codec] (realtime : Bool) (deadline : Nat) (state : Replay) : List (List Char) → Program m Replay
  | [] => return state
  | line :: rest => do
    let record ← match Capture.Record.ofLine? line with
      | some record => pure record
      | none => throw .badRecord
    let previous ← if realtime then ExceptT.lift (keepPace state.previous record) else pure none
    let state := { state with previous := previous }
    match ← require .record record.replayed with
    | none => replayLines realtime deadline { state with skipped := state.skipped + 1 } rest
    | some frame =>
      let (count, medium) ← sendFrame state.medium frame deadline
      replayLines realtime deadline { state with medium := medium, sent := state.sent + count } rest

/-- Send the frames of a log. -/
def replay [Json.Codec] (target : Target) (path : String) (realtime : Bool) (deadline : Nat) : Program m Unit := do
  let text ← require .system (← ExceptT.lift (Host.readText path))
  let (first, lines) := Capture.logLines text
  let header ← match Capture.Header.ofLine? first with
    | some header => pure header
    | none => throw .badHeader
  say ("replay: " ++ path ++ " recorded on " ++ String.ofList header.device ++ " (" ++
    String.ofList header.backend ++ ") -> " ++ target.device ++ " realtime=" ++ toString realtime)
  let medium ← openTarget target
  let medium ← startMedium medium
  let state ← replayLines realtime deadline ⟨medium, none, 0, 0⟩ lines
  let _ ← closeMedium state.medium
  say ("replay: sent " ++ toString state.sent ++ " frames, skipped " ++ toString state.skipped)

/-- Show observations up to the first that is false. -/
def report : List (String × Bool) → Program m Unit
  | [] => pure ()
  | (what, ok) :: rest => do
    if ok then
      say ("  ok   " ++ what)
      report rest
    else
      say ("  FAIL " ++ what)
      throw (.failedCheck what)

/-- Observe two stations on one bus. -/
def selfTest : Program m Unit := do
  say SelfTest.title
  report SelfTest.observations
  say "selftest: ok"

/-- The course of a command. -/
def program [Json.Codec] (deadline : Nat) : Command → Program m Unit
  | .list backend => list backend
  | .sniff target count idle specs log => sniff target count idle specs log
  | .send target id data extended => send target id data extended deadline
  | .doctor target id data patience => doctor target id data patience deadline
  | .replay target path realtime => replay target path realtime deadline
  | .selfTest => selfTest

/-! ## The whole program -/

/-- The line that names the program and its version. -/
def versionLine : String := "canmedia 0.1.0"

/-- The line that says how the program is called. -/
def usageLine : String := "usage: canmedia [--deadline-ms MS] list|sniff|send|doctor|replay|selftest [options]"

/-- Do what the words ask for, and give the exit code. -/
def perform [Json.Codec] (words : List String) : m UInt32 := do
  match request words with
  | .version =>
    Host.print versionLine
    return 0
  | .help =>
    Host.print usageLine
    return 0
  | .misuse =>
    Host.complain usageLine
    return 2
  | .run deadline command =>
    match ← (program deadline command).run with
    | .ok () => return 0
    | .error refusal =>
      Host.complain ("Error: " ++ refusal.message)
      return 1

end CanBus.Console
