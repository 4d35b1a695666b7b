import CanBus.Console.Command
import CanBus.Text.Split

/-!
# Arguments — from words to a command

Options stand before or after the command word, as `--name value` or `--name=value`; a separate value does not
begin with a dash unless it is a dash alone.  Each word is judged when its turn comes, so an early request for
the version wins over a later mistake.  The deadline may be given before the command, after it or both; the
later one counts.
-/

namespace CanBus.Console

/-! ## Numbers -/

/-- The value of decimal digits, at least one. -/
def decimal? (cs : List Char) : Option Nat :=
  if cs ≠ [] ∧ cs.all Char.isDigit then some (cs.foldl (fun n c => n * 10 + (c.toNat - '0'.toNat)) 0) else none

/-- A number of at most `limit`, with a plus sign before it allowed. -/
def unsigned? (limit : Nat) (cs : List Char) : Option Nat :=
  let digits := match cs with
    | '+' :: rest => rest
    | other => other
  (decimal? digits).filter (· ≤ limit)

/-- A number that fits 64 bits. -/
def wide? (s : String) : Option Nat := unsigned? (UInt64.size - 1) s.toList

/-- A number that fits 32 bits; the zero may have a minus sign. -/
def narrow? (s : String) : Option Nat :=
  match s.toList with
  | '-' :: rest => (decimal? rest).filter (· = 0)
  | cs => unsigned? (UInt32.size - 1) cs

/-! ## Options -/

/-- An option: its name, whether it takes a value and may be repeated, and which values it takes. -/
structure Choice where
  name : String
  takesValue : Bool
  repeats : Bool
  takes : String → Bool

def anyText (name : String) : Choice := ⟨name, true, false, fun _ => true⟩

def anyTexts (name : String) : Choice := ⟨name, true, true, fun _ => true⟩

def switch (name : String) : Choice := ⟨name, false, false, fun _ => true⟩

def wideNumber (name : String) : Choice := ⟨name, true, false, fun s => (wide? s).isSome⟩

def narrowNumber (name : String) : Choice := ⟨name, true, false, fun s => (narrow? s).isSome⟩

def deadlineChoice : Choice := wideNumber "deadline-ms"

def backendChoice : Choice := ⟨"backend", true, false, fun s => (Backend.ofName? s).isSome⟩

def bitrateChoice : Choice := ⟨"bitrate", true, false, fun s => (Bitrate.ofName? s).isSome⟩

/-- The command words and the options of each. -/
def commandChoices : List (String × List Choice) :=
  [("list", [backendChoice]),
    ("sniff", [anyText "device", narrowNumber "count", wideNumber "idle-ms", backendChoice, bitrateChoice,
      anyTexts "filter", anyText "to"]),
    ("send", [anyText "device", anyText "id", anyTexts "data", switch "extended", backendChoice,
      bitrateChoice]),
    ("doctor", [anyText "device", backendChoice, bitrateChoice, anyText "id", anyTexts "data",
      narrowNumber "recv-ms"]),
    ("replay", [anyText "path", anyText "device", backendChoice, bitrateChoice, switch "realtime"]),
    ("selftest", [])]

/-! ## Words -/

/-- What one word is. -/
inductive Word where
  | long (name : String) (value : Option String)
  | short (letter : Char)
  | finish
  | plain

/-- A word is an option by the dashes before it; a dash alone is plain. -/
def Word.of (word : String) : Word :=
  match word.toList with
  | ['-', '-'] => .finish
  | '-' :: '-' :: cs =>
    match Text.cutFirst '=' cs with
    | none => .long (String.ofList cs) none
    | some (name, value) => .long (String.ofList name) (some (String.ofList value))
  | '-' :: c :: _ => .short c
  | _ => .plain

/-- Options and their values, in the order in which they were given. -/
abbrev Given := List (String × String)

/-- The outcome of reading words up to a plain one. -/
inductive Scan where
  | given (options : Given) (rest : List String)
  | version
  | help
  | misuse

/-- Note an option, unless its value is not taken or it was given already. -/
def note (choice : Choice) (value : String) (options : Given) : Option Given :=
  if choice.takes value ∧ (choice.repeats ∨ options.lookup choice.name = none) then
    some (options ++ [(choice.name, value)])
  else none

/-- Read words up to a plain one; `top` says that the version can be asked for here. -/
def scan (choices : List Choice) (top : Bool) (options : Given) : List String → Scan
  | [] => .given options []
  | word :: rest =>
    match Word.of word with
    | .plain => .given options (word :: rest)
    | .finish => if top ∨ rest ≠ [] then .misuse else .given options []
    | .short letter =>
      if letter = 'h' then .help else if top ∧ letter = 'V' then .version else .misuse
    | .long name attached =>
      if name = "help" ∧ attached = none then .help
      else if top ∧ name = "version" ∧ attached = none then .version
      else
        match choices.find? (·.name == name) with
        | none => .misuse
        | some choice =>
          match choice.takesValue, attached, rest with
          | true, some value, rest =>
            match note choice value options with
            | some options => scan choices top options rest
            | none => .misuse
          | true, none, value :: rest =>
            match Word.of value, note choice value options with
            | .plain, some options => scan choices top options rest
            | _, _ => .misuse
          | false, none, rest =>
            match note choice "" options with
            | some options => scan choices top options rest
            | none => .misuse
          | _, _, _ => .misuse

/-! ## Commands -/

/-- The values of a repeated option, each cut at its spaces. -/
def spaced (options : Given) (name : String) : List String :=
  (options.filter (·.1 == name)).flatMap fun (_, value) => (Text.pieces ' ' value.toList).map String.ofList

/-- The target that options name. -/
def targetOf (options : Given) : Target :=
  ⟨(options.lookup "device").getD "mock0",
    ((options.lookup "backend").bind Backend.ofName?).getD .auto,
    (options.lookup "bitrate").bind Bitrate.ofName?⟩

/-- The number that an option gives, or its default. -/
def numberOf (options : Given) (name : String) (read : String → Option Nat) (default : Nat) : Nat :=
  ((options.lookup name).bind read).getD default

/-- The command of a word and its options; what a command cannot do without has to be given. -/
def commandOf (word : String) (options : Given) : Option Command :=
  let target := targetOf options
  match word with
  | "list" => some (.list target.backend)
  | "sniff" =>
    some (.sniff target (numberOf options "count" narrow? 10) (numberOf options "idle-ms" wide? 2000)
      ((options.filter (·.1 == "filter")).map (·.2)) (options.lookup "to"))
  | "send" =>
    (options.lookup "id").map fun id =>
      .send target id (spaced options "data") (options.lookup "extended").isSome
  | "doctor" =>
    let data := spaced options "data"
    some (.doctor target ((options.lookup "id").getD "0x123") (if data.isEmpty then ["00", "00"] else data)
      (numberOf options "recv-ms" narrow? 300))
  | "replay" =>
    (options.lookup "path").map fun path => .replay target path (options.lookup "realtime").isSome
  | "selftest" => some .selfTest
  | _ => none

/-- What the words after the program's name ask for. -/
def request (words : List String) : Request :=
  match scan [deadlineChoice] true [] words with
  | .version => .version
  | .help => .help
  | .misuse => .misuse
  | .given _ [] => .misuse
  | .given early (word :: rest) =>
    match commandChoices.lookup word with
    | none => .misuse
    | some choices =>
      match scan (deadlineChoice :: choices) false [] rest with
      | .given late [] =>
        match commandOf word late with
        | some command => .run (numberOf (late ++ early) "deadline-ms" wide? 1000) command
        | none => .misuse
      | .help => .help
      | _ => .misuse

end CanBus.Console
