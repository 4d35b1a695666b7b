/-!
# System errors — what the operating system says when it refuses

An error is shown by its words alone where a serial device refused, and with its number everywhere else.
-/

namespace CanBus

/-- Why the operating system refused. -/
inductive SystemError where
  | missing
  | noAddress
  | denied
  | noInterface
  | notDirectory
  | isDirectory
  | badArgument
  | notTerminal
  | noSpace
  | brokenPipe
  | nameTooLong
  deriving DecidableEq, Repr

namespace SystemError

def words : SystemError → String
  | missing => "No such file or directory"
  | noAddress => "No such device or address"
  | denied => "Permission denied"
  | noInterface => "No such device"
  | notDirectory => "Not a directory"
  | isDirectory => "Is a directory"
  | badArgument => "Invalid argument"
  | notTerminal => "Not a typewriter"
  | noSpace => "No space left on device"
  | brokenPipe => "Broken pipe"
  | nameTooLong => "File name too long"

def number : SystemError → Nat
  | missing => 2
  | noAddress => 6
  | denied => 13
  | noInterface => 19
  | notDirectory => 20
  | isDirectory => 21
  | badArgument => 22
  | notTerminal => 25
  | noSpace => 28
  | brokenPipe => 32
  | nameTooLong => 36

/-- Words with a number behind them. -/
def render (words : String) (number : Nat) : String := words ++ " (os error " ++ toString number ++ ")"

/-- The words of an error and its number. -/
def message (e : SystemError) : String := render e.words e.number

end SystemError

end CanBus
