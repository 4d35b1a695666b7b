/-!
# Faults — why an operation on a CAN medium was refused

A `Fault` names the cause; its wording is `Fault.message` alone.  Rules of use that a caller broke are
`Breach`es, and what is wrong with a frame, a filter or a received line is a `Defect`.
-/

namespace CanBus

/-- A rule of use that the caller broke. -/
inductive Breach where
  | emptyBatch
  | emptyPayload
  | payloadOverMtu
  | mixedIdentifiers
  | moreFiltersThanSlots
  | noFilterSlot
  | invalidMtu
  | nothingReceived
  | targetNotPositive
  | other (text : String)
  deriving DecidableEq, Repr

/-- What is wrong with a frame, a filter or a line. -/
inductive Defect where
  | identifierOutOfRange
  | payloadTooLong
  | filterIdentifierTooWide
  | filterMaskTooWide
  | lineUnknownHeader
  | lineEmpty
  | lineShortHeader
  | lineNotText
  | lineNotHex
  | lineLengthDigit
  | lineShortData
  | lineOverEightBytes
  | socketIdentifier
  | socketPayload
  | other (text : String)
  deriving DecidableEq, Repr

/-- The cause of a refused operation.  An adapter that was never started and one already closed give the same
`closed`. -/
inductive Fault where
  | closed
  | contract (breach : Breach)
  | interfaceNotFound (name : String)
  | unsupported (what : String)
  | io (text : String)
  | timeout
  | invalidFrame (defect : Defect)
  | driver (text : String)
  deriving DecidableEq, Repr

def Breach.message : Breach → String
  | .emptyBatch => "empty transmission set"
  | .emptyPayload => "CAN frames with empty payload are not valid"
  | .payloadOverMtu => "payload exceeds MTU"
  | .mixedIdentifiers => "nonuniform CAN ID in one batch"
  | .moreFiltersThanSlots => "more filter configurations than acceptance filters"
  | .noFilterSlot => "at least one acceptance filter is required"
  | .invalidMtu => "invalid MTU"
  | .nothingReceived => "pop from an empty frame sink"
  | .targetNotPositive => "target number of filter configurations must be positive"
  | .other text => text

def Defect.message : Defect → String
  | .identifierOutOfRange => "identifier out of range for format"
  | .payloadTooLong => "payload longer than 64 bytes"
  | .filterIdentifierTooWide => "filter identifier exceeds format width"
  | .filterMaskTooWide => "filter mask exceeds format width"
  | .lineUnknownHeader => "unknown header"
  | .lineEmpty => "empty"
  | .lineShortHeader => "short header"
  | .lineNotText => "utf8"
  | .lineNotHex => "hex"
  | .lineLengthDigit => "dlc"
  | .lineShortData => "short data"
  | .lineOverEightBytes => "dlc > 8"
  | .socketIdentifier => "identifier out of range"
  | .socketPayload => "payload too long"
  | .other text => text

def Fault.message : Fault → String
  | .closed => "resource closed"
  | .contract breach => "media contract violation: " ++ breach.message
  | .interfaceNotFound name => "interface not found: " ++ name
  | .unsupported what => "operation not supported on this backend: " ++ what
  | .io text => "I/O error: " ++ text
  | .timeout => "timeout"
  | .invalidFrame defect => "invalid frame: " ++ defect.message
  | .driver text => "driver error: " ++ text

/-! ## Faults of the operating system -/

/-- The kinds of system failure that are told apart. -/
inductive SystemFailure where
  | timedOut
  | wouldBlock
  | other
  deriving DecidableEq, Repr

/-- A failure that only means the time is over is a timeout; any other keeps its text. -/
def Fault.ofSystem (kind : SystemFailure) (text : String) : Fault :=
  match kind with
  | .timedOut | .wouldBlock => .timeout
  | .other => .io text

/-- What the system reports when it fails. -/
structure Failure where
  kind : SystemFailure
  text : String
  deriving DecidableEq, Repr

/-- The failure as a fault. -/
def Failure.fault (failure : Failure) : Fault := .ofSystem failure.kind failure.text

/-- Whether a fault is one that the system has reported, not a refusal of the adapter itself. -/
def Fault.isReported : Fault → Bool
  | .io _ | .timeout => true
  | _ => false

theorem Failure.isReported_fault (failure : Failure) : failure.fault.isReported = true := by
  obtain ⟨kind, text⟩ := failure
  cases kind <;> rfl

/-! ## Results -/

/-- One thing after the other has succeeded just when both have. -/
theorem bind_eq_ok_iff {ε α β : Type} {x : Except ε α} {f : α → Except ε β} {b : β} :
    x >>= f = .ok b ↔ ∃ a, x = .ok a ∧ f a = .ok b := by
  cases x with
  | error fault => exact ⟨nofun, nofun⟩
  | ok a =>
    constructor
    · exact fun h => ⟨a, rfl, h⟩
    · rintro ⟨_, ha, h⟩
      cases ha
      exact h

end CanBus
