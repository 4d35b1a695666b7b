import CanBus.Capture.Record

/-!
# Refusals — why a console command ends without success
-/

namespace CanBus.Console

/-- The cause for which a command ends. -/
inductive Refusal where
  | badIdentifier (text : String)
  | badByte (text : List Char) (flaw : Hex.Flaw)
  | unknownFormat (name : List Char) (filter : String)
  | noMask (filter : String)
  | badFilterIdentifier (filter : String)
  | badFilterMask (filter : String)
  | notBuilt (feature : String)
  | badHeader
  | badRecord
  | record (flaw : Capture.Flaw)
  | system (text : String)
  | failedCheck (what : String)
  | fault (fault : Fault)
  deriving DecidableEq, Repr

/-- The words in which the cause is reported.  What is wrong with a line that is not in JSON is left open. -/
def Refusal.message : Refusal → String
  | .badIdentifier text => "invalid CAN id: " ++ text
  | .badByte text flaw => "invalid hex byte '" ++ String.ofList text ++ "': " ++ flaw.message
  | .unknownFormat name filter =>
    "unknown frame format '" ++ String.ofList name ++ "' in filter '" ++ filter ++ "'"
  | .noMask filter => "filter '" ++ filter ++ "' is not ID/MASK"
  | .badFilterIdentifier filter => "invalid filter id in '" ++ filter ++ "'"
  | .badFilterMask filter => "invalid filter mask in '" ++ filter ++ "'"
  | .notBuilt feature => "built without the " ++ feature ++ " feature"
  | .badHeader => "invalid srlog header: <json>"
  | .badRecord => "<json>"
  | .record flaw => flaw.message
  | .system text => text
  | .failedCheck what => "selftest failed: " ++ what
  | .fault cause => cause.message

/-- The fault behind a refusal, if a medium refused. -/
def Refusal.fault? : Refusal → Option Fault
  | .fault cause => some cause
  | .record (.noFrame cause) => some cause
  | _ => none

end CanBus.Console
