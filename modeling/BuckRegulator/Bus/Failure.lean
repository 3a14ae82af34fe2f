namespace BuckRegulator.Bus

inductive Phase where
  | address
  | data
  | unknown
  deriving DecidableEq, Repr

inductive Failure where
  | line
  | arbitrationLost
  | notAcknowledged (phase : Phase)
  | overrun
  | other
  deriving DecidableEq, Repr

def Phase.text : Phase → String
  | .address => "Address"
  | .data => "Data"
  | .unknown => "Unknown"

namespace Failure

def text : Failure → String
  | .line => "Bus"
  | .arbitrationLost => "ArbitrationLoss"
  | .notAcknowledged phase => "NoAcknowledge(" ++ phase.text ++ ")"
  | .overrun => "Overrun"
  | .other => "Other"

def all : List Failure := [
  .line, .arbitrationLost, .notAcknowledged .address, .notAcknowledged .data,
  .notAcknowledged .unknown, .overrun, .other]

def ofText? (text : String) : Option Failure :=
  all.find? (·.text = text)

theorem ofText?_text (f : Failure) : ofText? f.text = some f := by
  cases f with
  | notAcknowledged phase => cases phase <;> decide
  | _ => decide

end Failure

end BuckRegulator.Bus
