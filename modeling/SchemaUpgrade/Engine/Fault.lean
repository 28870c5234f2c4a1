import SchemaUpgrade.Engine.Call
import SchemaUpgrade.Text.Search
/-!
# Failures of the engine

An engine may refuse any call.  Which calls it refuses is given by a list of faults, asked in
order for each call: a fault applies to one kind of call whose text contains a given text, it lets
a number of such calls pass, and then refuses a number of them, or all.  The first fault that
refuses decides the message, and every fault asked before it has counted the call.
-/

namespace SchemaUpgrade.Engine

/-- What a fault can hit. -/
inductive FaultPoint where
  | connect
  | batch
  | execute
  | query
  /-- A single row, while the rows of a column query are read. -/
  | row
  deriving DecidableEq, Repr, Inhabited

/-- The kind of fault that can hit a call. -/
def Call.faultPoint : Call → FaultPoint
  | .connect _ => .connect
  | .batch _ => .batch
  | .execute _ _ => .execute
  | .column _ | .count _ | .relation _ _ => .query

/-- A rule by which the engine refuses calls. -/
structure Fault where
  on : FaultPoint
  /-- The fault applies to calls whose text contains this text. -/
  containing : String := ""
  /-- How many more of these calls pass. -/
  skip : Nat := 0
  /-- How many are refused after that; `none` if all are. -/
  times : Option Nat := none
  message : String := ""
  deriving DecidableEq, Repr, Inhabited

namespace Fault

/-- Whether a fault applies to a call of this kind and text. -/
def isFor (fault : Fault) (point : FaultPoint) (text : String) : Bool :=
  fault.on = point && Text.occursIn fault.containing text

/-- The fault after it has refused a call, unless it may refuse no more. -/
def spend? (fault : Fault) : Option Fault :=
  match fault.times with
  | none => some fault
  | some 0 => none
  | some (n + 1) => some { fault with times := some n }

/-- Asks the faults in order whether a call is refused.  Answers the message of the refusal, if
any, and the faults as they are afterwards. -/
def strike (point : FaultPoint) (text : String) : List Fault → Option String × List Fault
  | [] => (none, [])
  | fault :: rest =>
    let pass (fault : Fault) :=
      let (refusal, rest) := strike point text rest
      (refusal, fault :: rest)
    if fault.isFor point text then
      match fault.skip with
      | n + 1 => pass { fault with skip := n }
      | 0 =>
        match fault.spend? with
        | some spent => (some fault.message, spent :: rest)
        | none => pass fault
    else pass fault

end Fault

end SchemaUpgrade.Engine
