import AgentOperator.Conventions
import AgentOperator.Decoding

/-!
Status conditions. A status holds exactly the two required types, in a fixed order; a condition is
replaced when its observation changes, and its transition time moves only with its status.
-/
namespace AgentOperator

/-- `degraded` means the workload may be serving although the last pass failed. -/
inductive ConditionStatus where
  | true
  | false
  | unknown
  | degraded
  deriving DecidableEq, Repr

namespace ConditionStatus

def all : List ConditionStatus := [.true, .false, .unknown, .degraded]

def name : ConditionStatus → String
  | .true => "True"
  | .false => "False"
  | .unknown => "Unknown"
  | .degraded => "Degraded"

def ofName (text : String) : Decoded ConditionStatus :=
  match all.find? (·.name = text) with
  | some status => .ok status
  | none => .error (.unknownVariant text (all.map name))

/-- The name, or an object whose only member has that name and is null. -/
def decode : Json → Decoded ConditionStatus
  | .str text => ofName text
  | .obj [(text, .null)] => ofName text
  | .obj [(_, other)] => .error (.wrongType other "unit")
  | .obj fields => .error (.outOfRange (.obj fields) "map with a single key")
  | other => .error (.wrongType other "string or map")

end ConditionStatus

structure Condition where
  type : String
  status : ConditionStatus
  /-- Generation of the specification that the condition was computed for. -/
  observedGeneration : Option Int := none
  lastTransitionTime : Option String := none
  reason : Option String := none
  message : Option String := none
  deriving DecidableEq, Repr

namespace Condition

def decode (json : Json) : Decoded Condition := do
  let fields ← Decode.record "Condition"
    ["type", "status", "observedGeneration", "lastTransitionTime", "reason", "message"] json
  let lastTransitionTime ← Decode.member fields "lastTransitionTime" Decode.text
  let message ← Decode.member fields "message" Decode.text
  let observedGeneration ← Decode.member fields "observedGeneration" Decode.int64
  let reason ← Decode.member fields "reason" Decode.text
  let status ← Decode.present fields "status" ConditionStatus.decode
  let type ← Decode.present fields "type" Decode.text
  let type ← Decode.require "type" type
  let status ← Decode.require "status" status
  return { type, status, observedGeneration, lastTransitionTime, reason, message }

/-- All six fields, absent ones as null. -/
def encode (c : Condition) : Json :=
  .object [
    ("type", .str c.type),
    ("status", .str c.status.name),
    ("observedGeneration", .ofOption .int c.observedGeneration),
    ("lastTransitionTime", .ofOption .str c.lastTransitionTime),
    ("reason", .ofOption .str c.reason),
    ("message", .ofOption .str c.message)]

/-- Whether two conditions say the same, whenever their status came about. -/
def sameObservation (a b : Condition) : Bool :=
  a.observedGeneration = b.observedGeneration && a.status = b.status && a.reason = b.reason &&
    a.message = b.message

def required : List String := [Conventions.reconciledType, Conventions.availableType]

/-- Exactly the required types in their order; a missing one comes in as false. -/
def sanitize (stored : List Condition) : List Condition :=
  required.map fun type =>
    (stored.find? (·.type = type)).getD { type, status := .false }

/-- `desired` with the time of its last change of status, seen from the condition it replaces. -/
def transitioned (existing desired : Condition) (now : String) : Condition :=
  { desired with
    lastTransitionTime :=
      if existing.status = desired.status then existing.lastTransitionTime.or (some now)
      else some now }

/-- Folds `desired` into a list at the first condition of its type, or at the end, and tells whether
anything changed. -/
def set (desired : Condition) (now : String) : List Condition → List Condition × Bool
  | [] => ([{ desired with lastTransitionTime := some now }], true)
  | existing :: rest =>
    if existing.type = desired.type then
      if existing.sameObservation desired then (existing :: rest, false)
      else (transitioned existing desired now :: rest, true)
    else
      let (rest, changed) := set desired now rest
      (existing :: rest, changed)

end Condition
end AgentOperator
