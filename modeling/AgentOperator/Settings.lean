import AgentOperator.Conventions
import AgentOperator.Fields

/-!
Operator settings. They are read once from the environment; a variable that is absent or cannot be
read leaves its default.
-/
namespace AgentOperator

inductive Platform where
  | standard
  | managed
  deriving DecidableEq, Repr

def Platform.name : Platform → String
  | .standard => "Standard"
  | .managed => "Managed"

def Platform.accountTimeout : Platform → Duration
  | .standard => Conventions.standardAccountTimeout
  | .managed => Conventions.managedAccountTimeout

structure Settings where
  operatorNamespace : String := Conventions.operatorNamespace
  platform : Platform := .standard
  /-- Image of an instance that names none. -/
  defaultImage : String := Conventions.agentImage
  /-- Delay of a pass that asks to be requeued. -/
  requeueDelay : Duration := .ofSecs 5
  refreshInterval : Duration := .ofSecs 600
  backoffFloor : Nat := 1
  backoffCeiling : Nat := 300
  metricsPort : Nat := 8080
  startupTimeout : Duration := .ofSecs 10
  startupPollInterval : Duration := .ofMillis 50
  deriving DecidableEq, Repr

namespace Settings

def isDigit (c : Char) : Bool := '0' ≤ c ∧ c ≤ '9'

/-- A decimal number below `bound`, with an optional plus in front and nothing else. -/
def readNat? (bound : Nat) (text : String) : Option Nat :=
  let digits := match text.toList with
    | '+' :: rest => rest
    | chars => chars
  if digits.isEmpty || !digits.all isDigit then none
  else
    let value := digits.foldl (fun value c => value * 10 + (c.toNat - 48)) 0
    if value < bound then some value else none

def readBool? (text : String) : Option Bool :=
  if text = "true" then some true else if text = "false" then some false else none

def ofEnvironment (env : Fields String) : Settings :=
  let word (name : String) (fallback : Nat) : Nat :=
    ((env.get? name).bind (readNat? 18446744073709551616)).getD fallback
  { operatorNamespace :=
      ((env.get? "OPERATOR_NAMESPACE").or (env.get? "POD_NAMESPACE")).getD
        Conventions.operatorNamespace
    platform :=
      if ((env.get? "MANAGED_PLATFORM").bind readBool?).getD false then .managed else .standard
    defaultImage := (env.get? "DEFAULT_AGENT_IMAGE").getD Conventions.agentImage
    requeueDelay := .ofSecs (word "REQUEUE_DELAY_SECS" 5)
    refreshInterval := .ofSecs (word "TOKEN_REFRESH_INTERVAL_SECS" 600)
    backoffFloor := word "ERROR_BACKOFF_MIN_SECS" 1
    backoffCeiling := word "ERROR_BACKOFF_MAX_SECS" 300
    metricsPort := ((env.get? "METRICS_PORT").bind (readNat? 65536)).getD 8080
    startupTimeout := .ofSecs (word "SERVER_STARTUP_TIMEOUT_SECS" 10)
    startupPollInterval := .ofMillis (word "SERVER_POLL_INTERVAL_MS" 50) }

end Settings
end AgentOperator
