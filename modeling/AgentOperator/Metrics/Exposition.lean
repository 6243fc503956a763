import AgentOperator.Decimal.Shortest
import AgentOperator.Metrics

/-!
Metrics as text: families in order of their names, each with its help and type, then a line per
series in order of the label's value. A family with a label appears only once it has a series.
Numbers are written in the shortest form, without exponent. The metrics of a process are shown once
they are registered.
-/
namespace AgentOperator

namespace Metrics

inductive Samples where
  | counter (value : Nat)
  | counters (label : String) (values : Fields Nat)
  | histograms (label : String) (values : Fields Histogram)

structure Family where
  name : String
  help : String
  samples : Samples

def families (m : Metrics) : List Family := [
  ⟨"node_agent_operator_credential_deletions_total",
    "Total number of credential secrets deleted by the expiry watcher",
    .counters "reason" m.deletions⟩,
  ⟨"node_agent_operator_credential_rotations_total",
    "Total number of credentials issued or reissued",
    .counter m.rotations⟩,
  ⟨"node_agent_operator_reconciliation_duration_seconds",
    "Duration of reconciliation in seconds",
    .histograms "kind" m.durations⟩,
  ⟨"node_agent_operator_reconciliation_errors_total",
    "Total number of reconciliation errors",
    .counters "kind" m.reconciliationErrors⟩,
  ⟨"node_agent_operator_reconciliations_total",
    "Total number of reconciliations",
    .counters "kind" m.reconciliations⟩,
  ⟨"node_agent_operator_requeues_total",
    "Total number of reconciliation requeues",
    .counters "reason" m.requeues⟩,
  ⟨"node_agent_operator_status_updates_skipped_total",
    "Total number of status writes skipped because conditions were unchanged",
    .counter m.statusSkipped⟩,
  ⟨"node_agent_operator_status_updates_total",
    "Total number of status writes",
    .counter m.statusUpdates⟩]

def escapeLabel (value : String) : String :=
  String.ofList <| value.toList.flatMap fun c =>
    match c with
    | '\\' => ['\\', '\\']
    | '\n' => ['\\', 'n']
    | '"' => ['\\', '"']
    | c => [c]

def series (name : String) (labels : List (String × String)) : String :=
  if labels.isEmpty then name
  else
    let pairs := labels.map fun (label, value) => label ++ "=\"" ++ escapeLabel value ++ "\""
    name ++ "\x7b" ++ ",".intercalate pairs ++ "\x7d"

def floatText (value : Float) : String :=
  match Decimal.ofBits value.toBits with
  | .nan => "NaN"
  | .infinite false => "inf"
  | .infinite true => "-inf"
  | .finite decimal => decimal.positional

def natText (value : Nat) : String := floatText value.toUInt64.toFloat

def histogramLines (name label value : String) (h : Histogram) : List String :=
  let bucket (bound : String) (count : Nat) :=
    series (name ++ "_bucket") [(label, value), ("le", bound)] ++ " " ++ natText count
  (Histogram.bounds.zip h.buckets).map (fun (bound, count) => bucket (floatText bound) count) ++ [
    bucket "+Inf" h.count,
    series (name ++ "_sum") [(label, value)] ++ " " ++ floatText h.sum,
    series (name ++ "_count") [(label, value)] ++ " " ++ natText h.count]

namespace Family

def type (f : Family) : String :=
  match f.samples with
  | .histograms _ _ => "histogram"
  | _ => "counter"

def sampleLines (f : Family) : List String :=
  match f.samples with
  | .counter value => [f.name ++ " " ++ natText value]
  | .counters label values =>
    values.map fun (value, count) => series f.name [(label, value)] ++ " " ++ natText count
  | .histograms label values =>
    values.flatMap fun (value, h) => histogramLines f.name label value h

def lines (f : Family) : List String :=
  let samples := f.sampleLines
  if samples.isEmpty then []
  else ("# HELP " ++ f.name ++ " " ++ f.help) :: ("# TYPE " ++ f.name ++ " " ++ f.type) :: samples

/-- Every series with its count; a histogram has the number of its observations. -/
def counts (f : Family) : List (String × Nat) :=
  match f.samples with
  | .counter value => [(f.name, value)]
  | .counters label values =>
    values.map fun (value, count) => (series f.name [(label, value)], count)
  | .histograms label values =>
    values.map fun (value, h) => (series (f.name ++ "_count") [(label, value)], h.count)

end Family

def lines (m : Metrics) : List String := m.families.flatMap Family.lines

def counts (m : Metrics) : List (String × Nat) := m.families.flatMap Family.counts

def growth (m : Metrics) : List (String × Nat) := m.counts.filter (0 < ·.2)

def text (m : Metrics) : String :=
  String.join (m.lines.map (· ++ "\n"))

end Metrics

inductive RegistryError where
  | duplicate
  deriving DecidableEq, Repr

def RegistryError.message : RegistryError → String
  | .duplicate => "Duplicate metrics collector registration attempted"

structure Registry where
  metrics : Metrics := {}
  registered : Bool := false

namespace Registry

/-- Metrics can be registered once. -/
def register (r : Registry) : Except RegistryError Registry :=
  if r.registered then .error .duplicate else .ok { r with registered := true }

def lines (r : Registry) : List String := if r.registered then r.metrics.lines else []

def text (r : Registry) : String := if r.registered then r.metrics.text else ""

end Registry

end AgentOperator
