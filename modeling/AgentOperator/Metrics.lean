import AgentOperator.Fields
import AgentOperator.Duration

/-!
What the operator counts. A measurement is one event; the metrics are the sums of all events so far,
per label where a family has one.
-/
namespace AgentOperator

inductive Measurement where
  | reconciliation (kind : String)
  | reconciliationError (kind : String)
  | duration (kind : String) (seconds : Float)
  | requeue (reason : String)
  | statusUpdate
  | statusSkipped
  | rotation
  | deletion (reason : String)

structure Histogram where
  /-- Observations at most as large as each bound. -/
  buckets : List Nat
  sum : Float
  count : Nat

namespace Histogram

def bounds : List Float := [0.1, 0.5, 1, 2, 5, 10, 30, 60]

def empty : Histogram := ⟨bounds.map fun _ => 0, 0, 0⟩

def observe (h : Histogram) (value : Float) : Histogram :=
  { buckets := (bounds.zip h.buckets).map fun (bound, count) =>
      if value ≤ bound then count + 1 else count
    sum := h.sum + value
    count := h.count + 1 }

end Histogram

structure Metrics where
  reconciliations : Fields Nat := []
  reconciliationErrors : Fields Nat := []
  durations : Fields Histogram := []
  requeues : Fields Nat := []
  statusUpdates : Nat := 0
  statusSkipped : Nat := 0
  rotations : Nat := 0
  deletions : Fields Nat := []

namespace Metrics

def bump (counts : Fields Nat) (label : String) : Fields Nat :=
  counts.update label 0 (· + 1)

def add (m : Metrics) : Measurement → Metrics
  | .reconciliation kind => { m with reconciliations := bump m.reconciliations kind }
  | .reconciliationError kind => { m with reconciliationErrors := bump m.reconciliationErrors kind }
  | .duration kind seconds =>
    { m with durations := m.durations.update kind .empty (·.observe seconds) }
  | .requeue reason => { m with requeues := bump m.requeues reason }
  | .statusUpdate => { m with statusUpdates := m.statusUpdates + 1 }
  | .statusSkipped => { m with statusSkipped := m.statusSkipped + 1 }
  | .rotation => { m with rotations := m.rotations + 1 }
  | .deletion reason => { m with deletions := bump m.deletions reason }

def addAll (m : Metrics) (events : List Measurement) : Metrics := events.foldl add m

end Metrics
end AgentOperator
