import AgentOperator.Cluster
import AgentOperator.Metrics

/-!
A world to run programs in: a cluster, a clock that moves only when something sleeps, and a record
of the calls that were made. A sleep moves the clock by whole milliseconds.
-/
namespace AgentOperator

structure CallRecord where
  time : Duration
  call : Call
  error : Option StoreError

structure World where
  cluster : Cluster := {}
  /-- What the wall clock showed at the start. -/
  start : Timestamp
  elapsed : Duration := .zero
  metrics : Metrics := {}
  /-- The last call comes first. -/
  calls : List CallRecord := []

namespace World

def now (w : World) : Timestamp := w.start.add w.elapsed

def moment (w : World) : Moment := ⟨w.now, w.elapsed⟩

def advance (w : World) (d : Duration) : World := { w with elapsed := w.elapsed + d }

/-- How far sleeping for `span` moves a clock that shows `time`. The end of the sleep is rounded up
to a whole millisecond and its beginning down to one. -/
def sleepTime (time span : Duration) : Duration :=
  .ofMillis ((time + span.asSleep).ceilMillis - time.floorMillis)

/-- A sleep that begins on a whole millisecond takes its span, rounded up. -/
theorem sleepTime_ofMillis (millis : Nat) (span : Duration) :
    sleepTime (.ofMillis millis) span = .ofMillis span.asSleep.ceilMillis := by
  apply Duration.ext
  show ((millis * 1000000 + span.asSleep.nanos + 999999) / 1000000 - millis * 1000000 / 1000000) *
    1000000 = (span.asSleep.nanos + 999999) / 1000000 * 1000000
  omega

/-- No sleep ends early. -/
theorem asSleep_le_sleepTime (time span : Duration) : span.asSleep ≤ sleepTime time span := by
  show span.asSleep.nanos ≤
    ((time.nanos + span.asSleep.nanos + 999999) / 1000000 - time.nanos / 1000000) * 1000000
  omega

def answerError {call : Call} : call.Answer → Option StoreError
  | .ok _ => none
  | .error error => some error

def perform (w : World) (call : Call) : call.Answer × World :=
  let (answer, cluster) := w.cluster.perform w.now call
  (answer, { w with cluster, calls := ⟨w.elapsed, call, answerError answer⟩ :: w.calls })

def run (w : World) : Program α → α × World
  | .done value => (value, w)
  | .call call next =>
    let (answer, w) := w.perform call
    w.run (next answer)
  | .clock next => w.run (next w.moment)
  | .sleep span next => (w.advance (sleepTime w.elapsed span)).run next
  | .measure m next => { w with metrics := w.metrics.add m }.run next

end World
end AgentOperator
