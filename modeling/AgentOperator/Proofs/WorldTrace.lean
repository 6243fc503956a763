import AgentOperator.Proofs.Storage
import AgentOperator.World

/-!
What a program does in a world is one of its runs, served by the world's cluster; the rules by which
a world makes calls fail are one way in which they can. So whatever is proved of every run holds in
every world.
-/
namespace AgentOperator

theorem Cluster.perform_cases (c : Cluster) (now : Timestamp) (call : Call) :
    ∃ b : Cluster, b.Alike c ∧ (c.perform now call = b.carryOut now call ∨
      ∃ error, c.perform now call = (.error error, b)) := by
  unfold perform
  generalize counting : (if call.verb = .requestToken then { c with tokens := c.tokens + 1 }
    else c) = counted
  have alike : counted.Alike c := by
    rw [← counting]
    split <;> exact ⟨rfl, rfl, rfl⟩
  refine ⟨{ counted with faults := (FaultRule.consult call counted.faults).2 },
    ⟨alike.inventory, alike.version, alike.revives⟩, ?_⟩
  cases fault : (FaultRule.consult call counted.faults).1 with
  | none =>
    left
    simp [fault]
  | some error =>
    right
    exact ⟨error, by simp [fault]⟩

namespace World
variable {α : Type}

def events (w : World) : Program α → List Event
  | .done _ => []
  | .call call next =>
    .call call (w.perform call).1 :: (w.perform call).2.events (next (w.perform call).1)
  | .clock next => .clock w.moment :: w.events (next w.moment)
  | .sleep span next => .sleep span :: (w.advance (sleepTime w.elapsed span)).events next
  | .measure m next => .measure m :: { w with metrics := w.metrics.add m }.events next

theorem runs_events (w : World) (p : Program α) : p.Runs (w.events p) (w.run p).1 := by
  induction p generalizing w with
  | done value => exact .done value
  | call c next ih => exact .call _ (ih _ _)
  | clock next ih => exact .clock _ (ih _ _)
  | sleep span next ih => exact .sleep span (ih _)
  | measure m next ih => exact .measure m (ih _)

-- Stated for any time, so that comparing the two worlds never computes how long a sleep takes.
theorem alike_advance (w : World) (time : Duration) :
    (w.advance time).cluster.Alike w.cluster := ⟨rfl, rfl, rfl⟩

theorem serves_events (w : World) (p : Program α) :
    w.cluster.Serves (w.events p) (w.run p).2.cluster := by
  induction p generalizing w with
  | done value => exact .done w.cluster
  | call c next ih =>
    obtain ⟨b, alike, served | ⟨error, failed⟩⟩ := w.cluster.perform_cases w.now c
    · refine .served alike w.now (d := (w.perform c).2.cluster) ?_ (ih _ _)
      exact served.symm
    · have answered : (w.perform c).1 = .error error := congrArg Prod.fst failed
      have kept : (w.perform c).2.cluster = b := congrArg Prod.snd failed
      refine .skipped alike ?_ (kept ▸ ih _ _)
      rw [answered]
      exact id
  | clock next ih => exact .skipped (.refl _) id (ih _ _)
  | sleep span next ih => exact .skipped (w.alike_advance _) id (ih _)
  | measure m next ih => exact .skipped (.refl _) id (ih { w with metrics := w.metrics.add m })

end World
end AgentOperator
