import AgentOperator.Startup.Listener
import Mathlib.Data.Nat.Find
import Mathlib.Order.Bounds.Basic
import Mathlib.Order.Monotone.Basic

/-!
The window of the listener. The start-up sees the listener only when it looks, and each look takes
three readings, one after the other. A listener that is bound in the window is found by the first
look after the window at the latest, and one that is not is refused, unless it is bound after the
window and before that look. One that ends between two readings of a look can still be accepted.
-/
namespace AgentOperator.Listener
variable {l : Listener} {window interval time later : Duration} {look : Look} {looks : Nat → Look}
  {k m : Nat} {verdict : Except ListenerError Unit}

theorem boundBy_iff : l.boundBy time = true ↔ ∃ bound, l.bound = some bound ∧ bound ≤ time := by
  simp [boundBy, Option.any_eq_true]

theorem endedBy_iff : l.endedBy time = true ↔ ∃ ended, l.ended = some ended ∧ ended ≤ time := by
  simp [endedBy, Option.any_eq_true]

theorem boundBy_mono (before : time ≤ later) (bound : l.boundBy time = true) :
    l.boundBy later = true := by
  obtain ⟨at_, same, within⟩ := boundBy_iff.mp bound
  exact boundBy_iff.mpr ⟨at_, same, Nat.le_trans within before⟩

theorem endedBy_mono (before : time ≤ later) (ended : l.endedBy time = true) :
    l.endedBy later = true := by
  obtain ⟨at_, same, within⟩ := endedBy_iff.mp ended
  exact endedBy_iff.mpr ⟨at_, same, Nat.le_trans within before⟩

/-! ### One look -/

theorem look?_eq_none_iff : l.look? window look = none ↔
    l.endedBy look.ended = false ∧ l.boundBy look.bound = false ∧ look.waited ≤ window := by
  have late : ¬ window < look.waited ↔ look.waited ≤ window := Nat.not_lt
  unfold look?
  cases l.endedBy look.ended <;> cases l.boundBy look.bound <;> simp [← late]

theorem look?_eq_ok_iff : l.look? window look = some (.ok ()) ↔
    l.endedBy look.ended = false ∧ l.boundBy look.bound = true := by
  unfold look?
  cases l.endedBy look.ended <;> cases l.boundBy look.bound <;> simp

/-! ### The wait -/

theorem await_append {before : List Look}
    (undecided : ∀ look ∈ before, l.look? window look = none) (rest : List Look) :
    l.await window (before ++ rest) = l.await window rest := by
  induction before with
  | nil => rfl
  | cons look before ih =>
    rw [List.cons_append, await, undecided look List.mem_cons_self]
    exact ih fun other member => undecided other (List.mem_cons_of_mem _ member)

theorem await_of_first (undecided : ∀ j < k, l.look? window (looks j) = none)
    (looked : l.look? window (looks k) = some verdict) (within : k ≤ m) :
    l.await window ((List.range (m + 1)).map looks) = some (looks k, verdict) := by
  obtain ⟨more, rfl⟩ := Nat.exists_eq_add_of_le within
  have before : ∀ look ∈ (List.range k).map looks, l.look? window look = none := by
    simpa using undecided
  rw [Nat.add_assoc, List.range_add, List.map_append, await_append before,
    List.range_succ_eq_map, List.map_cons, List.map_cons, await, Nat.add_zero, looked]

theorem mem_of_await {all : List Look} (ends : l.await window all = some (look, verdict)) :
    look ∈ all ∧ l.look? window look = some verdict := by
  induction all with
  | nil => cases ends
  | cons first rest ih =>
    rw [await] at ends
    cases looked : l.look? window first with
    | none =>
      rw [looked] at ends
      obtain ⟨member, decided⟩ := ih ends
      exact ⟨List.mem_cons_of_mem _ member, decided⟩
    | some verdict' =>
      rw [looked] at ends
      cases ends
      exact ⟨List.mem_cons_self, looked⟩

/-- A look takes its readings one after the other, and the next one comes after at least the
interval. -/
structure Paced (interval : Duration) (looks : Nat → Look) : Prop where
  ordered : ∀ k, (looks k).ended ≤ (looks k).bound ∧ (looks k).bound ≤ (looks k).waited
  spaced : ∀ k, (looks k).waited + interval ≤ (looks (k + 1)).ended

/-- The first look that finds the window over. -/
def FirstLate (window : Duration) (looks : Nat → Look) (m : Nat) : Prop :=
  IsLeast {k | window < (looks k).waited} m

theorem FirstLate.le_window (first : FirstLate window looks m) (earlier : k < m) :
    (looks k).waited ≤ window :=
  Nat.not_lt.mp fun late => Nat.not_le.mpr earlier (first.2 late)

namespace Paced
variable (paced : Paced interval looks)
include paced

theorem ended_le_waited (k : Nat) : (looks k).ended ≤ (looks k).waited :=
  Nat.le_trans (paced.ordered k).1 (paced.ordered k).2

theorem ended_mono {j k : Nat} (ordered : j ≤ k) : (looks j).ended ≤ (looks k).ended := by
  have step (k : Nat) : (looks k).ended.nanos ≤ (looks (k + 1)).ended.nanos :=
    Nat.le_trans (Nat.le_add_right_of_le (paced.ended_le_waited k)) (paced.spaced k)
  exact monotone_nat_of_le_succ (f := fun k => (looks k).ended.nanos) step ordered

theorem spread (k : Nat) : k * interval.nanos ≤ (looks k).waited.nanos := by
  induction k with
  | zero => rw [Nat.zero_mul]; exact Nat.zero_le _
  | succ k ih =>
    have slept : (looks k).waited.nanos + interval.nanos ≤ (looks (k + 1)).ended.nanos :=
      paced.spaced k
    have taken : (looks (k + 1)).ended.nanos ≤ (looks (k + 1)).waited.nanos :=
      paced.ended_le_waited (k + 1)
    rw [Nat.add_one_mul]
    omega

/-- As many looks fit the window as intervals, beside the first and the one that comes too late. -/
theorem exists_firstLate (window : Duration) (positive : 0 < interval.nanos) :
    ∃ m ≤ window.nanos / interval.nanos + 1, FirstLate window looks m := by
  have late : window < (looks (window.nanos / interval.nanos + 1)).waited := by
    refine Nat.lt_of_lt_of_le ?_ (paced.spread _)
    exact Nat.mul_comm .. ▸ Nat.lt_mul_div_succ _ positive
  have comes : ∃ k, window < (looks k).waited := ⟨_, late⟩
  exact ⟨Nat.find comes, Nat.find_min' comes late, Nat.find_spec comes,
    fun _ late => Nat.find_min' comes late⟩

end Paced

theorem FirstLate.exists_await (first : FirstLate window looks m) (l : Listener) :
    ∃ k ≤ m, ∃ verdict, (∀ j < k, l.look? window (looks j) = none) ∧
      l.look? window (looks k) = some verdict ∧
      l.await window ((List.range (m + 1)).map looks) = some (looks k, verdict) := by
  have last : l.look? window (looks m) ≠ none := fun undecided =>
    Nat.not_le.mpr first.1 (look?_eq_none_iff.mp undecided).2.2
  have decides : ∃ k, l.look? window (looks k) ≠ none := ⟨m, last⟩
  have within : Nat.find decides ≤ m := Nat.find_min' decides last
  obtain ⟨verdict, looked⟩ := Option.ne_none_iff_exists'.mp (Nat.find_spec decides)
  have before : ∀ j < Nat.find decides, l.look? window (looks j) = none :=
    fun j earlier => not_not.mp (Nat.find_min decides earlier)
  exact ⟨_, within, verdict, before, looked, await_of_first before looked within⟩

/-- What the window promises of a wait that ends with that look. -/
def KeepsWindow (l : Listener) (window : Duration) (look : Look)
    (verdict : Except ListenerError Unit) : Prop :=
  (verdict = .ok () → l.boundBy window = true) ∧
    (l.endedBy (look.decided verdict) = true ∨ l.boundBy window = false →
      ∃ error, verdict = .error error)

/-- Bound between the window and the look after it, which does not find it ended. -/
def BoundLate (l : Listener) (window : Duration) (last : Look) : Prop :=
  l.endedBy last.ended = false ∧ ∃ bound, l.bound = some bound ∧ window < bound ∧ bound ≤ last.bound

/-- Ended after the look asked for that and before it finds the listener bound. -/
def EndsUnseen (l : Listener) (look : Look) : Prop :=
  l.endedBy look.ended = false ∧ l.boundBy look.bound = true ∧ l.endedBy look.bound = true

theorem boundLate_iff {last : Look} : l.BoundLate window last ↔
    l.endedBy last.ended = false ∧ l.boundBy last.bound = true ∧ l.boundBy window = false := by
  have later {bound : Duration} : window < bound ↔ ¬ bound ≤ window := Nat.not_le.symm
  cases at_ : l.bound <;> simp [BoundLate, boundBy, at_, later, and_comm]

/-- An error is all that is promised to a listener that has ended or missed the window, so the only
way to break the promise is to accept one. -/
theorem keepsWindow_iff_of_look (looked : l.look? window look = some verdict) :
    l.KeepsWindow window look verdict ↔ ¬ (l.endedBy look.ended = false ∧
      l.boundBy look.bound = true ∧ l.boundBy window = false) ∧ ¬ l.EndsUnseen look := by
  have accepted : verdict = .ok () ↔
      l.endedBy look.ended = false ∧ l.boundBy look.bound = true := by
    rw [← look?_eq_ok_iff, looked, Option.some.injEq]
  unfold KeepsWindow EndsUnseen
  rcases verdict with error | ⟨⟨⟩⟩
  · have refused : ¬ (l.endedBy look.ended = false ∧ l.boundBy look.bound = true) :=
      fun both => nomatch accepted.mpr both
    simp [← and_assoc, refused]
  · obtain ⟨alive, bound⟩ := accepted.mp rfl
    have when_ : look.decided (.ok ()) = look.bound := rfl
    rw [when_]
    cases l.boundBy window <;> simp [alive, bound]

theorem keepsWindow_iff_of_early (looked : l.look? window look = some verdict)
    (early : look.bound ≤ window) : l.KeepsWindow window look verdict ↔ ¬ l.EndsUnseen look := by
  rw [keepsWindow_iff_of_look looked, and_iff_right_iff_imp]
  rintro _ ⟨_, bound, missed⟩
  rw [boundBy_mono early bound] at missed
  cases missed

theorem BoundLate.undecided (late : l.BoundLate window (looks m)) (paced : Paced interval looks)
    (earlier : k < m) (inWindow : (looks k).waited ≤ window) :
    l.look? window (looks k) = none := by
  obtain ⟨alive, _, missed⟩ := boundLate_iff.mp late
  refine look?_eq_none_iff.mpr ⟨?_, ?_, inWindow⟩
  · exact Bool.eq_false_iff.mpr fun ended =>
      Bool.eq_false_iff.mp alive (endedBy_mono (paced.ended_mono (Nat.le_of_lt earlier)) ended)
  · exact Bool.eq_false_iff.mpr fun bound => Bool.eq_false_iff.mp missed
      (boundBy_mono (Nat.le_trans (paced.ordered k).2 inWindow) bound)

/-- A wait with pauses of at least the interval ends with the look after the window at the latest,
which comes if the interval is positive. It accepts only a listener that was bound in the window and
refuses one that has ended or was not, unless the listener is bound between the window and that
look, or ends between two readings of the look that accepts it. Without a look after the window
only the latter can happen. -/
theorem window_kept_iff (paced : Paced interval looks) (window : Duration) (l : Listener) :
    (0 < interval.nanos → ∃ m ≤ window.nanos / interval.nanos + 1, FirstLate window looks m) ∧
    (∀ m, FirstLate window looks m → ∃ k ≤ m, ∃ verdict,
      l.await window ((List.range (m + 1)).map looks) = some (looks k, verdict) ∧
      (l.KeepsWindow window (looks k) verdict ↔
        ¬ l.BoundLate window (looks m) ∧ ¬ l.EndsUnseen (looks k))) ∧
    ((∀ k, (looks k).waited ≤ window) → ∀ n look verdict,
      l.await window ((List.range n).map looks) = some (look, verdict) →
        (l.KeepsWindow window look verdict ↔ ¬ l.EndsUnseen look)) := by
  refine ⟨paced.exists_firstLate window, fun m first => ?_, fun inWindow n look verdict ends => ?_⟩
  · obtain ⟨k, within, verdict, before, looked, ends⟩ := first.exists_await l
    refine ⟨k, within, verdict, ends, ?_⟩
    rcases Nat.lt_or_eq_of_le within with earlier | rfl
    · have inWindow := first.le_window earlier
      have early : (looks k).bound ≤ window := Nat.le_trans (paced.ordered k).2 inWindow
      rw [keepsWindow_iff_of_early looked early, iff_and_self]
      rintro _ late
      rw [late.undecided paced earlier inWindow] at looked
      cases looked
    · rw [keepsWindow_iff_of_look looked, ← boundLate_iff]
  · obtain ⟨member, looked⟩ := mem_of_await ends
    obtain ⟨k, _, rfl⟩ := List.mem_map.mp member
    exact keepsWindow_iff_of_early looked (Nat.le_trans (paced.ordered k).2 (inWindow k))

def slowLook (k : Nat) : Look :=
  ⟨.ofSecs (k * 2), .ofMillis (k * 2000 + 5), .ofMillis (k * 2000 + 10)⟩

/-- Bound just before the second look asks for it, which is in time. -/
theorem prompt_keeps_window : Paced (.ofSecs 1) slowLook ∧
    FirstLate (.ofSecs 3) slowLook 2 ∧
    ∃ k verdict, ({ bound := some (.ofMillis 2003) } : Listener).await (.ofSecs 3)
        ((List.range 3).map slowLook) = some (slowLook k, verdict) ∧
      ({ bound := some (.ofMillis 2003) } : Listener).KeepsWindow (.ofSecs 3) (slowLook k)
        verdict := by
  have paced : Paced (.ofSecs 1) slowLook := by
    refine ⟨fun k => ⟨?_, ?_⟩, fun k => ?_⟩
    · show k * 2 * 1000000000 ≤ (k * 2000 + 5) * 1000000
      omega
    · show (k * 2000 + 5) * 1000000 ≤ (k * 2000 + 10) * 1000000
      omega
    · show (k * 2000 + 10) * 1000000 + 1 * 1000000000 ≤ (k + 1) * 2 * 1000000000
      omega
  have first : FirstLate (.ofSecs 3) slowLook 2 := by
    refine ⟨by decide, fun k late => ?_⟩
    change 3 * 1000000000 < (k * 2000 + 10) * 1000000 at late
    omega
  obtain ⟨k, _, verdict, ends, kept⟩ :=
    (window_kept_iff paced (.ofSecs 3) { bound := some (.ofMillis 2003) }).2.1 2 first
  refine ⟨paced, first, k, verdict, ends, kept.mpr ⟨fun late => ?_, fun unseen => ?_⟩⟩
  · exact absurd (boundLate_iff.mp late).2.2 (by decide)
  · cases unseen.2.2

def everySecs (secs k : Nat) : Look := .instant (.ofSecs (k * secs))

/-- A second after the window, and with a look every five seconds the listener is still accepted. -/
theorem late_listener_accepted : Paced (.ofSecs 5) (everySecs 5) ∧
    FirstLate (.ofSecs 3) (everySecs 5) 1 ∧
    ({ bound := some (.ofSecs 4) } : Listener).await (.ofSecs 3)
        ((List.range 2).map (everySecs 5)) = some (.instant (.ofSecs 5), .ok ()) ∧
      ({ bound := some (.ofSecs 4) } : Listener).boundBy (.ofSecs 3) = false ∧
      ¬ ({ bound := some (.ofSecs 4) } : Listener).KeepsWindow (.ofSecs 3) (.instant (.ofSecs 5))
        (.ok ()) := by
  have paced : Paced (.ofSecs 5) (everySecs 5) := by
    refine ⟨fun k => ⟨Nat.le_refl _, Nat.le_refl _⟩, fun k => ?_⟩
    show k * 5 * 1000000000 + 5 * 1000000000 ≤ (k + 1) * 5 * 1000000000
    omega
  have first : FirstLate (.ofSecs 3) (everySecs 5) 1 := by
    refine ⟨by decide, fun k late => ?_⟩
    change 3 * 1000000000 < k * 5 * 1000000000 at late
    omega
  have missed : ({ bound := some (.ofSecs 4) } : Listener).boundBy (.ofSecs 3) = false := by
    decide
  refine ⟨paced, first, rfl, missed, fun kept => ?_⟩
  rw [kept.1 rfl] at missed
  cases missed

end AgentOperator.Listener
