import AgentOperator.Proofs.ExpiryTime
import AgentOperator.Proofs.MarkerGate
import Mathlib.Data.List.Pairwise

/-!
What a wait for an object has seen. Programs read the clock where they need it; here every event has
its moment, on clocks that never go back. A wait that finds the object found nothing before. One
that gives up found nothing at all, and its next look would have come after its timeout: the looks
that it is allowed do not run out before, since each pause takes its time.
-/
namespace AgentOperator

abbrev Timeline := List (Moment × Event)

namespace Timeline
variable {t first last : Timeline}

def events (t : Timeline) : List Event := t.map (·.2)

/-- How the clocks go from one event to a later one: neither goes back, and a sleep takes its span,
and some time at all. -/
structure Follows (a b : Moment × Event) : Prop where
  wall : a.1.wall ≤ b.1.wall
  elapsed : a.1.elapsed.nanos ≤ b.1.elapsed.nanos
  slept : ∀ span, a.2 = .sleep span →
    a.1.elapsed.nanos + max span.asSleep.nanos 1 ≤ b.1.elapsed.nanos

structure OnClocks (t : Timeline) : Prop where
  /-- A reading shows the moment at which it is made. -/
  shown : ∀ p ∈ t, ∀ moment, p.2 = .clock moment → moment = p.1
  calendar : ∀ p ∈ t, p.1.wall.OnClock
  ordered : t.Pairwise Follows

theorem OnClocks.split (clocks : OnClocks (first ++ last)) :
    first.OnClocks ∧ last.OnClocks ∧ ∀ a ∈ first, ∀ b ∈ last, Follows a b := by
  obtain ⟨shown, calendar, ordered⟩ := clocks
  obtain ⟨before, after, across⟩ := List.pairwise_append.mp ordered
  exact ⟨⟨fun p member => shown p (by simp [member]), fun p member => calendar p (by simp [member]),
      before⟩, ⟨fun p member => shown p (by simp [member]),
      fun p member => calendar p (by simp [member]), after⟩, across⟩

theorem OnClocks.cons {p : Moment × Event} (clocks : OnClocks (p :: t)) :
    t.OnClocks ∧ ∀ b ∈ t, Follows p b := by
  have apart : OnClocks ([p] ++ t) := clocks
  obtain ⟨_, after, across⟩ := apart.split
  exact ⟨after, across p (by simp)⟩

theorem OnClocks.stretch {first middle last : List Event} (clocks : t.OnClocks)
    (same : t.events = first ++ (middle ++ last)) :
    ∃ u : Timeline, u.events = middle ∧ u.OnClocks := by
  obtain ⟨before, rest, rfl, _, later⟩ := List.map_eq_append_iff.mp same
  obtain ⟨u, after, rfl, within, _⟩ := List.map_eq_append_iff.mp later
  exact ⟨u, within, clocks.split.2.1.split.1⟩

theorem OnClocks.reading {moment : Moment} (clocks : t.OnClocks)
    (member : .clock moment ∈ t.events) : (moment, .clock moment) ∈ t ∧ moment.wall.OnClock := by
  obtain ⟨p, within, read⟩ := List.mem_map.mp member
  obtain rfl := clocks.shown p within moment read
  exact ⟨read ▸ within, clocks.calendar p within⟩

def frozen (moment : Moment) (events : List Event) : Timeline := events.map (moment, ·)

theorem events_frozen (moment : Moment) (events : List Event) :
    (frozen moment events).events = events := by
  rw [Timeline.events, frozen, List.map_map]
  exact List.map_id events

theorem onClocks_frozen {moment : Moment} {events : List Event} (clock : moment.wall.OnClock)
    (shown : ∀ reading, .clock reading ∈ events → reading = moment)
    (awake : ∀ span, .sleep span ∉ events) : (Timeline.frozen moment events).OnClocks := by
  have still (p : Moment × Event) (member : p ∈ Timeline.frozen moment events) :
      p.1 = moment ∧ p.2 ∈ events := by
    obtain ⟨e, within, rfl⟩ := List.mem_map.mp member
    exact ⟨rfl, within⟩
  refine ⟨?_, ?_, ?_⟩
  · intro p member reading read
    obtain ⟨now, within⟩ := still p member
    rw [now]
    exact shown reading (read ▸ within)
  · intro p member
    rw [(still p member).1]
    exact clock
  · refine List.pairwise_of_forall_mem_list ?_
    intro a earlier b later
    obtain ⟨first, within⟩ := still a earlier
    obtain ⟨second, _⟩ := still b later
    have same : a.1.elapsed.nanos = b.1.elapsed.nanos := by rw [first, second]
    refine ⟨?_, Nat.le_of_eq same, ?_⟩
    · rw [first, second]
      exact Or.inr ⟨rfl, Nat.le_refl _⟩
    · intro span slept
      exact absurd (slept ▸ within) (awake span)

end Timeline

theorem Event.first_unique {P : Event → Prop} {before before' after after' : List Event}
    {e e' : Event} (same : before ++ e :: after = before' ++ e' :: after')
    (none_ : ∀ x ∈ before, ¬ P x) (none' : ∀ x ∈ before', ¬ P x) (here : P e) (there : P e') :
    before = before' ∧ e = e' ∧ after = after' := by
  induction before generalizing before' with
  | nil =>
    cases before' with
    | nil => exact ⟨rfl, List.cons.inj same⟩
    | cons x rest' =>
      obtain ⟨rfl, _⟩ := List.cons.inj same
      exact absurd here (none' e List.mem_cons_self)
  | cons x rest ih =>
    cases before' with
    | nil =>
      obtain ⟨rfl, _⟩ := List.cons.inj same
      exact absurd there (none_ x List.mem_cons_self)
    | cons x' rest' =>
      obtain ⟨rfl, tail⟩ := List.cons.inj same
      obtain ⟨rfl, found⟩ := ih tail (fun y member => none_ y (List.mem_cons_of_mem _ member))
        fun y member => none' y (List.mem_cons_of_mem _ member)
      exact ⟨rfl, found⟩

def Event.Misses (slot : Slot) (e : Event) : Prop :=
  ∃ text, e = .call (.get slot) (.error (.notFound text))

def Event.Finds (slot : Slot) (e : Event) : Prop :=
  ∃ object, e = .call (.get slot) (.ok object)

def Event.Looks (e : Event) : Prop := e.verb? = none ∨ e.verb? = some .get

/-- Nothing that a wait could fail at: a look that found something or nothing, or no call at all. -/
def Event.Calm (e : Event) : Prop := e.verb? = none ∨ ∃ slot, e.Misses slot ∨ e.Finds slot

theorem Event.Calm.looks {e : Event} (calm : e.Calm) : e.Looks := by
  rcases calm with silent | ⟨slot, ⟨text, rfl⟩ | ⟨object, rfl⟩⟩
  · exact Or.inl silent
  · exact Or.inr rfl
  · exact Or.inr rfl

/-- The last event finds the object, and no look before it found anything. -/
def Met (slot : Slot) (object : Object) (events : List Event) : Prop :=
  ∃ before, events = before ++ [.call (.get slot) (.ok object)] ∧
    ∀ e ∈ before, e.verb? = none ∨ e.Misses slot

/-- No look finds anything, up to one after which the next, an interval and a nanosecond at least
later, would come after the timeout. -/
def Unmet (slot : Slot) (window : PollWindow) (events : List Event) : Prop :=
  (∀ e ∈ events, e.verb? = none ∨ e.Misses slot) ∧
    ∃ start looks text last rest,
      events = .clock start ::
        (looks ++ .call (.get slot) (.error (.notFound text)) :: .clock last :: rest) ∧
      start.elapsed.nanos + window.timeout.nanos < last.elapsed.nanos + max window.interval.nanos 1

section Events
variable {slot other : Slot} {object object' : Object} {window : PollWindow} {e : Event}
  {events first first' rest rest' : List Event} {value : Except StoreError (Option Object)}

theorem Event.not_finds_of_misses (misses : e.verb? = none ∨ e.Misses slot) : ¬ e.Finds other := by
  rintro ⟨object, rfl⟩
  rcases misses with silent | ⟨text, same⟩
  · cases silent
  · cases same

theorem Met.unique (met : Met slot object first) (again : Met slot object' first')
    (same : first ++ rest = first' ++ rest') : object = object' ∧ rest = rest' := by
  obtain ⟨before, rfl, missed⟩ := met
  obtain ⟨before', rfl, missed'⟩ := again
  rw [List.append_assoc, List.append_assoc] at same
  obtain ⟨_, found, after⟩ := Event.first_unique same
    (fun x member => Event.not_finds_of_misses (missed x member))
    (fun x member => Event.not_finds_of_misses (missed' x member)) ⟨_, rfl⟩ ⟨_, rfl⟩
  cases found
  exact ⟨rfl, after⟩

theorem Met.calm (met : Met slot object events) : ∀ e ∈ events, e.Calm := by
  obtain ⟨before, rfl, missed⟩ := met
  intro e member
  rcases List.mem_append.mp member with earlier | last
  · exact (missed e earlier).imp_right fun misses => ⟨slot, Or.inl misses⟩
  · exact Or.inr ⟨slot, Or.inr ⟨object, List.mem_singleton.mp last⟩⟩

theorem Met.finds (met : Met slot object events) : ∃ e ∈ events, e.Finds slot := by
  obtain ⟨before, rfl, _⟩ := met
  exact ⟨_, by simp, object, rfl⟩

theorem Unmet.calm (unmet : Unmet slot window events) : ∀ e ∈ events, e.Calm :=
  fun e member => (unmet.1 e member).imp_right fun misses => ⟨slot, Or.inl misses⟩

namespace Program

theorem Looked.met (looked : Looked slot events value) (found : value = .ok (some object)) :
    Met slot object events := by
  induction looked with
  | spent => cases found
  | found o =>
    cases found
    exact ⟨[], rfl, by simp⟩
  | failed worse => cases found
  | late text moment => cases found
  | again text moment span _ ih =>
    obtain ⟨before, rfl, missed⟩ := ih found
    refine ⟨.call (.get slot) (.error (.notFound text)) :: .clock moment :: .sleep span :: before,
      rfl, ?_⟩
    intro e member
    rcases List.mem_cons.mp member with rfl | member
    · exact Or.inr ⟨text, rfl⟩
    rcases List.mem_cons.mp member with rfl | member
    · exact Or.inl rfl
    rcases List.mem_cons.mp member with rfl | member
    · exact Or.inl rfl
    · exact missed e member

theorem Looked.cases_of_mem (looked : Looked slot events value) (member : e ∈ events) :
    e.verb? = none ∨ e.Misses slot ∨
      (∃ object, e = .call (.get slot) (.ok object) ∧ value = .ok (some object)) ∨
      ∃ error, (∀ text, error ≠ .notFound text) ∧ e = .call (.get slot) (.error error) ∧
        value = .error error := by
  induction looked with
  | spent => simp at member
  | found o =>
    obtain rfl := List.mem_singleton.mp member
    exact Or.inr (Or.inr (Or.inl ⟨o, rfl, rfl⟩))
  | failed worse =>
    obtain rfl := List.mem_singleton.mp member
    exact Or.inr (Or.inr (Or.inr ⟨_, worse, rfl, rfl⟩))
  | late text moment =>
    rcases List.mem_cons.mp member with rfl | member
    · exact Or.inr (Or.inl ⟨text, rfl⟩)
    · obtain rfl := List.mem_singleton.mp member
      exact Or.inl rfl
  | again text moment span _ ih =>
    rcases List.mem_cons.mp member with rfl | member
    · exact Or.inr (Or.inl ⟨text, rfl⟩)
    rcases List.mem_cons.mp member with rfl | member
    · exact Or.inl rfl
    rcases List.mem_cons.mp member with rfl | member
    · exact Or.inl rfl
    · exact ih member

theorem cases_of_poll (run : (poll slot window).Runs events value) (member : e ∈ events) :
    e.verb? = none ∨ e.Misses slot ∨
      (∃ object, e = .call (.get slot) (.ok object) ∧ value = .ok (some object)) ∨
      ∃ error, (∀ text, error ≠ .notFound text) ∧ e = .call (.get slot) (.error error) ∧
        value = .error error := by
  obtain ⟨start, looks, rfl, looked⟩ := looked_of_poll run
  rcases List.mem_cons.mp member with rfl | later
  · exact Or.inl rfl
  · exact looked.cases_of_mem later

theorem looks_of_poll (run : (poll slot window).Runs events value) : ∀ e ∈ events, e.Looks := by
  intro e member
  rcases cases_of_poll run member with silent | ⟨_, rfl⟩ | ⟨_, rfl, _⟩ | ⟨_, _, rfl, _⟩
  · exact Or.inl silent
  · exact Or.inr rfl
  · exact Or.inr rfl
  · exact Or.inr rfl

theorem found_of_finds (run : (poll slot window).Runs events value) (member : e ∈ events)
    (finds : e.Finds other) : ∃ object, value = .ok (some object) := by
  obtain ⟨object, rfl⟩ := finds
  rcases cases_of_poll run member with silent | ⟨_, same⟩ | ⟨_, _, found⟩ | ⟨_, _, same, _⟩
  · cases silent
  · cases same
  · exact ⟨_, found⟩
  · cases same

theorem met_of_poll (run : (poll slot window).Runs events (.ok (some object))) :
    Met slot object events := by
  obtain ⟨start, looks, rfl, looked⟩ := looked_of_poll run
  obtain ⟨before, rfl, missed⟩ := looked.met rfl
  refine ⟨.clock start :: before, rfl, ?_⟩
  intro e member
  rcases List.mem_cons.mp member with rfl | later
  · exact Or.inl rfl
  · exact missed e later

theorem missed_look {interval deadline : Duration} {looks : Nat}
    (run : (lookUntil slot interval deadline (looks + 1)).Runs events (.ok none)) :
    ∃ text last rest,
      events = .call (.get slot) (.error (.notFound text)) :: .clock last :: rest ∧
      (deadline.nanos < last.elapsed.nanos + interval.nanos ∨ ∃ later,
        rest = .sleep interval :: later ∧
        (lookUntil slot interval deadline looks).Runs later (.ok none)) := by
  rw [lookUntil, get_bind, runs_call] at run
  obtain ⟨answer, others, rfl, run⟩ := run
  rcases answer with error | object
  · cases error with
    | notFound text =>
      dsimp only at run
      rw [now_bind, runs_clock] at run
      obtain ⟨last, rest, rfl, run⟩ := run
      refine ⟨text, last, rest, rfl, ?_⟩
      split at run
      · next late => exact Or.inl late
      · rw [pause_bind, runs_sleep] at run
        exact Or.inr run
    | _ => cases (runs_pure.mp run).2
  · cases (runs_pure.mp run).2

/-- Looks that found nothing end when the next would come too late; `base` is a time before all of
them, from which as many pauses as looks are left lead past the deadline. -/
theorem late_of_lookUntil {interval deadline : Duration} {looks base : Nat} {t : Timeline}
    (clocks : t.OnClocks) (floor : ∀ p ∈ t, base ≤ p.1.elapsed.nanos)
    (enough : deadline.nanos < base + looks * max interval.asSleep.nanos 1)
    (run : (lookUntil slot interval deadline looks).Runs t.events (.ok none)) :
    looks = 0 ∨ ∃ before text last rest,
      t.events = before ++ .call (.get slot) (.error (.notFound text)) :: .clock last :: rest ∧
      deadline.nanos < last.elapsed.nanos + max interval.nanos 1 := by
  induction looks generalizing t base with
  | zero => exact Or.inl rfl
  | succ looks ih =>
    right
    obtain ⟨text, last, rest, same, ended⟩ := missed_look run
    obtain ⟨look, afterLook, rfl, _, reading⟩ := List.map_eq_cons_iff.mp same
    obtain ⟨seen, afterSeen, rfl, isSeen, rfl⟩ := List.map_eq_cons_iff.mp reading
    have shown := clocks.shown seen (by simp) last isSeen
    have begun : base ≤ last.elapsed.nanos := shown ▸ floor seen (by simp)
    rcases ended with late | ⟨later, pausing, again⟩
    · refine ⟨[], text, last, _, same, ?_⟩
      omega
    · obtain ⟨pause, others, rfl, isPause, rfl⟩ := List.map_eq_cons_iff.mp pausing
      obtain ⟨clocks', follows⟩ := clocks.cons.1.cons
      have paused : last.elapsed.nanos ≤ pause.1.elapsed.nanos :=
        shown ▸ (follows pause (by simp)).elapsed
      obtain ⟨clocks'', after⟩ := clocks'.cons
      have floor' : ∀ p ∈ others,
          last.elapsed.nanos + max interval.asSleep.nanos 1 ≤ p.1.elapsed.nanos := by
        intro p member
        have := (after p member).slept interval isPause
        omega
      have enough' : deadline.nanos < last.elapsed.nanos + max interval.asSleep.nanos 1 +
          looks * max interval.asSleep.nanos 1 := by
        rw [Nat.succ_mul] at enough
        omega
      rcases ih clocks'' floor' enough' again with rfl | ⟨before, text', last', rest, found, late⟩
      · -- the looks have run out, but then the pause was longer than what was left
        refine ⟨[], text, last, _, same, ?_⟩
        have cut : interval.asSleep.nanos ≤ interval.nanos := Nat.min_le_left _ _
        omega
      · refine ⟨.call (.get slot) (.error (.notFound text)) :: .clock last :: .sleep interval ::
          before, text', last', rest, ?_, late⟩
        rw [same, pausing]
        exact congrArg (fun tail => _ :: _ :: _ :: tail) found

theorem unmet_of_poll {t : Timeline} (clocks : t.OnClocks)
    (run : (poll slot window).Runs t.events (.ok none)) : Unmet slot window t.events := by
  constructor
  · intro e member
    rcases cases_of_poll run member with silent | misses | ⟨_, _, ended⟩ | ⟨_, _, _, ended⟩
    · exact Or.inl silent
    · exact Or.inr misses
    · cases ended
    · cases ended
  · rw [poll, now_bind, runs_clock] at run
    obtain ⟨start, rest, same, run⟩ := run
    obtain ⟨seen, afterSeen, rfl, isSeen, rfl⟩ := List.map_eq_cons_iff.mp same
    obtain ⟨clocks', follows⟩ := clocks.cons
    have floor : ∀ p ∈ afterSeen, start.elapsed.nanos ≤ p.1.elapsed.nanos := by
      intro p member
      rw [clocks.shown seen (by simp) start isSeen]
      exact (follows p member).elapsed
    have enough : (start.elapsed + window.timeout).nanos <
        start.elapsed.nanos + window.looks * max window.interval.asSleep.nanos 1 := by
      have room := Nat.lt_mul_div_succ window.timeout.nanos
        (show 0 < max window.interval.asSleep.nanos 1 by omega)
      rw [Nat.mul_comm] at room
      exact Nat.add_lt_add_left room _
    rcases late_of_lookUntil clocks' floor enough run with
      none_ | ⟨before, text, last, rest, found, late⟩
    · cases none_
    · refine ⟨start, before, text, last, rest, ?_, late⟩
      rw [Timeline.events, List.map_cons, isSeen]
      exact congrArg _ found

end Program
end Events
end AgentOperator
