import AgentOperator.Store.Program

/-!
What a program does when it runs, whatever the world answers. A run is the list of events from the
first to the last; a run of two programs in sequence is a run of the one followed by a run of the
other. What all the calls of a program have in common is said of the program itself, once for every
run of it.
-/
namespace AgentOperator

/-- One thing that a program did, and what it was told. -/
inductive Event where
  | call (c : Call) (answer : c.Answer)
  | clock (moment : Moment)
  | sleep (span : Duration)
  | measure (m : Measurement)

theorem Event.split_append {first last before after : List Event} {e : Event}
    (same : first ++ last = before ++ e :: after) :
    (∃ middle, first = before ++ e :: middle) ∨
      ∃ middle, before = first ++ middle ∧ last = middle ++ e :: after := by
  rcases List.append_eq_append_iff.mp same with ⟨middle, left, right⟩ | ⟨middle, left, right⟩
  · exact Or.inr ⟨middle, left, right⟩
  · cases middle with
    | nil => exact Or.inr ⟨[], by simpa using left.symm, by simpa using right.symm⟩
    | cons head middle =>
      obtain ⟨rfl, _⟩ := List.cons.inj right
      exact Or.inl ⟨middle, left⟩

theorem Event.eq_last {first before after : List Event} {e last : Event}
    (same : before ++ e :: after = first ++ [last]) (new : e ∉ first) :
    before = first ∧ e = last := by
  rcases split_append same.symm with ⟨middle, rfl⟩ | ⟨middle, rfl, tail⟩
  · exact absurd (by simp) new
  · cases middle with
    | nil =>
      obtain ⟨rfl, _⟩ := List.cons.inj tail
      exact ⟨by simp, rfl⟩
    | cons head middle => simp at tail

namespace Program
variable {α β : Type}

/-- The program may do these events in this order and end with this value. -/
inductive Runs : Program α → List Event → α → Prop where
  | done (value : α) : Runs (.done value) [] value
  | call {c : Call} {next : c.Answer → Program α} {events : List Event} {value : α}
      (answer : c.Answer) (rest : Runs (next answer) events value) :
      Runs (.call c next) (.call c answer :: events) value
  | clock {next : Moment → Program α} {events : List Event} {value : α}
      (moment : Moment) (rest : Runs (next moment) events value) :
      Runs (.clock next) (.clock moment :: events) value
  | sleep {next : Program α} {events : List Event} {value : α}
      (span : Duration) (rest : Runs next events value) :
      Runs (.sleep span next) (.sleep span :: events) value
  | measure {next : Program α} {events : List Event} {value : α}
      (m : Measurement) (rest : Runs next events value) :
      Runs (.measure m next) (.measure m :: events) value

@[simp] theorem get_bind (slot : Slot) (f : Except StoreError Object → Program α) :
    (get slot >>= f) = .call (.get slot) f := rfl

@[simp] theorem create_bind (r : Resource) (f : Except StoreError Object → Program α) :
    (create r >>= f) = .call (.create r) f := rfl

@[simp] theorem replace_bind (r : Resource) (f : Except StoreError Object → Program α) :
    (replace r >>= f) = .call (.replace r) f := rfl

@[simp] theorem replaceStatus_bind (r : Resource) (f : Except StoreError Object → Program α) :
    (replaceStatus r >>= f) = .call (.replaceStatus r) f := rfl

@[simp] theorem delete_bind (slot : Slot) (f : Except StoreError Unit → Program α) :
    (delete slot >>= f) = .call (.delete slot) f := rfl

@[simp] theorem apply_bind (r : Resource) (manager : String) (force : Bool)
    (f : Except StoreError Object → Program α) :
    (apply r manager force >>= f) = .call (.apply r manager force) f := rfl

@[simp] theorem requestToken_bind (account : Key) (request : TokenRequest)
    (f : Except StoreError String → Program α) :
    (requestToken account request >>= f) = .call (.requestToken account request) f := rfl

@[simp] theorem now_bind (f : Moment → Program α) : (now >>= f) = .clock f := rfl

@[simp] theorem pause_bind (span : Duration) (f : Unit → Program α) :
    (pause span >>= f) = .sleep span (f ()) := rfl

@[simp] theorem record_bind (m : Measurement) (f : Unit → Program α) :
    (record m >>= f) = .measure m (f ()) := rfl

@[simp] theorem runs_pure {value result : α} {events : List Event} :
    Runs (pure value) events result ↔ events = [] ∧ result = value := by
  constructor
  · intro run
    cases run
    exact ⟨rfl, rfl⟩
  · rintro ⟨rfl, rfl⟩
    exact .done _

@[simp] theorem runs_call {c : Call} {next : c.Answer → Program α} {events : List Event}
    {value : α} :
    Runs (.call c next) events value ↔
      ∃ answer rest, events = .call c answer :: rest ∧ Runs (next answer) rest value := by
  constructor
  · intro run
    cases run with
    | call answer rest => exact ⟨answer, _, rfl, rest⟩
  · rintro ⟨answer, rest, rfl, run⟩
    exact .call answer run

@[simp] theorem runs_clock {next : Moment → Program α} {events : List Event} {value : α} :
    Runs (.clock next) events value ↔
      ∃ moment rest, events = .clock moment :: rest ∧ Runs (next moment) rest value := by
  constructor
  · intro run
    cases run with
    | clock moment rest => exact ⟨moment, _, rfl, rest⟩
  · rintro ⟨moment, rest, rfl, run⟩
    exact .clock moment run

@[simp] theorem runs_sleep {span : Duration} {next : Program α} {events : List Event} {value : α} :
    Runs (.sleep span next) events value ↔
      ∃ rest, events = .sleep span :: rest ∧ Runs next rest value := by
  constructor
  · intro run
    cases run with
    | sleep _ rest => exact ⟨_, rfl, rest⟩
  · rintro ⟨rest, rfl, run⟩
    exact .sleep span run

@[simp] theorem runs_measure {m : Measurement} {next : Program α} {events : List Event}
    {value : α} :
    Runs (.measure m next) events value ↔
      ∃ rest, events = .measure m :: rest ∧ Runs next rest value := by
  constructor
  · intro run
    cases run with
    | measure _ rest => exact ⟨_, rfl, rest⟩
  · rintro ⟨rest, rfl, run⟩
    exact .measure m run

theorem runs_bind {p : Program α} {f : α → Program β} {events : List Event} {value : β} :
    Runs (p >>= f) events value ↔
      ∃ first middle last, events = first ++ last ∧ Runs p first middle ∧
        Runs (f middle) last value := by
  constructor
  · -- on the program, since the run does not show where the second program begins
    intro run
    change Runs (p.bind f) events value at run
    induction p generalizing events with
    | done a => exact ⟨[], a, events, rfl, .done a, run⟩
    | call c next ih =>
      obtain ⟨answer, rest, rfl, inner⟩ := runs_call.mp run
      obtain ⟨first, middle, last, rfl, head, tail⟩ := ih answer inner
      exact ⟨_ :: first, middle, last, rfl, .call answer head, tail⟩
    | clock next ih =>
      obtain ⟨moment, rest, rfl, inner⟩ := runs_clock.mp run
      obtain ⟨first, middle, last, rfl, head, tail⟩ := ih moment inner
      exact ⟨_ :: first, middle, last, rfl, .clock moment head, tail⟩
    | sleep span next ih =>
      obtain ⟨rest, rfl, inner⟩ := runs_sleep.mp run
      obtain ⟨first, middle, last, rfl, head, tail⟩ := ih inner
      exact ⟨_ :: first, middle, last, rfl, .sleep span head, tail⟩
    | measure m next ih =>
      obtain ⟨rest, rfl, inner⟩ := runs_measure.mp run
      obtain ⟨first, middle, last, rfl, head, tail⟩ := ih inner
      exact ⟨_ :: first, middle, last, rfl, .measure m head, tail⟩
  · rintro ⟨first, middle, last, rfl, head, tail⟩
    change Runs (p.bind f) (first ++ last) value
    induction head with
    | done a => exact tail
    | call answer rest ih => exact .call answer (ih tail)
    | clock moment rest ih => exact .clock moment (ih tail)
    | sleep span rest ih => exact .sleep span (ih tail)
    | measure m rest ih => exact .measure m (ih tail)

theorem Runs.unique {p : Program α} {events others whole : List Event} {value other : α}
    (run : p.Runs events value) (again : p.Runs others other) (within : events <+: whole)
    (agrees : others <+: whole) : events = others ∧ value = other := by
  induction run generalizing others whole with
  | done a =>
    cases again
    exact ⟨rfl, rfl⟩
  | call answer rest ih =>
    obtain ⟨reply, later, rfl, rerun⟩ := runs_call.mp again
    obtain ⟨tail, rfl⟩ := within
    obtain ⟨same, laterAgrees⟩ := List.cons_prefix_cons.mp agrees
    obtain rfl : answer = reply := by
      cases same
      rfl
    obtain ⟨rfl, rfl⟩ := ih rerun (List.prefix_append _ tail) laterAgrees
    exact ⟨rfl, rfl⟩
  | clock moment rest ih =>
    obtain ⟨reading, later, rfl, rerun⟩ := runs_clock.mp again
    obtain ⟨tail, rfl⟩ := within
    obtain ⟨same, laterAgrees⟩ := List.cons_prefix_cons.mp agrees
    obtain rfl : moment = reading := by
      cases same
      rfl
    obtain ⟨rfl, rfl⟩ := ih rerun (List.prefix_append _ tail) laterAgrees
    exact ⟨rfl, rfl⟩
  | sleep span rest ih =>
    obtain ⟨later, rfl, rerun⟩ := runs_sleep.mp again
    obtain ⟨tail, rfl⟩ := within
    obtain ⟨_, laterAgrees⟩ := List.cons_prefix_cons.mp agrees
    obtain ⟨rfl, rfl⟩ := ih rerun (List.prefix_append _ tail) laterAgrees
    exact ⟨rfl, rfl⟩
  | measure m rest ih =>
    obtain ⟨later, rfl, rerun⟩ := runs_measure.mp again
    obtain ⟨tail, rfl⟩ := within
    obtain ⟨_, laterAgrees⟩ := List.cons_prefix_cons.mp agrees
    obtain ⟨rfl, rfl⟩ := ih rerun (List.prefix_append _ tail) laterAgrees
    exact ⟨rfl, rfl⟩

/-- Every call that the program can make, whatever it is told, is of this sort. -/
def Only (sort : Call → Prop) : Program α → Prop
  | .done _ => True
  | .call c next => sort c ∧ ∀ answer, Only sort (next answer)
  | .clock next => ∀ moment, Only sort (next moment)
  | .sleep _ next => Only sort next
  | .measure _ next => Only sort next

variable {sort wider : Call → Prop}

theorem Only.bind {p : Program α} {f : α → Program β} (first : p.Only sort)
    (then_ : ∀ a, (f a).Only sort) : (p >>= f).Only sort := by
  change (p.bind f).Only sort
  induction p with
  | done a => exact then_ a
  | call c next ih => exact ⟨first.1, fun answer => ih answer (first.2 answer)⟩
  | clock next ih => exact fun moment => ih moment (first moment)
  | sleep span next ih => exact ih first
  | measure m next ih => exact ih first

theorem Only.mono {p : Program α} (narrow : p.Only sort) (implies : ∀ c, sort c → wider c) :
    p.Only wider := by
  induction p with
  | done a => trivial
  | call c next ih => exact ⟨implies c narrow.1, fun answer => ih answer (narrow.2 answer)⟩
  | clock next ih => exact fun moment => ih moment (narrow moment)
  | sleep span next ih => exact ih narrow
  | measure m next ih => exact ih narrow

theorem Runs.sort_of_mem {p : Program α} {events : List Event} {value : α}
    (run : p.Runs events value) (only : p.Only sort) {c : Call} {answer : c.Answer}
    (member : .call c answer ∈ events) : sort c := by
  induction run with
  | done a => simp at member
  | call given rest ih =>
    rcases List.mem_cons.mp member with same | later
    · cases same
      exact only.1
    · exact ih (only.2 given) later
  | clock moment rest ih =>
    rcases List.mem_cons.mp member with same | later
    · cases same
    · exact ih (only moment) later
  | sleep span rest ih =>
    rcases List.mem_cons.mp member with same | later
    · cases same
    · exact ih only later
  | measure m rest ih =>
    rcases List.mem_cons.mp member with same | later
    · cases same
    · exact ih only later

theorem Runs.not_mem_of_silent {p : Program α} {events : List Event} {value : α}
    (run : p.Runs events value) (silent : p.Only fun _ => False) {c : Call} {answer : c.Answer} :
    .call c answer ∉ events :=
  fun member => run.sort_of_mem silent member

end Program
end AgentOperator
