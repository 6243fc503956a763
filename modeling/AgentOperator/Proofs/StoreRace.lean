import AgentOperator.Proofs.AgentStored
import AgentOperator.Proofs.InventoryOrder
import AgentOperator.Proofs.StatusRace

/-!
One writer that reads and replaces among others who may change everything in between. Of the store
no more is assumed than its versions promise, and that a replacement which goes through puts what
was given in the place of what was stored, except for what the store keeps as its own. An object
that is being deleted goes with the last of its finalizers. The cluster in memory is such a store.
-/
namespace AgentOperator

namespace Holdings
variable {s s' : Holdings} {slot : Slot} {object : Object} {e : Event} {events : List Event}

/-- What is kept after a replacement of `stored` by `given`, if anything is. -/
inductive Takes (stored given : Object) : Option Object → Prop where
  | kept (version : Option String) :
      Takes stored given (some ((Cluster.keepOwn stored given).withMetadata fun m =>
        { m with resourceVersion := version }))
  | released (free : Cluster.isReleased (Cluster.keepOwn stored given) = true) :
      Takes stored given none

inductive Answers : Holdings → Event → Holdings → Prop where
  | read {s : Holdings} {slot : Slot} {object : Object} (found : s.held slot = some object) :
      Answers s (.call (.get slot) (.ok object)) s
  | failed {s : Holdings} (c : Call) (error : StoreError) :
      Answers s (.call c (.error error)) s
  | replaced {s s' : Holdings} {r : Resource} {stored : Object} (answer : Object)
      (found : s.held r.slot = some stored) (current : stored.version = r.object.version)
      (renewed : ∀ slot, s.Renewed s' slot) (taken : Takes stored r.object (s'.held r.slot)) :
      Answers s (.call (.replace r) (.ok answer)) s'

/-- The events of one writer, with turns of others before, between and after them. -/
inductive Attends : Holdings → List Event → Holdings → Prop where
  | done (s : Holdings) : Attends s [] s
  | others {s s' last : Holdings} {events : List Event} (renewed : ∀ slot, s.Renewed s' slot)
      (later : Attends s' events last) : Attends s events last
  | own {s s' last : Holdings} {e : Event} {events : List Event} (answered : s.Answers e s')
      (later : Attends s' events last) : Attends s (e :: events) last

theorem Answers.renewed (answered : s.Answers e s') (slot : Slot) : s.Renewed s' slot := by
  cases answered with
  | read found => exact .refl s slot
  | failed c error => exact .refl s slot
  | replaced answer found current renewed taken => exact renewed slot

theorem Answers.of_read (answered : s.Answers (.call (.get slot) (.ok object)) s') :
    s.held slot = some object ∧ s' = s := by
  cases answered with
  | read found => exact ⟨found, rfl⟩

theorem Answers.unchanged (answered : s.Answers e s')
    (idle : ∀ r answer, e ≠ .call (.replace r) (.ok answer)) : s' = s := by
  cases answered with
  | read found => rfl
  | failed c error => rfl
  | replaced answer found current renewed taken => exact absurd rfl (idle _ answer)

theorem Answers.of_replace {r : Resource} {answer : Object}
    (answered : s.Answers (.call (.replace r) (.ok answer)) s') :
    ∃ stored, s.held r.slot = some stored ∧ stored.version = r.object.version ∧
      Takes stored r.object (s'.held r.slot) := by
  cases answered with
  | replaced answer found current renewed taken => exact ⟨_, found, current, taken⟩

theorem Attends.bound (attends : s.Attends events s') (bound : s.Bound slot object) :
    s'.Bound slot object := by
  induction attends with
  | done s => exact bound
  | others renewed later ih => exact ih ((renewed slot).bound bound)
  | own answered later ih => exact ih ((answered.renewed slot).bound bound)

theorem Attends.bound_of_read
    (attends : s.Attends (.call (.get slot) (.ok object) :: events) s') :
    object.key = slot.key ∧ s'.Bound slot object := by
  generalize same : Event.call (.get slot) (.ok object) :: events = all at attends
  induction attends with
  | done s => cases same
  | others renewed later ih => exact ih same
  | own answered later ih =>
    obtain ⟨rfl, rfl⟩ := List.cons.inj same
    obtain ⟨found, rfl⟩ := answered.of_read
    exact ⟨Holdings.placed _ found, later.bound (bound_of_held found)⟩

end Holdings

namespace Cluster
variable {c c' d : Cluster} {slot : Slot} {object : Object} {now : Timestamp}
  {events : List Event}

def Issued (c : Cluster) (version : Option String) : Prop :=
  ∃ n ≤ c.version, version = some (toString n)

/-- In the order of the slots, each object under its own key and with a version of its write. -/
structure Sound (c : Cluster) : Prop where
  ordered : c.inventory.Ordered
  placed : ∀ {slot object}, c.find? slot = some object → object.key = slot.key
  stamped : ∀ {slot object}, c.find? slot = some object → c.Issued object.version

theorem sound_empty : ({} : Cluster).Sound where
  ordered := List.Pairwise.nil
  placed found := by cases found
  stamped found := by cases found

def Sound.holdings (sound : c.Sound) : Holdings where
  held := c.find?
  seen _ := c.Issued
  placed := sound.placed
  stamped := sound.stamped

def Later (c c' : Cluster) (slot : Slot) (object : Object) : Prop :=
  object.key = slot.key ∧ ∃ n, c.version < n ∧ n ≤ c'.version ∧ object.version = some (toString n)

/-- What is found in `c'` was found in `c` or has been written since. -/
structure Advances (c c' : Cluster) : Prop where
  grows : c.version ≤ c'.version
  finds : ∀ {slot object}, c'.find? slot = some object →
    c.find? slot = some object ∨ c.Later c' slot object

theorem Advances.refl (c : Cluster) : c.Advances c := ⟨Nat.le_refl _, Or.inl⟩

theorem Alike.advances (alike : c'.Alike c) : c.Advances c' where
  grows := Nat.le_of_eq alike.version.symm
  finds found := Or.inl (by rw [← alike.find?, found])

theorem Advances.trans (first : c.Advances d) (second : d.Advances c') : c.Advances c' where
  grows := Nat.le_trans first.grows second.grows
  finds found := by
    rcases second.finds found with old | ⟨place, n, after, upto, version⟩
    · rcases first.finds old with older | ⟨place, n, after, upto, version⟩
      · exact Or.inl older
      · exact Or.inr ⟨place, n, after, Nat.le_trans upto second.grows, version⟩
    · exact Or.inr ⟨place, n, Nat.lt_of_le_of_lt first.grows after, upto, version⟩

theorem advances_write (place : object.key = slot.key) : c.Advances (c.write slot object).2 where
  grows := Nat.le_succ _
  finds {other held} found := by
    rw [find?_write] at found
    split at found
    · next same =>
      obtain rfl := Option.some.inj found
      exact Or.inr ⟨same ▸ place, _, Nat.lt_succ_self _, Nat.le_refl _, rfl⟩
    · exact Or.inl found

theorem advances_remove (ordered : c.inventory.Ordered) (slot : Slot) :
    c.Advances (c.remove slot) where
  grows := Nat.le_refl _
  finds found := Or.inl (ordered.find?_of_sublist (Inventory.remove_sublist _ _) found)

theorem key_keepOwn (stored given : Object) : (keepOwn stored given).key = given.key := by
  simp [keepOwn, Object.withMetadata, Object.key, Metadata.key]

theorem Sound.advances_carryOut (sound : c.Sound) (now : Timestamp) (call : Call) :
    c.Advances (c.carryOut now call).2 := by
  cases call with
  | get slot => exact .refl c
  | requestToken account request => exact .refl c
  | create r =>
    show c.Advances (c.create r).2
    unfold create
    split
    · exact .refl c
    · exact advances_write rfl
  | replace r =>
    show c.Advances (c.replace r).2
    unfold replace
    split
    · exact .refl c
    · next stored _ =>
      have written : c.Advances (c.write r.slot (keepOwn stored r.object)).2 :=
        advances_write (key_keepOwn stored r.object)
      dsimp only
      split
      · exact written.trans (advances_remove (ordered_write sound.ordered _ _) _)
      · exact written
  | replaceStatus r =>
    show c.Advances (c.replaceStatus r).2
    unfold replaceStatus
    split
    · exact .refl c
    · next stored current =>
      refine advances_write ?_
      rw [← sound.placed (find?_of_current current), Object.key, Object.metadata_withStatus]
      rfl
  | delete slot =>
    show c.Advances (c.delete now slot).2
    unfold delete
    split
    · exact .refl c
    · next stored found =>
      split
      · exact advances_remove sound.ordered _
      · split
        · exact .refl c
        · have place : stored.key = slot.key := sound.placed found
          exact advances_write place
  | apply r manager force =>
    show c.Advances (c.apply r).2
    unfold apply
    split
    · exact advances_write rfl
    · next stored _ => exact advances_write (key_keepOwn stored r.object)

theorem Sound.advance (sound : c.Sound) (advances : c.Advances c')
    (ordered : c'.inventory.Ordered) : c'.Sound where
  ordered := ordered
  placed found := (advances.finds found).elim sound.placed fun later => later.1
  stamped found := by
    rcases advances.finds found with old | ⟨_, n, _, upto, version⟩
    · obtain ⟨n, upto, version⟩ := sound.stamped old
      exact ⟨n, Nat.le_trans upto advances.grows, version⟩
    · exact ⟨n, upto, version⟩

theorem toString_inj {m n : Nat} (same : toString m = toString n) : m = n := by
  have digits : Nat.toDigits 10 m = Nat.toDigits 10 n := by
    rw [← Nat.toList_repr, ← Nat.toList_repr]
    exact congrArg String.toList same
  have numbers := congrArg (Nat.ofDigitChars 10 · 0) digits
  simpa only [Nat.ofDigitChars_ten_toDigits] using numbers

theorem Advances.renewed (advances : c.Advances c') (sound : c.Sound) (sound' : c'.Sound)
    (slot : Slot) : sound.holdings.Renewed sound'.holdings slot where
  remembers version := by
    rintro ⟨n, upto, rfl⟩
    exact ⟨n, Nat.le_trans upto advances.grows, rfl⟩
  renews object found := by
    refine (advances.finds found).imp_right ?_
    rintro ⟨_, n, after, _, version⟩ ⟨m, upto, again⟩
    rw [version] at again
    obtain rfl := toString_inj (Option.some.inj again)
    omega

theorem Sound.others (sound : c.Sound) (serves : c.Serves events c') :
    ∃ sound' : c'.Sound, ∀ slot, sound.holdings.Renewed sound'.holdings slot := by
  have reached : c'.Sound ∧ c.Advances c' := by
    refine serves.keeps (P := fun d => d.Sound ∧ c.Advances d) ?_ ?_
      (fun _ _ _ => trivial) ⟨sound, .refl c⟩
    · rintro b d alike ⟨sound, advances⟩
      exact ⟨sound.advance alike.advances (alike.inventory ▸ sound.ordered),
        advances.trans alike.advances⟩
    · rintro d now call (_ : True) ⟨sound, advances⟩
      have step := sound.advances_carryOut now call
      exact ⟨sound.advance step (ordered_carryOut sound.ordered now call), advances.trans step⟩
  exact ⟨reached.1, reached.2.renewed sound reached.1⟩

theorem version_of_current {given stored : Object} (current : c.current slot given = .ok stored) :
    stored.version = given.version := by
  unfold Cluster.current at current
  split at current
  · cases current
  · split at current
    · next same =>
      cases current
      exact same
    · cases current

theorem replace_cases (c : Cluster) (r : Resource) :
    (∃ error, c.replace r = (.error error, c)) ∨
      ∃ stored answer c', c.replace r = (.ok answer, c') ∧ c.find? r.slot = some stored ∧
        stored.version = r.object.version ∧ Holdings.Takes stored r.object (c'.find? r.slot) := by
  unfold replace
  cases current : c.current r.slot r.object with
  | error error => exact Or.inl ⟨error, rfl⟩
  | ok stored =>
    refine Or.inr ⟨stored, _, _, rfl, find?_of_current current, version_of_current current, ?_⟩
    split
    · next free =>
      rw [find?_remove_self]
      exact .released free
    · show Holdings.Takes stored r.object
        ((c.write r.slot (keepOwn stored r.object)).2.find? r.slot)
      rw [find?_write_self]
      exact .kept _

theorem Sound.answers (sound : c.Sound) {call : Call} {answer : call.Answer}
    (verb : call.verb = .get ∨ call.verb = .replace)
    (carried : c.carryOut now call = (answer, c')) :
    ∃ sound' : c'.Sound, sound.holdings.Answers (.call call answer) sound'.holdings := by
  have advances := sound.advances_carryOut now call
  have sound' := sound.advance advances (ordered_carryOut sound.ordered now call)
  rw [carried] at advances sound'
  refine ⟨sound', ?_⟩
  cases call with
  | get slot =>
    obtain ⟨rfl, rfl⟩ := Prod.mk.inj (carried : (c.get slot, c) = (answer, c'))
    cases found : c.find? slot with
    | some object =>
      have read : c.get slot = .ok object := by simp [get, found]
      rw [read]
      exact .read found
    | none =>
      have unread : c.get slot = .error (notFound slot) := by simp [get, found]
      rw [unread]
      exact .failed _ _
  | replace r =>
    replace carried : c.replace r = (answer, c') := carried
    rcases c.replace_cases r with ⟨error, failed⟩ | ⟨stored, reply, d, done, found, current, taken⟩
    · obtain ⟨rfl, rfl⟩ := Prod.mk.inj (carried.symm.trans failed)
      exact .failed _ _
    · obtain ⟨rfl, rfl⟩ := Prod.mk.inj (carried.symm.trans done)
      exact .replaced reply found current (advances.renewed sound sound') taken
  | create r => simp [Call.verb] at verb
  | replaceStatus r => simp [Call.verb] at verb
  | delete slot => simp [Call.verb] at verb
  | apply r manager force => simp [Call.verb] at verb
  | requestToken account request => simp [Call.verb] at verb

end Cluster
end AgentOperator
