import AgentOperator.Proofs.DerivedConditions

/-!
Setting a condition. An update reaches one place of a list, that of the first condition of its type
or the end, and its flag tells whether it changed anything there. From then on the list shows what
the update desired, until another one of the same type.
-/
namespace AgentOperator.Condition
variable {stored : List Condition} {existing desired : Condition} {now type : String}

theorem set_nil (desired : Condition) (now : String) :
    set desired now [] = ([{ desired with lastTransitionTime := some now }], true) := rfl

theorem agrees_appended (desired : Condition) (now : String) :
    Agrees { desired with lastTransitionTime := some now } desired :=
  ⟨rfl, sameObservation_iff.mpr ⟨rfl, rfl, rfl, rfl⟩⟩

theorem types_set (desired : Condition) (now : String) (stored : List Condition) :
    (set desired now stored).1.map (·.type) =
      stored.map (·.type) ++
        if desired.type ∈ stored.map (·.type) then [] else [desired.type] := by
  induction stored with
  | nil => rfl
  | cons existing rest ih =>
    by_cases same : existing.type = desired.type
    · obtain ⟨c, agrees, result⟩ := set_cons_of_type desired now rest same
      simp [result, agrees.1, same]
    · rw [set_cons_of_ne now rest same]
      simp [ih, Ne.symm same]

theorem getElem?_set (desired : Condition) (now : String) (stored : List Condition) :
    ∃ c, c.Agrees desired ∧ ∀ k, (set desired now stored).1[k]? =
      if k = stored.findIdx (·.type = desired.type) then some c else stored[k]? := by
  induction stored with
  | nil =>
    refine ⟨_, agrees_appended desired now, fun k => ?_⟩
    cases k <;> simp [set_nil]
  | cons existing rest ih =>
    by_cases same : existing.type = desired.type
    · obtain ⟨c, agrees, result⟩ := set_cons_of_type desired now rest same
      refine ⟨c, agrees, fun k => ?_⟩
      cases k <;> simp [result, List.findIdx_cons, same]
    · obtain ⟨c, agrees, places⟩ := ih
      refine ⟨c, agrees, fun k => ?_⟩
      rw [set_cons_of_ne now rest same]
      cases k with
      | zero => simp [List.findIdx_cons, same]
      | succ k => simp [List.findIdx_cons, same, places k]

theorem transitioned_ne (differs : existing.sameObservation desired = false) (now : String) :
    transitioned existing desired now ≠ existing := by
  intro kept
  have agrees : (transitioned existing desired now).sameObservation desired = true :=
    sameObservation_iff.mpr ⟨rfl, rfl, rfl, rfl⟩
  rw [kept, differs] at agrees
  cases agrees

theorem set_unchanged_iff (desired : Condition) (now : String) (stored : List Condition) :
    (set desired now stored).2 = false ↔ (set desired now stored).1 = stored := by
  induction stored with
  | nil => simp [set_nil]
  | cons existing rest ih =>
    rw [set]
    by_cases same : existing.type = desired.type
    · cases observed : existing.sameObservation desired with
      | true => simp [same]
      | false => simp [same, transitioned_ne observed]
    · simpa [same] using ih

/-! ### Runs of updates -/

/-- The list shows what is desired: its first condition of that type does. -/
def Shows (stored : List Condition) (desired : Condition) : Prop :=
  ∃ c, stored.find? (·.type = desired.type) = some c ∧ c.Agrees desired

theorem shows_cons_of_ne (different : existing.type ≠ desired.type) :
    Shows (existing :: stored) desired ↔ Shows stored desired := by
  simp [Shows, different]

theorem shows_set (desired : Condition) (now : String) (stored : List Condition) :
    Shows (set desired now stored).1 desired := by
  induction stored with
  | nil => exact ⟨_, List.find?_cons_of_pos (by simp), agrees_appended desired now⟩
  | cons existing rest ih =>
    by_cases same : existing.type = desired.type
    · obtain ⟨c, agrees, result⟩ := set_cons_of_type desired now rest same
      rw [result]
      exact ⟨c, List.find?_cons_of_pos (by simpa using agrees.1), agrees⟩
    · rw [set_cons_of_ne now rest same]
      exact (shows_cons_of_ne same).mpr ih

theorem find?_set_of_ne (different : desired.type ≠ type) (now : String)
    (stored : List Condition) :
    (set desired now stored).1.find? (·.type = type) = stored.find? (·.type = type) := by
  induction stored with
  | nil => simp [set_nil, different]
  | cons existing rest ih =>
    by_cases same : existing.type = desired.type
    · obtain ⟨c, agrees, result⟩ := set_cons_of_type desired now rest same
      rw [result, List.find?_cons_of_neg (by simpa [agrees.1] using different),
        List.find?_cons_of_neg (by simpa [same] using different)]
    · rw [set_cons_of_ne now rest same, List.find?_cons, List.find?_cons, ih]

theorem Shows.set_of_ne (shows : Shows stored desired) {other : Condition}
    (different : other.type ≠ desired.type) (now : String) :
    Shows (set other now stored).1 desired := by
  obtain ⟨c, found, agrees⟩ := shows
  exact ⟨c, (find?_set_of_ne different now stored).trans found, agrees⟩

theorem Shows.set_eq (shows : Shows stored desired) (now : String) :
    set desired now stored = (stored, false) := by
  induction stored with
  | nil =>
    obtain ⟨c, found, _⟩ := shows
    cases found
  | cons existing rest ih =>
    rw [set]
    by_cases same : existing.type = desired.type
    · obtain ⟨c, found, agrees⟩ := shows
      rw [List.find?_cons_of_pos (by simpa using same)] at found
      obtain rfl := Option.some.inj found
      rw [if_pos same, if_pos agrees.2]
    · rw [if_neg same, ih ((shows_cons_of_ne same).mp shows)]

theorem nodup_set (distinct : (stored.map (·.type)).Nodup) (desired : Condition) (now : String) :
    ((set desired now stored).1.map (·.type)).Nodup := by
  rw [types_set]
  split
  · rwa [List.append_nil]
  · next absent =>
    rw [List.nodup_append]
    refine ⟨distinct, by simp, fun old member new added => ?_⟩
    rw [List.mem_singleton.mp added]
    exact fun same => absurd (same ▸ member) absent

structure Update where
  desired : Condition
  now : String

def afterUpdates (stored : List Condition) (updates : List Update) : List Condition :=
  updates.foldl (fun stored u => (set u.desired u.now stored).1) stored

theorem afterUpdates_cons (stored : List Condition) (u : Update) (rest : List Update) :
    afterUpdates stored (u :: rest) = afterUpdates (set u.desired u.now stored).1 rest := rfl

theorem afterUpdates_append (stored : List Condition) (updates more : List Update) :
    afterUpdates stored (updates ++ more) = afterUpdates (afterUpdates stored updates) more :=
  List.foldl_append

theorem nodup_afterUpdates (distinct : (stored.map (·.type)).Nodup) (updates : List Update) :
    ((afterUpdates stored updates).map (·.type)).Nodup := by
  induction updates generalizing stored with
  | nil => exact distinct
  | cons u rest ih => exact ih (nodup_set distinct u.desired u.now)

theorem Shows.afterUpdates (shows : Shows stored desired) {updates : List Update}
    (others : ∀ u ∈ updates, u.desired.type ≠ desired.type) :
    Shows (afterUpdates stored updates) desired := by
  induction updates generalizing stored with
  | nil => exact shows
  | cons u rest ih =>
    have next := shows.set_of_ne (others u List.mem_cons_self) u.now
    exact ih next fun v member => others v (List.mem_cons_of_mem u member)

/-- An update keeps the types in their order and appends its own if that was absent, it puts what it
desires at the first place of its type and leaves every other place alone, and it tells exactly
whether the list is another one. Over any run of updates types that were different stay different,
and to repeat an update changes nothing as long as none of its type has followed. -/
theorem set_updates_first_of_type (stored : List Condition) (desired : Condition) (now : String) :
    (set desired now stored).1.map (·.type) =
        stored.map (·.type) ++
          (if desired.type ∈ stored.map (·.type) then [] else [desired.type]) ∧
      (∃ c, (c.type = desired.type ∧ c.observedGeneration = desired.observedGeneration ∧
          c.status = desired.status ∧ c.reason = desired.reason ∧ c.message = desired.message) ∧
        ∀ k, (set desired now stored).1[k]? =
          if k = stored.findIdx (·.type = desired.type) then some c else stored[k]?) ∧
      ((set desired now stored).2 = false ↔ (set desired now stored).1 = stored) ∧
      ∀ updates,
        ((stored.map (·.type)).Nodup →
          ((afterUpdates stored updates).map (·.type)).Nodup) ∧
        ∀ before u after, updates = before ++ u :: after →
          (∀ v ∈ after, v.desired.type ≠ u.desired.type) →
          ∀ later, set u.desired later (afterUpdates stored updates) =
            (afterUpdates stored updates, false) := by
  obtain ⟨c, agrees, places⟩ := getElem?_set desired now stored
  refine ⟨types_set desired now stored, ⟨c, ⟨agrees.1, sameObservation_iff.mp agrees.2⟩, places⟩,
    set_unchanged_iff desired now stored, fun updates => ⟨fun distinct => ?_, ?_⟩⟩
  · exact nodup_afterUpdates distinct updates
  · rintro before u after rfl others later
    have atOnce := shows_set u.desired u.now (afterUpdates stored before)
    have shows : Shows (afterUpdates stored (before ++ u :: after)) u.desired := by
      rw [afterUpdates_append, afterUpdates_cons]
      exact atOnce.afterUpdates others
    exact shows.set_eq later

def ranked : List Condition :=
  [{ type := "Reconciled", status := .true }, { type := "Available", status := .unknown }]

def scaled : Update :=
  ⟨{ type := "Available", status := .false, reason := some "Scaling" }, "10:00"⟩

def paused : Update := ⟨{ type := "Paused", status := .true }, "11:00"⟩

theorem ranked_stays_distinct : (ranked.map (·.type)).Nodup ∧
    (∀ v ∈ [paused], v.desired.type ≠ scaled.desired.type) ∧
    (afterUpdates ranked [scaled, paused]).map (·.type) =
      ["Reconciled", "Available", "Paused"] ∧
    ((afterUpdates ranked [scaled, paused]).map (·.type)).Nodup ∧
    set scaled.desired "12:00" (afterUpdates ranked [scaled, paused]) =
      (afterUpdates ranked [scaled, paused], false) := by
  have distinct : (ranked.map (·.type)).Nodup := by decide
  have others : ∀ v ∈ [paused], v.desired.type ≠ scaled.desired.type := by decide
  obtain ⟨_, _, _, runs⟩ := set_updates_first_of_type ranked scaled.desired scaled.now
  obtain ⟨stays, repeated⟩ := runs [scaled, paused]
  exact ⟨distinct, others, rfl, stays distinct, repeated [] scaled [paused] rfl others "12:00"⟩

end AgentOperator.Condition
