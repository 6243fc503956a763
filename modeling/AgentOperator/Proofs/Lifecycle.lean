import AgentOperator.Proofs.AgentStored

/-!
The life of an agent in its cluster: it is created, edited, passed over by the operator and deleted,
in any order and any number of times, while orphans are collected and calls fail. Its role and role
binding have no owner and are to go before it does. Whether one of them ever outlives the agent is
decided by two kinds of act alone.
-/
namespace AgentOperator

inductive Act where
  | create (object : Object)
  | edit (data : Fields Json) (generation : Option Int)
  | requestDeletion (now : Timestamp)
  /-- An object is deleted whose owners are gone. -/
  | collect (slot : Slot) (now : Timestamp)
  | pass (copy : Instance) (settings : Settings) (policy : RetryPolicy) (events : List Event)
      (outcome : Outcome)

namespace Act

def Creates : Act → Prop
  | .create _ => True
  | _ => False

def Applies (act : Act) (g : Slot) : Prop :=
  match act with
  | .pass _ _ _ events _ => ∃ e ∈ events, e.Applies g
  | _ => False

end Act

structure Passage where
  before : Cluster
  act : Act
  after : Cluster

def Applied (past : List Passage) (g : Slot) : Prop := ∃ p ∈ past, p.act.Applies g

/-- A pass has applied what is kept there since the agent was created; the last passage comes
first. -/
def AppliedSince : List Passage → Slot → Prop
  | [], _ => False
  | p :: past, g => ¬ p.act.Creates ∧ (p.act.Applies g ∨ AppliedSince past g)

def Ever (like : List Passage → Passage → Prop) : List Passage → Prop
  | [] => False
  | p :: past => like past p ∨ Ever like past

theorem applied_cons {p : Passage} {past : List Passage} {g : Slot} :
    Applied (p :: past) g ↔ p.act.Applies g ∨ Applied past g := by
  simp [Applied]

theorem AppliedSince.applied {past : List Passage} {g : Slot} (since : AppliedSince past g) :
    Applied past g := by
  induction past with
  | nil => exact since.elim
  | cons p past ih =>
    rcases since.2 with now | earlier
    · exact applied_cons.mpr (Or.inl now)
    · exact applied_cons.mpr (Or.inr (ih earlier))

namespace AgentId

/-- What an act makes of the cluster. An agent is created owned by nobody; a pass runs over a copy
of the stored agent, and any of its calls may fail. -/
inductive Happens (a : AgentId) (c : Cluster) : Act → Cluster → Prop where
  | create {object : Object} (absent : c.find? a.slot = none)
      (key : object.metadata.key = a.slot.key) (fresh : object.metadata.isDeleting = false)
      (unowned : object.Unowned) :
      Happens a c (.create object) (c.create ⟨.nodeAgent, object⟩).2
  | edit {stored : Object} {data : Fields Json} {generation : Option Int}
      (found : c.find? a.slot = some stored) :
      Happens a c (.edit data generation) (c.write a.slot
        { stored with data, metadata := { stored.metadata with generation } }).2
  | requestDeletion (now : Timestamp) :
      Happens a c (.requestDeletion now) (c.delete now a.slot).2
  | collect {slot : Slot} {object : Object} (now : Timestamp) (found : c.find? slot = some object)
      (owned : ¬ object.Unowned)
      (orphaned : ∀ reference ∈ object.metadata.ownerReferences.getD [], ∀ s owner,
        c.find? s = some owner → owner.metadata.uid ≠ some reference.uid) :
      Happens a c (.collect slot now) (c.delete now slot).2
  | pass {c' : Cluster} {copy : Instance} {stored : Object} {settings : Settings}
      {policy : RetryPolicy} {events : List Event} {outcome : Outcome}
      (found : c.find? a.slot = some stored) (kind : copy.kind = .nodeAgent)
      (copied : copy.metadata = stored.metadata)
      (run : (copy.pass settings policy).Runs events outcome) (serves : c.Serves events c') :
      Happens a c (.pass copy settings policy events outcome) c'

/-- A run from a cluster to another one, the last passage first. -/
inductive Run (a : AgentId) (start : Cluster) : List Passage → Cluster → Prop where
  | start : Run a start [] start
  | act {past : List Passage} {c c' : Cluster} {act : Act} (run : Run a start past c)
      (happens : a.Happens c act c') : Run a start (⟨c, act, c'⟩ :: past) c'

/-- After the passage the agent is gone, and what a pass has applied for it is still there. -/
def Outlived (a : AgentId) (past : List Passage) (p : Passage) : Prop :=
  p.after.find? a.slot = none ∧
    ∃ g ∈ a.guarded, Applied (p :: past) g ∧ (p.after.find? g).isSome

/-- The acts that let the agent go too early. Either its deletion is requested after a pass has
applied something for it and while no finalizer holds it, for a pass adds the marker last; or a pass
lets it go because the deletion of something that is there was answered as not found. -/
inductive Careless (a : AgentId) (past : List Passage) : Passage → Prop where
  | unheld {c c' : Cluster} {now : Timestamp} {stored : Object} {g : Slot}
      (found : c.find? a.slot = some stored)
      (free : stored.metadata.finalizers.getD [] = []) (member : g ∈ a.guarded)
      (applied : AppliedSince past g) : Careless a past ⟨c, .requestDeletion now, c'⟩
  | misled {c c' : Cluster} {copy : Instance} {settings : Settings} {policy : RetryPolicy}
      {events : List Event} {outcome : Outcome} {g : Slot} {text : String}
      (gone : c'.find? a.slot = none) (member : g ∈ a.guarded) (applied : Applied past g)
      (kept : (c.find? g).isSome)
      (answered : .call (.delete g) (.error (.notFound text)) ∈ events) :
      Careless a past ⟨c, .pass copy settings policy events outcome, c'⟩

variable {a : AgentId} {start c c' : Cluster} {past : List Passage} {act : Act} {g : Slot}

structure Kept (a : AgentId) (past : List Passage) (c : Cluster) : Prop where
  plain : ∀ g ∈ a.guarded, c.PlainAt g
  sound : ∀ stored, c.find? a.slot = some stored → a.Sound stored
  /-- What was applied and is there belongs to the agent that is there. -/
  owned : ∀ g ∈ a.guarded, Applied past g → (c.find? g).isSome →
    (c.find? a.slot).isSome ∧ AppliedSince past g
  /-- What was applied for a live agent is there. -/
  live : ∀ stored, c.find? a.slot = some stored → stored.metadata.isDeleting = false →
    ∀ g ∈ a.guarded, AppliedSince past g → (c.find? g).isSome

theorem Kept.free (kept : a.Kept past c) : c.Free a.slot :=
  fun o found => (kept.sound o found).unowned

theorem Kept.not_outlived {p : Passage} (kept : a.Kept (p :: past) p.after) :
    ¬ a.Outlived past p := by
  rintro ⟨absent, g, member, applied, there⟩
  have present := (kept.owned g member applied there).1
  rw [absent] at present
  cases present

theorem kept_of_create {object : Object} (kept : a.Kept past c) (absent : c.find? a.slot = none)
    (key : object.metadata.key = a.slot.key) (fresh : object.metadata.isDeleting = false)
    (unowned : object.Unowned) :
    a.Kept (⟨c, .create object, (c.create ⟨.nodeAgent, object⟩).2⟩ :: past)
      (c.create ⟨.nodeAgent, object⟩).2 := by
  have there : Resource.slot ⟨.nodeAgent, object⟩ = a.slot := by
    show (⟨.nodeAgent, object.metadata.key⟩ : Slot) = _
    rw [key]
    rfl
  have inserted : c.create ⟨.nodeAgent, object⟩ =
      (.ok (c.insert ⟨.nodeAgent, object⟩).1, (c.insert ⟨.nodeAgent, object⟩).2) := by
    unfold Cluster.create
    rw [there, absent]
  have others : ∀ g ∈ a.guarded, (c.create ⟨.nodeAgent, object⟩).2.find? g = c.find? g := by
    intro g member
    rw [inserted]
    refine Cluster.find?_write_of_ne ?_ _
    rw [there]
    exact guarded_ne_slot member
  constructor
  · intro g member
    exact (kept.plain g member).congr (others g member)
  · intro stored found
    rw [inserted] at found
    change (c.write _ _).2.find? _ = _ at found
    rw [Cluster.find?_write, if_pos there.symm] at found
    obtain rfl := Option.some.inj found
    refine ⟨key, unowned, ?_⟩
    intro deleting
    change object.metadata.isDeleting = true at deleting
    rw [fresh] at deleting
    cases deleting
  · intro g member applied present
    rw [others g member] at present
    have before : Applied past g := by simpa [applied_cons, Act.Applies] using applied
    have agent := (kept.owned g member before present).1
    rw [absent] at agent
    cases agent
  · intro stored _ _ g _ since
    exact absurd trivial since.1

theorem kept_of_frame (kept : a.Kept past c) (creates : ¬ act.Creates)
    (applies : ∀ g, ¬ act.Applies g) (others : ∀ g ∈ a.guarded, c'.find? g = c.find? g)
    (agent : ∀ o, c'.find? a.slot = some o → a.Sound o ∧ ∃ stored, c.find? a.slot = some stored ∧
      (o.metadata.isDeleting = false → stored.metadata.isDeleting = false))
    (stays : ∀ g ∈ a.guarded, AppliedSince past g → (c.find? a.slot).isSome →
      (c'.find? a.slot).isSome) :
    a.Kept (⟨c, act, c'⟩ :: past) c' := by
  constructor
  · intro g member
    exact (kept.plain g member).congr (others g member)
  · intro o found
    exact (agent o found).1
  · intro g member applied present
    rw [others g member] at present
    rcases applied_cons.mp applied with now | before
    · exact absurd now (applies g)
    · obtain ⟨agentThere, since⟩ := kept.owned g member before present
      exact ⟨stays g member since agentThere, creates, Or.inr since⟩
  · intro o found live g member since
    obtain ⟨_, stored, storedFound, wasLive⟩ := agent o found
    rw [others g member]
    rcases since.2 with now | before
    · exact absurd now (applies g)
    · exact kept.live stored storedFound (wasLive live) g member before

theorem kept_of_edit {stored : Object} {data : Fields Json} {generation : Option Int}
    (kept : a.Kept past c) (found : c.find? a.slot = some stored) :
    a.Kept (⟨c, .edit data generation, (c.write a.slot
        { stored with data, metadata := { stored.metadata with generation } }).2⟩ :: past)
      (c.write a.slot { stored with data, metadata := { stored.metadata with generation } }).2 := by
  have sound := kept.sound stored found
  refine kept_of_frame kept id (fun g => id) ?_ ?_ ?_
  · intro g member
    exact Cluster.find?_write_of_ne (guarded_ne_slot member) _
  · intro o there
    rw [Cluster.find?_write, if_pos rfl] at there
    obtain rfl := Option.some.inj there
    exact ⟨⟨sound.key, sound.unowned, sound.held⟩, stored, found, id⟩
  · intro g _ _ _
    rw [Cluster.find?_write, if_pos rfl]
    rfl

theorem kept_of_requestDeletion {now : Timestamp} (kept : a.Kept past c)
    (careful : ¬ a.Careless past ⟨c, .requestDeletion now, (c.delete now a.slot).2⟩) :
    a.Kept (⟨c, .requestDeletion now, (c.delete now a.slot).2⟩ :: past)
      (c.delete now a.slot).2 := by
  have others : ∀ g ∈ a.guarded, (c.delete now a.slot).2.find? g = c.find? g := fun g member =>
    Cluster.find?_delete_of_ne (guarded_ne_slot member) (kept.plain g member).free
  cases found : c.find? a.slot with
  | none =>
    have same : (c.delete now a.slot).2 = c := by rw [Cluster.delete_absent now found]
    rw [same] at others ⊢
    refine kept_of_frame kept id (fun g => id) others ?_ fun g _ _ => id
    intro o there
    exact ⟨kept.sound o there, o, there, id⟩
  | some stored =>
    have sound := kept.sound stored found
    by_cases free : stored.metadata.finalizers.getD [] = []
    · have gone : (c.delete now a.slot).2.find? a.slot = none := by
        rw [Cluster.delete_free now found free]
        exact Cluster.find?_remove_self c a.slot
      refine kept_of_frame kept id (fun g => id) others ?_ ?_
      · intro o there
        rw [gone] at there
        cases there
      · intro g member since _
        exact absurd (.unheld found free member since) careful
    · obtain ⟨o, there, deleting, key, owners, finalizers, _⟩ :=
        Cluster.find?_delete_held now found free
      refine kept_of_frame kept id (fun g => id) others ?_ ?_
      · intro o' there'
        rw [there] at there'
        obtain rfl := Option.some.inj there'
        refine ⟨⟨key.trans sound.key, ?_, ?_⟩, stored, found, ?_⟩
        · rw [Object.Unowned, owners]
          exact sound.unowned
        · rw [finalizers]
          exact fun _ => free
        · intro live
          rw [deleting] at live
          cases live
      · intro g _ _ _
        rw [there]
        rfl

theorem kept_of_collect {slot : Slot} {object : Object} {now : Timestamp} (kept : a.Kept past c)
    (found : c.find? slot = some object) (owned : ¬ object.Unowned) :
    a.Kept (⟨c, .collect slot now, (c.delete now slot).2⟩ :: past) (c.delete now slot).2 := by
  have agent : a.slot ≠ slot := by
    rintro rfl
    exact owned (kept.sound object found).unowned
  have same : (c.delete now slot).2.find? a.slot = c.find? a.slot :=
    Cluster.find?_delete_of_ne agent kept.free
  refine kept_of_frame kept id (fun g => id) ?_ ?_ ?_
  · intro g member
    refine Cluster.find?_delete_of_ne ?_ (kept.plain g member).free
    rintro rfl
    exact owned (kept.plain g member object found).1
  · intro o there
    rw [same] at there
    exact ⟨kept.sound o there, o, there, id⟩
  · intro g _ _ agentThere
    rw [same]
    exact agentThere

section pass
variable {copy : Instance} {stored : Object} {settings : Settings} {policy : RetryPolicy}
  {events : List Event} {outcome : Outcome}

theorem slot_of_stored (kept : a.Kept past c) (found : c.find? a.slot = some stored)
    (kind : copy.kind = .nodeAgent) (copied : copy.metadata = stored.metadata) :
    copy.markerStep.slot = a.slot := by
  show (⟨copy.kind, copy.metadata.key⟩ : Slot) = _
  rw [kind, copied, (kept.sound stored found).key]
  rfl

theorem kept_of_live_pass (kept : a.Kept past c) (found : c.find? a.slot = some stored)
    (kind : copy.kind = .nodeAgent) (copied : copy.metadata = stored.metadata)
    (run : (copy.pass settings policy).Runs events outcome) (serves : c.Serves events c')
    (live : stored.metadata.isDeleting = false) :
    a.Kept (⟨c, .pass copy settings policy events outcome, c'⟩ :: past) c' := by
  have place := slot_of_stored kept found kind copied
  have copyLive : copy.metadata.isDeleting = false := by rw [copied, live]
  have tracked : ∀ g ∈ a.guarded, c'.PlainAt g ∧
      ((c'.find? g).isSome ↔ (c.find? g).isSome ∨ ∃ e ∈ events, e.Applies g) := fun g member =>
    serves.isSome_iff_of_applies (kept.plain g member) fun call answer called writes =>
      appliesPlain_of_live place copyLive run member called writes
  obtain ⟨o, there, sound, deletion⟩ : a.Stays stored c' := by
    rcases pass_outcome place found (kept.sound stored found)
      (congrArg Metadata.isDeleting copied) run serves with stays | ⟨⟨_, deleting⟩, _⟩
    · exact stays
    · rw [live] at deleting
      cases deleting
  constructor
  · intro g member
    exact (tracked g member).1
  · intro o' there'
    rw [there] at there'
    obtain rfl := Option.some.inj there'
    exact sound
  · intro g member applied present
    refine ⟨by rw [there]; rfl, id, ?_⟩
    rcases applied_cons.mp applied with now | before
    · exact Or.inl now
    · rcases (tracked g member).2.mp present with earlier | now
      · exact Or.inr (kept.owned g member before earlier).2
      · exact Or.inl now
  · intro o' _ _ g member since
    refine (tracked g member).2.mpr ?_
    rcases since.2 with now | before
    · exact Or.inr now
    · exact Or.inl (kept.live stored found live g member before)

theorem not_applies_of_deleting (place : copy.markerStep.slot = a.slot)
    (deleting : copy.metadata.isDeleting = true)
    (run : (copy.pass settings policy).Runs events outcome) (member : g ∈ a.guarded) :
    ¬ Act.Applies (.pass copy settings policy events outcome) g := by
  rintro ⟨e, called, r, manager, force, o, rfl, there⟩
  cases delete_of_deleting place deleting run member called (Call.writes_of_apply there)

theorem tracked_of_deleting (kept : a.Kept past c) (place : copy.markerStep.slot = a.slot)
    (deleting : copy.metadata.isDeleting = true)
    (run : (copy.pass settings policy).Runs events outcome) (serves : c.Serves events c')
    (member : g ∈ a.guarded) :
    c'.PlainAt g ∧ ((c'.find? g).isSome ↔
      (c.find? g).isSome ∧ .call (.delete g) (.ok ()) ∉ events) :=
  serves.isSome_iff_of_deletes (kept.plain g member) fun _ _ called writes =>
    delete_of_deleting place deleting run member called writes

theorem kept_of_deleting_pass (kept : a.Kept past c) (found : c.find? a.slot = some stored)
    (kind : copy.kind = .nodeAgent) (copied : copy.metadata = stored.metadata)
    (run : (copy.pass settings policy).Runs events outcome) (serves : c.Serves events c')
    (deleting : stored.metadata.isDeleting = true)
    (careful : ¬ a.Careless past ⟨c, .pass copy settings policy events outcome, c'⟩) :
    a.Kept (⟨c, .pass copy settings policy events outcome, c'⟩ :: past) c' := by
  have place := slot_of_stored kept found kind copied
  have copyDeleting : copy.metadata.isDeleting = true := by rw [copied, deleting]
  have tracked : ∀ g ∈ a.guarded, _ := fun g member =>
    tracked_of_deleting kept place copyDeleting run serves member
  have earlier : ∀ g ∈ a.guarded,
      Applied (⟨c, .pass copy settings policy events outcome, c'⟩ :: past) g → Applied past g := by
    intro g member applied
    rcases applied_cons.mp applied with now | before
    · exact absurd now (not_applies_of_deleting place copyDeleting run member)
    · exact before
  rcases pass_outcome place found (kept.sound stored found) (congrArg Metadata.isDeleting copied)
    run serves with ⟨o, there, sound, deletion⟩ | ⟨⟨gone, _⟩, deleted⟩
  · -- the agent is still held
    constructor
    · intro g member
      exact (tracked g member).1
    · intro o' there'
      rw [there] at there'
      obtain rfl := Option.some.inj there'
      exact sound
    · intro g member applied present
      have before := ((tracked g member).2.mp present).1
      obtain ⟨_, since⟩ := kept.owned g member (earlier g member applied) before
      exact ⟨by rw [there]; rfl, id, Or.inr since⟩
    · intro o' there' live
      rw [there] at there'
      obtain rfl := Option.some.inj there'
      rw [deletion, deleting] at live
      cases live
  · -- the agent is gone, and so is what was applied unless a deletion was answered wrongly
    constructor
    · intro g member
      exact (tracked g member).1
    · intro o' there'
      rw [gone] at there'
      cases there'
    · intro g member applied present
      obtain ⟨before, notDeleted⟩ := (tracked g member).2.mp present
      obtain ⟨answer, called, rfl | ⟨text, rfl⟩⟩ := deleted g member
      · exact absurd called notDeleted
      · exact absurd (.misled gone member (earlier g member applied) before called) careful
    · intro o' there'
      rw [gone] at there'
      cases there'

end pass

theorem kept_of_act (kept : a.Kept past c) (happens : a.Happens c act c')
    (careful : ¬ a.Careless past ⟨c, act, c'⟩) : a.Kept (⟨c, act, c'⟩ :: past) c' := by
  cases happens with
  | create absent key fresh unowned => exact kept_of_create kept absent key fresh unowned
  | edit found => exact kept_of_edit kept found
  | requestDeletion now => exact kept_of_requestDeletion kept careful
  | collect now found owned orphaned => exact kept_of_collect kept found owned
  | @pass _ copy stored settings policy events outcome found kind copied run serves =>
    cases deleting : stored.metadata.isDeleting with
    | false => exact kept_of_live_pass kept found kind copied run serves deleting
    | true => exact kept_of_deleting_pass kept found kind copied run serves deleting careful

theorem outlived_of_careless (kept : a.Kept past c) (happens : a.Happens c act c')
    (careless : a.Careless past ⟨c, act, c'⟩) : a.Outlived past ⟨c, act, c'⟩ := by
  cases careless with
  | @unheld _ _ now stored g found free member since =>
    cases happens with
    | requestDeletion now =>
      have live : stored.metadata.isDeleting = false := by
        cases deleting : stored.metadata.isDeleting with
        | false => rfl
        | true => exact absurd free ((kept.sound stored found).held deleting)
      have removed : c.delete now a.slot = (.ok (), c.remove a.slot) :=
        Cluster.delete_free now found free
      rw [removed]
      refine ⟨Cluster.find?_remove_self c a.slot, g, member,
        applied_cons.mpr (Or.inr since.applied), ?_⟩
      show ((c.remove a.slot).find? g).isSome
      rw [Cluster.find?_remove_of_ne (guarded_ne_slot member) (kept.plain g member).free]
      exact kept.live stored found live g member since
  | @misled _ _ copy settings policy events outcome g text gone member applied there answered =>
    cases happens with
    | @pass _ _ stored _ _ _ _ found kind copied run serves =>
      have place := slot_of_stored kept found kind copied
      refine ⟨gone, g, member, applied_cons.mpr (Or.inr applied), ?_⟩
      rcases pass_outcome place found (kept.sound stored found)
        (congrArg Metadata.isDeleting copied) run serves with
        ⟨o, stays, _⟩ | ⟨⟨_, deleting⟩, _⟩
      · rw [gone] at stays
        cases stays
      · rw [← copied] at deleting
        refine (tracked_of_deleting kept place deleting run serves member).2.mpr ⟨there, ?_⟩
        intro done
        cases delete_answer_unique place run member done answered

theorem kept_of_start (absent : start.find? a.slot = none)
    (plain : ∀ g ∈ a.guarded, start.PlainAt g) : a.Kept [] start := by
  refine ⟨plain, ?_, ?_, ?_⟩
  · intro stored found
    rw [absent] at found
    cases found
  · rintro g _ ⟨p, member, _⟩
    simp at member
  · intro stored found
    rw [absent] at found
    cases found

/-- The invariant holds, with no careless act and nothing that outlived the agent, up to the first
careless act, at which something does. -/
theorem kept_or_careless (run : a.Run start past c) (absent : start.find? a.slot = none)
    (plain : ∀ g ∈ a.guarded, start.PlainAt g) :
    (Ever a.Careless past ∧ Ever a.Outlived past) ∨
      (¬ Ever a.Careless past ∧ ¬ Ever a.Outlived past ∧ a.Kept past c) := by
  induction run with
  | start => exact Or.inr ⟨id, id, kept_of_start absent plain⟩
  | @act past c c' act run happens ih =>
    rcases ih with ⟨careless, outlived⟩ | ⟨careful, alive, kept⟩
    · exact Or.inl ⟨Or.inr careless, Or.inr outlived⟩
    · by_cases careless : a.Careless past ⟨c, act, c'⟩
      · exact Or.inl ⟨Or.inl careless, Or.inl (outlived_of_careless kept happens careless)⟩
      · have keptAfter := kept_of_act kept happens careless
        refine Or.inr ⟨?_, ?_, keptAfter⟩
        · rintro (now | earlier)
          · exact careless now
          · exact careful earlier
        · rintro (now | earlier)
          · exact keptAfter.not_outlived now
          · exact alive earlier

/-- In a run from a cluster without the agent, what a pass has applied outlives the agent at some
time exactly if some act was careless. -/
theorem outlived_iff_careless (run : a.Run start past c) (absent : start.find? a.slot = none)
    (plain : ∀ g ∈ a.guarded, start.PlainAt g) :
    Ever a.Outlived past ↔ Ever a.Careless past := by
  rcases kept_or_careless run absent plain with ⟨careless, outlived⟩ | ⟨careful, alive, _⟩
  · exact ⟨fun _ => careless, fun _ => outlived⟩
  · exact ⟨fun outlived => absurd outlived alive, fun careless => absurd careless careful⟩

def telemetry : AgentId := ⟨"observability", "telemetry"⟩

def written : Object := { metadata := { name := some "telemetry", ns := some "observability" } }

def created : Object × Cluster := Cluster.insert {} ⟨.nodeAgent, written⟩

def createdCopy : Instance := { metadata := created.1.metadata, spec := .agent {} }

def blueprint : Blueprint := .ofInstance createdCopy {}

def account : Resource :=
  (Manifest.serviceAccount blueprint).resource.withOwner
    { apiVersion := Kind.nodeAgent.apiVersion, controller := some true, kind := Kind.nodeAgent.name
      name := "telemetry", uid := Cluster.freshUid telemetry.slot }

def halfway (accountStored roleStored : Object) : List Event :=
  [.call (.apply account Conventions.fieldManager true) (.ok accountStored),
    .call (.apply (Manifest.clusterRole blueprint .full).resource Conventions.fieldManager true)
      (.ok roleStored),
    .call (.apply (Manifest.clusterRoleBinding blueprint .full).resource Conventions.fieldManager
      true) (.error (.request "timeout")),
    .call (.get telemetry.slot) (.error (.request "timeout"))]

theorem halfway_runs (accountStored roleStored : Object) :
    ∃ outcome, (createdCopy.pass {} {}).Runs (halfway accountStored roleStored) outcome :=
  ⟨_, .call _ (.call _ (.call _ (.call _ (.done _))))⟩

theorem exists_halfway : ∃ accountStored roleStored c,
    created.2.Serves (halfway accountStored roleStored) c := by
  obtain ⟨accountStored, c₁, first⟩ := created.2.apply_ok account
  obtain ⟨roleStored, c₂, second⟩ := c₁.apply_ok (Manifest.clusterRole blueprint .full).resource
  exact ⟨accountStored, roleStored, c₂, .served (.refl _) ⟨0, 0⟩ first
    (.served (.refl _) ⟨0, 0⟩ second
      (.skipped (.refl _) id (.skipped (.refl _) id (.done c₂))))⟩

theorem halfway_leaves_agent {accountStored roleStored : Object} {call : Call}
    {answer : call.Answer} (called : .call call answer ∈ halfway accountStored roleStored) :
    ¬ call.writes telemetry.slot := by
  simp only [halfway, List.mem_cons, List.not_mem_nil, or_false] at called
  rcases called with same | same | same | same
  · cases same
    exact fun writes => nomatch congrArg Slot.kind writes.1
  · cases same
    exact fun writes => nomatch congrArg Slot.kind writes.1
  · cases same
    exact fun writes => nomatch congrArg Slot.kind writes.1
  · cases same
    exact fun writes => writes.2.1 rfl

theorem exists_halfway_run : ∃ past c, telemetry.Run {} past c ∧ telemetry.Kept past c ∧
    telemetry.Careless past ⟨c, .requestDeletion ⟨0, 0⟩, (c.delete ⟨0, 0⟩ telemetry.slot).2⟩ := by
  obtain ⟨accountStored, roleStored, c, serves⟩ := exists_halfway
  obtain ⟨outcome, pass⟩ := halfway_runs accountStored roleStored
  have plain : ∀ g ∈ telemetry.guarded, Cluster.PlainAt {} g := fun g _ => .of_absent rfl
  have creation : telemetry.Happens {} (.create written) created.2 := .create rfl rfl rfl rfl
  have kept := kept_of_act (kept_of_start rfl plain) creation nofun
  have found : created.2.find? telemetry.slot = some created.1 := rfl
  have passing : telemetry.Happens created.2
      (.pass createdCopy {} {} (halfway accountStored roleStored) outcome) c :=
    .pass found rfl rfl pass serves
  have keptAfter := kept_of_live_pass kept found rfl rfl pass serves rfl
  have there : c.find? telemetry.slot = some created.1 := by
    rw [serves.find?_eq kept.free fun call answer called => halfway_leaves_agent called, found]
  have applied : Act.Applies
      (.pass createdCopy {} {} (halfway accountStored roleStored) outcome) telemetry.role :=
    ⟨_, List.mem_cons_of_mem _ List.mem_cons_self, _, _, _, _, rfl, rfl⟩
  exact ⟨_, c, .act (.act .start creation) passing, keptAfter,
    .unheld there rfl (List.mem_cons_of_mem _ List.mem_cons_self) ⟨id, Or.inl applied⟩⟩

theorem telemetry_outlived_by_careless_act : ∃ past c, telemetry.Run {} past c ∧
    Cluster.find? {} telemetry.slot = none ∧ (∀ g ∈ telemetry.guarded, Cluster.PlainAt {} g) ∧
    Ever telemetry.Outlived past := by
  obtain ⟨past, c, run, _, careless⟩ := exists_halfway_run
  have plain : ∀ g ∈ telemetry.guarded, Cluster.PlainAt {} g := fun g _ => .of_absent rfl
  have whole := run.act (.requestDeletion ⟨0, 0⟩)
  exact ⟨_, _, whole, rfl, plain, (outlived_iff_careless whole rfl plain).mpr (Or.inl careless)⟩

/-- The deletion is requested before a pass has added the marker, and the role stays behind. -/
theorem telemetry_role_left_behind : ∃ past c c', telemetry.Run {} past c ∧
    telemetry.Happens c (.requestDeletion ⟨0, 0⟩) c' ∧
    telemetry.Outlived past ⟨c, .requestDeletion ⟨0, 0⟩, c'⟩ := by
  obtain ⟨past, c, run, kept, careless⟩ := exists_halfway_run
  exact ⟨past, c, _, run, .requestDeletion ⟨0, 0⟩,
    outlived_of_careless kept (.requestDeletion ⟨0, 0⟩) careless⟩

end AgentId
end AgentOperator
