import AgentOperator.Proofs.ScannerPass

/-!
The namespaces that the passes over a scanner create and delete, over a life in which the scanner is
created, edited and deleted and other users create namespaces, on a store that never fails. A pass
creates the namespace that the specification names at the time and is not there; a cleanup deletes
the one that it names then. So a cleanup takes a namespace of somebody else, or leaves one of its
own, exactly if the specification names then what no pass has made, or had named before what one
has.
-/
namespace AgentOperator

inductive ScannerAct where
  | create (object : Object)
  | edit (data : Fields Json) (generation : Option Int)
  | requestDeletion (now : Timestamp)
  /-- Somebody else creates a namespace. -/
  | settle (object : Object)
  | pass (copy : Instance) (settings : Settings) (policy : RetryPolicy) (events : List Event)
      (outcome : Outcome)

namespace ScannerAct

def Makes (act : ScannerAct) (n : String) : Prop :=
  match act with
  | .pass _ _ _ events _ => ∃ r o, r.slot = nsSlot n ∧ .call (.create r) (.ok o) ∈ events
  | _ => False

def Deletes (act : ScannerAct) (n : String) : Prop :=
  match act with
  | .pass _ _ _ events _ => ∃ answer, .call (.delete (nsSlot n)) answer ∈ events
  | _ => False

def Cleans (act : ScannerAct) (n : String) : Prop :=
  match act with
  | .pass copy _ _ _ _ =>
    copy.metadata.isDeleting = true ∧
      copy.metadata.hasMarker Conventions.cleanupMarker = true ∧
      ∃ spec, copy.spec = .scanner spec ∧ spec.ns = n
  | _ => False

end ScannerAct

structure ScannerPassage where
  before : Cluster
  act : ScannerAct
  after : Cluster

/-- A pass has made the namespace, and none has deleted it since; the last passage comes first. -/
def Made : List ScannerPassage → String → Prop
  | [], _ => False
  | p :: past, n => p.act.Makes n ∨ Made past n ∧ ¬ p.act.Deletes n

structure ScannerId where
  name : String
  deriving DecidableEq, Repr

namespace ScannerId

def slot (a : ScannerId) : Slot := ⟨.nodeScanner, .cluster a.name⟩

/-- What an act makes of the cluster. A scanner is created live and owned by nobody; a pass runs
over a copy of the stored scanner, on a store that never fails. -/
inductive Happens (a : ScannerId) (c : Cluster) : ScannerAct → Cluster → Prop where
  | create {object : Object} (absent : c.find? a.slot = none)
      (key : object.metadata.key = a.slot.key) (fresh : object.metadata.isDeleting = false)
      (unowned : object.Unowned) :
      Happens a c (.create object) (c.create ⟨.nodeScanner, object⟩).2
  | edit {stored : Object} {data : Fields Json} {generation : Option Int}
      (found : c.find? a.slot = some stored) :
      Happens a c (.edit data generation) (c.write a.slot
        { stored with data, metadata := { stored.metadata with generation } }).2
  | requestDeletion (now : Timestamp) :
      Happens a c (.requestDeletion now) (c.delete now a.slot).2
  | settle (object : Object) :
      Happens a c (.settle object) (c.create ⟨.namespace, object⟩).2
  | pass {c' : Cluster} {copy : Instance} {stored : Object} {json : Json} {spec : ScannerSpec}
      {settings : Settings} {policy : RetryPolicy} {events : List Event} {outcome : Outcome}
      (found : c.find? a.slot = some stored) (copied : copy.metadata = stored.metadata)
      (specified : stored.data.get? "spec" = some json)
      (decoded : ScannerSpec.decode json = .ok spec) (scanner : copy.spec = .scanner spec)
      (run : (copy.pass settings policy).Runs events outcome) (obeys : c.Obeys events c') :
      Happens a c (.pass copy settings policy events outcome) c'

inductive Run (a : ScannerId) (start : Cluster) : List ScannerPassage → Cluster → Prop where
  | start : Run a start [] start
  | act {past : List ScannerPassage} {c c' : Cluster} {act : ScannerAct}
      (run : Run a start past c) (happens : a.Happens c act c') :
      Run a start (⟨c, act, c'⟩ :: past) c'

def MarkedIn (a : ScannerId) (c : Cluster) : Prop :=
  ∃ o, c.find? a.slot = some o ∧ o.metadata.hasMarker Conventions.cleanupMarker = true

/-- The pass asks for the deletion of a namespace that no pass has made. -/
def TakesForeign (past : List ScannerPassage) (p : ScannerPassage) : Prop :=
  ∃ n, p.act.Deletes n ∧ ¬ Made past n

/-- The scanner loses its marker while a namespace that a pass has made is still there. -/
def LeavesOwn (a : ScannerId) (past : List ScannerPassage) (p : ScannerPassage) : Prop :=
  a.MarkedIn p.before ∧ ¬ a.MarkedIn p.after ∧
    ∃ n, Made (p :: past) n ∧ (p.after.find? (nsSlot n)).isSome

variable {a : ScannerId} {start c c' : Cluster} {past : List ScannerPassage} {act : ScannerAct}
  {n : String}

structure Kept (a : ScannerId) (past : List ScannerPassage) (c : Cluster) : Prop where
  key : ∀ stored, c.find? a.slot = some stored → stored.metadata.key = a.slot.key
  unowned : ∀ stored, c.find? a.slot = some stored → stored.Unowned
  made : ∀ n, Made past n → ∃ o, c.find? (nsSlot n) = some o ∧ o.Plain

theorem nsSlot_ne_slot (a : ScannerId) (n : String) : nsSlot n ≠ a.slot := by
  intro same
  cases congrArg Slot.kind same

theorem Kept.free (kept : a.Kept past c) : c.Free a.slot := kept.unowned

theorem kept_of_start (absent : start.find? a.slot = none) : a.Kept [] start := by
  constructor
  · intro stored found
    rw [absent] at found
    cases found
  · intro stored found
    rw [absent] at found
    cases found
  · intro n made
    exact made.elim

theorem kept_of_frame (kept : a.Kept past c) (makes : ∀ n, ¬ act.Makes n)
    (scanner : ∀ o, c'.find? a.slot = some o → o.metadata.key = a.slot.key ∧ o.Unowned)
    (namespaces : ∀ n o, c.find? (nsSlot n) = some o → o.Plain →
      c'.find? (nsSlot n) = some o) : a.Kept (⟨c, act, c'⟩ :: past) c' := by
  constructor
  · intro o found
    exact (scanner o found).1
  · intro o found
    exact (scanner o found).2
  · rintro n (now | ⟨before, _⟩)
    · exact absurd now (makes n)
    · obtain ⟨o, found, plain⟩ := kept.made n before
      exact ⟨o, namespaces n o found plain, plain⟩

theorem kept_of_create {object : Object} (kept : a.Kept past c) (absent : c.find? a.slot = none)
    (key : object.metadata.key = a.slot.key) (unowned : object.Unowned) :
    a.Kept (⟨c, .create object, (c.create ⟨.nodeScanner, object⟩).2⟩ :: past)
      (c.create ⟨.nodeScanner, object⟩).2 := by
  have there : Resource.slot ⟨.nodeScanner, object⟩ = a.slot := by
    show (⟨.nodeScanner, object.metadata.key⟩ : Slot) = _
    rw [key]
    rfl
  have created := Cluster.create_absent (r := ⟨.nodeScanner, object⟩) (there ▸ absent)
  obtain ⟨o, found, sameKey, sameOwners, _⟩ := c.find?_insert ⟨.nodeScanner, object⟩
  rw [there] at found
  refine kept_of_frame kept (fun n => id) ?_ ?_
  · intro o' found'
    rw [created, found] at found'
    obtain rfl := Option.some.inj found'
    refine ⟨sameKey.trans key, ?_⟩
    rw [Object.Unowned, sameOwners]
    exact unowned
  · intro n o' present plain
    rw [Cluster.find?_create_of_present _ (by rw [present]; rfl), present]

theorem kept_of_edit {stored : Object} {data : Fields Json} {generation : Option Int}
    (kept : a.Kept past c) (found : c.find? a.slot = some stored) :
    a.Kept (⟨c, .edit data generation, (c.write a.slot
        { stored with data, metadata := { stored.metadata with generation } }).2⟩ :: past)
      (c.write a.slot { stored with data, metadata := { stored.metadata with generation } }).2 := by
  refine kept_of_frame kept (fun n => id) ?_ ?_
  · intro o there
    rw [Cluster.find?_write_self] at there
    obtain rfl := Option.some.inj there
    exact ⟨kept.key stored found, kept.unowned stored found⟩
  · intro n o present _
    rw [Cluster.find?_write_of_ne (nsSlot_ne_slot a n), present]

theorem kept_of_requestDeletion (now : Timestamp) (kept : a.Kept past c) :
    a.Kept (⟨c, .requestDeletion now, (c.delete now a.slot).2⟩ :: past)
      (c.delete now a.slot).2 := by
  refine kept_of_frame kept (fun n => id) ?_ ?_
  · intro o there
    cases found : c.find? a.slot with
    | none =>
      rw [Cluster.delete_absent now found] at there
      rw [found] at there
      cases there
    | some stored =>
      by_cases free : stored.metadata.finalizers.getD [] = []
      · rw [Cluster.delete_free now found free] at there
        change (c.remove a.slot).find? a.slot = _ at there
        rw [Cluster.find?_remove_self] at there
        cases there
      · obtain ⟨o', there', _, key, owners, _⟩ := Cluster.find?_delete_held now found free
        rw [there] at there'
        obtain rfl := Option.some.inj there'
        refine ⟨key.trans (kept.key stored found), ?_⟩
        rw [Object.Unowned, owners]
        exact kept.unowned stored found
  · intro n o present plain
    have free : c.Free (nsSlot n) := (Cluster.PlainAt.of_found present plain).free
    rw [Cluster.find?_delete_of_ne (nsSlot_ne_slot a n) free, present]

theorem kept_of_settle (object : Object) (kept : a.Kept past c) :
    a.Kept (⟨c, .settle object, (c.create ⟨.namespace, object⟩).2⟩ :: past)
      (c.create ⟨.namespace, object⟩).2 := by
  have untouched : (c.create ⟨.namespace, object⟩).2.find? a.slot = c.find? a.slot := by
    unfold Cluster.create
    split
    · rfl
    · refine Cluster.find?_write_of_ne ?_ _
      intro same
      cases congrArg Slot.kind same
  refine kept_of_frame kept (fun n => id) ?_ ?_
  · intro o there
    rw [untouched] at there
    exact ⟨kept.key o there, kept.unowned o there⟩
  · intro n o present _
    rw [Cluster.find?_create_of_present _ (by rw [present]; rfl), present]

section pass
variable {copy : Instance} {stored o : Object} {spec : ScannerSpec} {settings : Settings}
  {policy : RetryPolicy} {events : List Event} {outcome : Outcome}

theorem slot_of_stored (kept : a.Kept past c) (found : c.find? a.slot = some stored)
    (copied : copy.metadata = stored.metadata) (scanner : copy.spec = .scanner spec) :
    copy.markerStep.slot = a.slot := by
  show (⟨copy.kind, copy.metadata.key⟩ : Slot) = _
  rw [Instance.kind_of_scanner scanner, copied, kept.key stored found]
  rfl

theorem kept_of_pass (kept : a.Kept past c) (found : c.find? a.slot = some stored)
    (copied : copy.metadata = stored.metadata) (scanner : copy.spec = .scanner spec)
    (run : (copy.pass settings policy).Runs events outcome) (obeys : c.Obeys events c') :
    a.Kept (⟨c, .pass copy settings policy events outcome, c'⟩ :: past) c' := by
  have place := slot_of_stored kept found copied scanner
  have placed (o : Object) (there : c'.find? a.slot = some o) :=
    Instance.placed_after_pass scanner (place ▸ found) copied (kept.unowned stored found) run
      obeys.serves (place ▸ there)
  constructor
  · intro o there
    exact (placed o there).1.trans (kept.key stored found)
  · intro o there
    exact (placed o there).2
  · rintro n (⟨r, o, there, created⟩ | ⟨before, spared⟩)
    · exact (Instance.exists_ns_of_created scanner run obeys.serves there created).2
    · obtain ⟨o, present, plain⟩ := kept.made n before
      exact ⟨o, Instance.find?_ns_of_pass scanner run obeys.serves present plain
        fun answer called => spared ⟨answer, called⟩, plain⟩

end pass

theorem kept_of_act (kept : a.Kept past c) (happens : a.Happens c act c') :
    a.Kept (⟨c, act, c'⟩ :: past) c' := by
  cases happens with
  | create absent key fresh unowned => exact kept_of_create kept absent key unowned
  | edit found => exact kept_of_edit kept found
  | requestDeletion now => exact kept_of_requestDeletion now kept
  | settle object => exact kept_of_settle object kept
  | pass found copied _ _ scanner run obeys =>
    exact kept_of_pass kept found copied scanner run obeys

theorem kept_of_run (run : a.Run start past c) (absent : start.find? a.slot = none) :
    a.Kept past c := by
  induction run with
  | start => exact kept_of_start absent
  | act run happens ih => exact kept_of_act ih happens

theorem deletes_iff_cleans (happens : a.Happens c act c') : act.Deletes n ↔ act.Cleans n := by
  cases happens with
  | @pass _ copy stored json spec _ _ events _ found copied specified decoded scanner run obeys =>
    have iff := Instance.delete_iff (n := n) scanner run obeys
    constructor
    · intro deletes
      obtain ⟨deleting, marked, same⟩ := iff.mp deletes
      exact ⟨deleting, marked, spec, scanner, same⟩
    · rintro ⟨deleting, marked, spec', scanner', same⟩
      rw [scanner] at scanner'
      obtain rfl := Spec.scanner.inj scanner'
      exact iff.mpr ⟨deleting, marked, same⟩
  | _ => exact Iff.rfl

theorem not_makes_of_cleans (happens : a.Happens c act c') {m : String} (cleans : act.Cleans n) :
    ¬ act.Makes m := by
  cases happens with
  | pass found copied specified decoded scanner run obeys =>
    rintro ⟨r, o, there, created⟩
    have live := (Instance.exists_ns_of_created scanner run obeys.serves there created).1
    rw [cleans.1] at live
    cases live
  | _ => exact id

theorem cleans_unique {m : String} (first : act.Cleans m) (second : act.Cleans n) : m = n := by
  cases act with
  | pass copy settings policy events outcome =>
    obtain ⟨_, _, spec, scanner, rfl⟩ := first
    obtain ⟨_, _, spec', scanner', rfl⟩ := second
    rw [scanner] at scanner'
    rw [Spec.scanner.inj scanner']
  | _ => exact first.elim

theorem marked_or_cleans (kept : a.Kept past c) (happens : a.Happens c act c')
    (marked : a.MarkedIn c) : a.MarkedIn c' ∨ ∃ n, act.Cleans n := by
  obtain ⟨stored, there, marked⟩ := marked
  cases happens with
  | create absent key fresh unowned =>
    rw [absent] at there
    cases there
  | edit found =>
    rw [found] at there
    obtain rfl := Option.some.inj there
    exact Or.inl ⟨_, Cluster.find?_write_self c a.slot _, marked⟩
  | requestDeletion now =>
    have held : stored.metadata.finalizers.getD [] ≠ [] := by
      intro free
      rw [Metadata.hasMarker, free] at marked
      cases marked
    obtain ⟨o, found, _, _, _, finalizers, _⟩ := Cluster.find?_delete_held now there held
    refine Or.inl ⟨o, found, ?_⟩
    rw [Metadata.hasMarker, finalizers]
    exact marked
  | settle object =>
    have present : (c.find? a.slot).isSome := by rw [there]; rfl
    exact Or.inl ⟨stored, (Cluster.find?_create_of_present _ present).trans there, marked⟩
  | @pass _ copy stored' json spec _ _ _ _ found copied specified decoded scanner run obeys =>
    rw [found] at there
    obtain rfl := Option.some.inj there
    have place := slot_of_stored kept found copied scanner
    cases deleting : stored'.metadata.isDeleting with
    | false =>
      obtain ⟨o, there, still⟩ := Instance.marked_of_live scanner (place ▸ found) copied
        (kept.unowned _ found) run obeys.serves deleting marked
      exact Or.inl ⟨o, place ▸ there, still⟩
    | true =>
      rw [← copied] at deleting marked
      exact Or.inr ⟨spec.ns, deleting, marked, spec, scanner, rfl⟩

theorem released_of_cleans (kept : a.Kept past c) (happens : a.Happens c act c')
    (cleans : act.Cleans n) : a.MarkedIn c ∧ ¬ a.MarkedIn c' := by
  cases happens with
  | @pass _ copy stored json spec _ _ _ _ found copied specified decoded scanner run obeys =>
    obtain ⟨deleting, marked, _⟩ := cleans
    have place := slot_of_stored kept found copied scanner
    refine ⟨⟨stored, found, copied ▸ marked⟩, ?_⟩
    rintro ⟨o, there, still⟩
    have bare := Instance.bare_of_cleanup scanner (place ▸ found) copied (kept.unowned _ found)
      deleting marked run obeys (place ▸ there)
    rw [bare] at still
    cases still
  | _ => exact cleans.elim

theorem takesForeign_of_cleans {p : ScannerPassage} (happens : a.Happens p.before p.act p.after)
    (cleans : p.act.Cleans n) (foreign : ¬ Made past n) : TakesForeign past p :=
  ⟨n, (deletes_iff_cleans happens).mpr cleans, foreign⟩

theorem leavesOwn_of_cleans {p : ScannerPassage} (kept : a.Kept past p.before)
    (happens : a.Happens p.before p.act p.after) (cleans : p.act.Cleans n) {m : String}
    (different : m ≠ n) (made : Made past m) : a.LeavesOwn past p := by
  obtain ⟨marked, released⟩ := released_of_cleans kept happens cleans
  have spared : ¬ p.act.Deletes m := by
    intro deletes
    exact different (cleans_unique ((deletes_iff_cleans happens).mp deletes) cleans)
  have still : Made (p :: past) m := Or.inr ⟨made, spared⟩
  obtain ⟨o, found, _⟩ := (kept_of_act kept happens).made m still
  exact ⟨marked, released, m, still, by rw [found]; rfl⟩

/-- In a run from a cluster without the scanner, a pass asks for the deletion of a namespace that no
pass has made exactly if it cleans up while the specification names such a one, and the scanner
loses its marker before a namespace that a pass has made exactly if this pass cleans up while the
specification names another one. -/
theorem takes_and_leaves_iff {p : ScannerPassage} (run : a.Run start (p :: past) c)
    (absent : start.find? a.slot = none) :
    (TakesForeign past p ↔ ∃ n, p.act.Cleans n ∧ ¬ Made past n) ∧
      (a.LeavesOwn past p ↔ ∃ n, p.act.Cleans n ∧ ∃ m, m ≠ n ∧ Made past m) := by
  obtain ⟨before, act, after⟩ := p
  cases run with
  | act run happens =>
    have kept := kept_of_run run absent
    constructor
    · constructor
      · rintro ⟨n, deletes, foreign⟩
        exact ⟨n, (deletes_iff_cleans happens).mp deletes, foreign⟩
      · rintro ⟨n, cleans, foreign⟩
        exact takesForeign_of_cleans happens cleans foreign
    · constructor
      · rintro ⟨marked, released, m, made, _⟩
        rcases marked_or_cleans kept happens marked with still | ⟨n, cleans⟩
        · exact absurd still released
        · refine ⟨n, cleans, m, ?_⟩
          rcases made with now | ⟨earlier, spared⟩
          · exact absurd now (not_makes_of_cleans happens cleans)
          · refine ⟨?_, earlier⟩
            rintro rfl
            exact spared ((deletes_iff_cleans happens).mpr cleans)
      · rintro ⟨n, cleans, m, different, made⟩
        exact leavesOwn_of_cleans kept happens cleans different made

def probe : ScannerId := ⟨"probe"⟩

def specified (ns : String) : Fields Json := [("spec", .obj [("namespace", .str ns)])]

def probeManifest : Object :=
  { metadata := { name := some "probe", finalizers := some [Conventions.cleanupMarker] }
    data := specified "scanning" }

def shared : Object := { metadata := { name := some "shared" } }

def settled : Cluster := (Cluster.create {} ⟨.namespace, shared⟩).2

def probed : Cluster := (settled.create ⟨.nodeScanner, probeManifest⟩).2

theorem probe_created : probe.Run {} [⟨settled, .create probeManifest, probed⟩,
    ⟨{}, .settle shared, settled⟩] probed :=
  .act (.act .start (.settle shared)) (.create rfl rfl rfl rfl)

theorem probe_made : ∃ past c o, probe.Run {} past c ∧ c.find? probe.slot = some o ∧
    o.metadata.hasMarker Conventions.cleanupMarker = true ∧
    (∃ o', c.find? (nsSlot "shared") = some o' ∧ o'.Plain) ∧
    ∀ n, Made past n ↔ n = "scanning" := by
  have kept := kept_of_run probe_created rfl
  obtain ⟨stored, found, data, marked, live⟩ : ∃ stored, probed.find? probe.slot = some stored ∧
      stored.data = specified "scanning" ∧
      stored.metadata.hasMarker Conventions.cleanupMarker = true ∧
      stored.metadata.isDeleting = false := ⟨_, rfl, rfl, rfl, rfl⟩
  let copy : Instance := { metadata := stored.metadata, spec := .scanner { ns := "scanning" } }
  have place : copy.markerStep.slot = probe.slot := slot_of_stored kept found rfl rfl
  rw [← place] at found
  obtain ⟨events, outcome, c, run, obeys⟩ := Cluster.Obeys.exists_run probed (copy.pass {} {})
  obtain ⟨o, there, still⟩ := Instance.marked_of_live rfl found rfl (kept.unowned _ (place ▸ found))
    run obeys.serves live marked
  have passing : probe.Happens probed (.pass copy {} {} events outcome) c :=
    .pass (place ▸ found) rfl (by rw [data]; rfl) rfl rfl run obeys
  have present : ∃ o', c.find? (nsSlot "shared") = some o' ∧ o'.Plain := by
    obtain ⟨o', there, plain⟩ : ∃ o', probed.find? (nsSlot "shared") = some o' ∧ o'.Plain :=
      ⟨_, rfl, rfl, rfl⟩
    refine ⟨o', Instance.find?_ns_of_pass rfl run obeys.serves there plain ?_, plain⟩
    intro answer called
    have deleting := ((Instance.delete_iff rfl run obeys).mp ⟨answer, called⟩).1
    rw [live] at deleting
    cases deleting
  refine ⟨_, c, o, probe_created.act passing, place ▸ there, still, present, ?_⟩
  have makes (n : String) :
      (∃ r o, r.slot = nsSlot n ∧ .call (.create r) (.ok o) ∈ events) ↔ n = "scanning" := by
    constructor
    · rintro ⟨r, o, there, created⟩
      exact Instance.ns_of_write rfl run created (Call.writes_of_create there)
    · rintro rfl
      exact Instance.exists_created rfl live rfl run obeys
  simpa [Made, ScannerAct.Makes] using makes

theorem probe_cleans (later : String) : ∃ past c act c', probe.Run {} past c ∧
    probe.Happens c act c' ∧ act.Cleans later ∧ (c.find? (nsSlot "shared")).isSome ∧
    ∀ n, Made past n ↔ n = "scanning" := by
  obtain ⟨past, c, o, run, there, marked, ⟨o', shared, plain⟩, made⟩ := probe_made
  have held : o.metadata.finalizers.getD [] ≠ [] := by
    intro free
    rw [Metadata.hasMarker, free] at marked
    cases marked
  let edited : Object :=
    { o with data := specified later, metadata := { o.metadata with generation := none } }
  obtain ⟨last, present, deleting, _, _, finalizers, data⟩ :=
    Cluster.find?_delete_held ⟨0, 0⟩ (Cluster.find?_write_self c probe.slot edited) held
  let copy : Instance := { metadata := last.metadata, spec := .scanner { ns := later } }
  obtain ⟨events, outcome, c', pass, obeys⟩ := Cluster.Obeys.exists_run _ (copy.pass {} {})
  refine ⟨_, _, .pass copy {} {} events outcome, c',
    (run.act (.edit there)).act (.requestDeletion ⟨0, 0⟩),
    .pass present rfl (by rw [data]; rfl) rfl rfl pass obeys, ⟨deleting, ?_, _, rfl, rfl⟩, ?_, ?_⟩
  · rw [Metadata.hasMarker, finalizers]
    exact marked
  · have untouched : (c.write probe.slot edited).2.find? (nsSlot "shared") = some o' :=
      (Cluster.find?_write_of_ne (nsSlot_ne_slot probe "shared") edited).trans shared
    have free := (Cluster.PlainAt.of_found untouched plain).free
    rw [Cluster.find?_delete_of_ne (nsSlot_ne_slot probe "shared") free, untouched]
    rfl
  · simpa [Made, ScannerAct.Makes, ScannerAct.Deletes] using made

/-- Its cleanup takes and leaves nothing wrong if the specification still names the namespace. -/
theorem probe_cleans_up_after_itself : ∃ past p c, probe.Run {} (p :: past) c ∧
    Cluster.find? {} probe.slot = none ∧ p.act.Cleans "scanning" ∧
    ¬ TakesForeign past p ∧ ¬ probe.LeavesOwn past p := by
  obtain ⟨past, c, act, c', run, happens, cleans, _, made⟩ := probe_cleans "scanning"
  have ran := run.act happens
  have absent : Cluster.find? {} probe.slot = none := rfl
  obtain ⟨takes, leaves⟩ := takes_and_leaves_iff ran absent
  refine ⟨past, _, c', ran, absent, cleans, ?_, ?_⟩
  · rw [takes]
    rintro ⟨n, named, foreign⟩
    obtain rfl := cleans_unique named cleans
    exact foreign ((made _).mpr rfl)
  · rw [leaves]
    rintro ⟨n, named, m, different, own⟩
    obtain rfl := cleans_unique named cleans
    exact different ((made m).mp own)

/-- If it names the namespace of somebody else by then, the cleanup takes that one and leaves its
own. -/
theorem probe_takes_shared_and_leaves_scanning : ∃ past p, probe.Run {} (p :: past) p.after ∧
    (p.before.find? (nsSlot "shared")).isSome ∧ p.act.Deletes "shared" ∧ ¬ Made past "shared" ∧
    probe.LeavesOwn past p := by
  obtain ⟨past, c, act, c', run, happens, cleans, present, made⟩ := probe_cleans "shared"
  have foreign : ¬ Made past "shared" := by simp [made]
  have own : Made past "scanning" := (made _).mpr rfl
  have leaves : probe.LeavesOwn past ⟨c, act, c'⟩ :=
    leavesOwn_of_cleans (kept_of_run run rfl) happens cleans (by decide) own
  exact ⟨past, ⟨c, act, c'⟩, run.act happens, present, (deletes_iff_cleans happens).mpr cleans,
    foreign, leaves⟩

end ScannerId
end AgentOperator
