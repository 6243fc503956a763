import AgentOperator.Proofs.FaultlessStore
import AgentOperator.Proofs.MarkerGate
import AgentOperator.Proofs.StatusRace

/-!
What each step of a pass makes of a store that never fails. Clusters with the same objects make the
same of a call, so the calls of a step come down to one operation on the cluster that it began with,
and the step ends well if it has what it needs: an owner that can be referred to, and for a
credential a service account.
-/
namespace AgentOperator

namespace Cluster
variable {b c c' d : Cluster} {slot : Slot} {call : Call} {answer : call.Answer} {e : Event}
  {events rest : List Event}

theorem Alike.current (alike : b.Alike c) (slot : Slot) (given : Object) :
    b.current slot given = c.current slot given := by
  unfold Cluster.current
  rw [alike.find? slot]

theorem Alike.write (alike : b.Alike c) (slot : Slot) (object : Object) :
    (b.write slot object).1 = (c.write slot object).1 ∧
      (b.write slot object).2.Alike (c.write slot object).2 := by
  unfold Cluster.write
  rw [alike.version, alike.inventory]
  exact ⟨rfl, rfl, rfl, alike.revives⟩

theorem Alike.remove (alike : b.Alike c) (slot : Slot) : (b.remove slot).Alike (c.remove slot) :=
  ⟨congrArg (·.remove slot) alike.inventory, alike.version, alike.revives⟩

theorem merged_of_revives (same : b.revives = c.revives) : b.merged = c.merged := by
  unfold merged
  rw [same]

def SameEffect {α : Type} (x y : Except StoreError α × Cluster) : Prop :=
  x.1 = y.1 ∧ x.2.Alike y.2

theorem Alike.create (alike : b.Alike c) (r : Resource) : SameEffect (b.create r) (c.create r) := by
  unfold Cluster.create
  rw [alike.find? r.slot]
  split
  · exact ⟨rfl, alike⟩
  · have written := alike.write r.slot (r.object.withMetadata fun m =>
      { m with uid := some (freshUid r.slot), generation := some (m.generation.getD 1) })
    exact ⟨congrArg Except.ok written.1, written.2⟩

theorem Alike.replace (alike : b.Alike c) (r : Resource) :
    SameEffect (b.replace r) (c.replace r) := by
  unfold Cluster.replace
  rw [alike.current]
  split
  · exact ⟨rfl, alike⟩
  · next stored _ =>
    have written := alike.write r.slot (keepOwn stored r.object)
    dsimp only
    rw [written.1]
    split
    · exact ⟨rfl, written.2.remove r.slot⟩
    · exact ⟨rfl, written.2⟩

theorem Alike.replaceStatus (alike : b.Alike c) (r : Resource) :
    SameEffect (b.replaceStatus r) (c.replaceStatus r) := by
  unfold Cluster.replaceStatus
  rw [alike.current]
  split
  · exact ⟨rfl, alike⟩
  · next stored _ =>
    have written := alike.write r.slot (stored.withStatus r.object.status?)
    exact ⟨congrArg Except.ok written.1, written.2⟩

theorem Alike.apply (alike : b.Alike c) (r : Resource) : SameEffect (b.apply r) (c.apply r) := by
  unfold Cluster.apply
  rw [alike.find? r.slot]
  split
  · have written := alike.write r.slot (r.object.withMetadata fun m =>
      { m with uid := some (freshUid r.slot), generation := some (m.generation.getD 1) })
    exact ⟨congrArg Except.ok written.1, written.2⟩
  · next stored _ =>
    have written := alike.write r.slot (c.merged stored r.object)
    rw [merged_of_revives alike.revives]
    exact ⟨congrArg Except.ok written.1, written.2⟩

theorem Alike.delete (alike : b.Alike c) (now : Timestamp) (slot : Slot) :
    SameEffect (b.delete now slot) (c.delete now slot) := by
  unfold Cluster.delete
  rw [alike.find? slot]
  split
  · exact ⟨rfl, alike⟩
  · split
    · exact ⟨rfl, alike.remove slot⟩
    · split
      · exact ⟨rfl, alike⟩
      · exact ⟨rfl, (alike.write slot _).2⟩

/-- Tokens are numbered; every other answer follows from the objects alone. -/
theorem Alike.carryOut (alike : b.Alike c) (now : Timestamp) (call : Call) :
    (b.carryOut now call).2.Alike (c.carryOut now call).2 ∧
      (call.verb ≠ .requestToken → (b.carryOut now call).1 = (c.carryOut now call).1) := by
  cases call with
  | get slot =>
    refine ⟨alike, fun _ => ?_⟩
    show b.get slot = c.get slot
    unfold Cluster.get
    rw [alike.find? slot]
  | requestToken account request => exact ⟨alike, fun other => absurd rfl other⟩
  | create r => exact ⟨(alike.create r).2, fun _ => (alike.create r).1⟩
  | replace r => exact ⟨(alike.replace r).2, fun _ => (alike.replace r).1⟩
  | replaceStatus r => exact ⟨(alike.replaceStatus r).2, fun _ => (alike.replaceStatus r).1⟩
  | delete slot => exact ⟨(alike.delete now slot).2, fun _ => (alike.delete now slot).1⟩
  | apply r manager force => exact ⟨(alike.apply r).2, fun _ => (alike.apply r).1⟩

namespace Obeys

theorem eq_of_nil (obeys : Obeys c [] c') : c' = c := by
  cases obeys
  rfl

theorem carries (obeys : Obeys c (.call call answer :: rest) c') :
    ∃ now b, b.Alike (c.carryOut now call).2 ∧
      (call.verb ≠ .requestToken → answer = (c.carryOut now call).1) ∧ Obeys b rest c' := by
  obtain ⟨b, now, alike, answered, later⟩ := obeys.of_call
  have same := alike.carryOut now call
  exact ⟨now, _, same.1, fun other => answered.trans (same.2 other), later⟩

theorem idles (obeys : Obeys c (e :: rest) c') (silent : e.Silent) :
    ∃ b, b.Alike c ∧ Obeys b rest c' := by
  cases obeys with
  | @carried _ _ _ _ call answer _ alike now carried later => exact absurd rfl (silent call answer)
  | silent alike _ later => exact ⟨_, alike, later⟩

theorem restart (alike : b.Alike c) (obeys : Obeys b events c') :
    ∃ d, Obeys c events d ∧ c'.Alike d := by
  cases obeys with
  | done => exact ⟨c, .done c, alike⟩
  | carried alike' now carried later =>
    exact ⟨c', .carried (alike'.trans alike) now carried later, .refl c'⟩
  | silent alike' silent later =>
    exact ⟨c', .silent (alike'.trans alike) silent later, .refl c'⟩

theorem of_measured (obeys : Obeys c events c') (quiet : ∀ e ∈ events, ∃ m, e = .measure m) :
    c'.Alike c := by
  induction events generalizing c with
  | nil =>
    obtain rfl := obeys.eq_of_nil
    exact .refl c'
  | cons e rest ih =>
    obtain ⟨m, rfl⟩ := quiet e List.mem_cons_self
    obtain ⟨b, alike, later⟩ := obeys.idles fun _ _ => nofun
    exact (ih later fun e member => quiet e (List.mem_cons_of_mem _ member)).trans alike

theorem of_read {answer : Except StoreError Object}
    (obeys : Obeys c (.call (.get slot) answer :: rest) c') :
    answer = c.get slot ∧ ∃ b : Cluster, b.Alike c ∧ Obeys b rest c' := by
  obtain ⟨now, b, alike, answered, later⟩ := obeys.carries
  exact ⟨answered (by simp [Call.verb]), b, alike, later⟩

end Obeys

theorem get_of_found {o : Object} (found : c.find? slot = some o) : c.get slot = .ok o := by
  simp [get, found]

theorem get_of_absent (absent : c.find? slot = none) :
    c.get slot = .error (.notFound (slot.ident.render ++ " not found")) := by
  simp [get, absent, notFound]

end Cluster

theorem Event.silent_clock (moment : Moment) : (Event.clock moment).Silent := fun _ _ => nofun

theorem Event.silent_sleep (span : Duration) : (Event.sleep span).Silent := fun _ _ => nofun

theorem Event.silent_measure (m : Measurement) : (Event.measure m).Silent := fun _ _ => nofun

section Steps
variable {c c' : Cluster} {events : List Event} {result : StepResult} {slot : Slot} {o : Object}

theorem ApplyStep.effect {s : ApplyStep} {r : Resource} (desired : s.desired? = some r)
    (run : s.run.Runs events result) (obeys : c.Obeys events c') :
    result = .ok ∧ c'.Alike (c.apply r).2 ∧
      ∃ answer, events = [.call (.apply r Conventions.fieldManager true) answer] := by
  rcases runs_iff.mp run with ⟨missing, _⟩ | ⟨r', answer, same, rfl, rfl⟩
  · rw [desired] at missing
    cases missing
  · obtain rfl : r' = r := Option.some.inj (same.symm.trans desired)
    obtain ⟨now, b, alike, answered, later⟩ := obeys.carries
    obtain rfl := later.eq_of_nil
    obtain ⟨stored, d, applied⟩ := c.apply_ok r'
    have fine : answer = .ok stored :=
      (answered (by simp [Call.verb])).trans (congrArg Prod.fst applied)
    refine ⟨?_, alike, answer, rfl⟩
    rw [fine]
    rfl

theorem DeleteStep.effect {s : DeleteStep} (run : s.run.Runs events result)
    (obeys : c.Obeys events c') :
    result = .ok ∧ ∃ now, c'.Alike (c.delete now s.resource.slot).2 ∧
      ∃ answer, events = [.call (.delete s.resource.slot) answer] := by
  obtain ⟨answer, rfl, rfl⟩ := runs_iff.mp run
  have deleted := obeys.deleted (List.mem_singleton_self _)
  obtain ⟨now, b, alike, _, later⟩ := obeys.carries
  obtain rfl := later.eq_of_nil
  exact ⟨s.conclude_of_deleted deleted, now, alike, answer, rfl⟩

theorem ProvisionStep.effect_of_present {s : ProvisionStep}
    (found : c.find? s.resource.slot = some o) (run : s.run.Runs events result)
    (obeys : c.Obeys events c') :
    result = .ok ∧ c'.Alike c ∧ events = [.call (.get s.resource.slot) (.ok o)] := by
  rw [ProvisionStep.run, Program.get_bind, Program.runs_call] at run
  obtain ⟨answer, rest, rfl, run⟩ := run
  obtain ⟨answered, b, alike, later⟩ := obeys.of_read
  rw [Cluster.get_of_found found] at answered
  subst answered
  obtain ⟨rfl, rfl⟩ := Program.runs_pure.mp run
  obtain rfl := later.eq_of_nil
  exact ⟨rfl, alike, rfl⟩

theorem ProvisionStep.effect_of_absent {s : ProvisionStep}
    (absent : c.find? s.resource.slot = none) (run : s.run.Runs events result)
    (obeys : c.Obeys events c') : result = .ok ∧ c'.Alike (c.insert s.resource).2 := by
  rw [ProvisionStep.run, Program.get_bind, Program.runs_call] at run
  obtain ⟨answer, rest, rfl, run⟩ := run
  obtain ⟨answered, b, alike, later⟩ := obeys.of_read
  rw [Cluster.get_of_absent absent] at answered
  subst answered
  dsimp only at run
  rw [Program.create_bind, Program.runs_call] at run
  obtain ⟨answer, rest, rfl, run⟩ := run
  obtain ⟨d, obeys', alike'⟩ := later.restart alike
  obtain ⟨now, b', alike'', answered, last⟩ := obeys'.carries
  have created : c.create s.resource = (.ok (c.insert s.resource).1, (c.insert s.resource).2) :=
    Cluster.create_absent absent
  have fine : answer = .ok (c.insert s.resource).1 :=
    (answered (by simp [Call.verb])).trans (congrArg Prod.fst created)
  subst fine
  obtain ⟨rfl, rfl⟩ := Program.runs_pure.mp run
  obtain rfl := last.eq_of_nil
  refine ⟨rfl, alike'.trans ?_⟩
  have inserted : (c.carryOut now (.create s.resource)).2 = (c.insert s.resource).2 :=
    congrArg Prod.snd created
  rw [← inserted]
  exact alike''

namespace MarkerStep
variable {s : MarkerStep} {stored changed : Object}

theorem effect_of_absent (absent : c.find? s.slot = none) (run : s.run.Runs events result)
    (obeys : c.Obeys events c') : result = .ok ∧ c'.Alike c := by
  rw [MarkerStep.run, Program.get_bind, Program.runs_call] at run
  obtain ⟨answer, rest, rfl, run⟩ := run
  obtain ⟨answered, b, alike, later⟩ := obeys.of_read
  rw [Cluster.get_of_absent absent] at answered
  subst answered
  obtain ⟨rfl, rfl⟩ := Program.runs_pure.mp run
  obtain rfl := later.eq_of_nil
  exact ⟨rfl, alike⟩

theorem effect_of_steady (found : c.find? s.slot = some stored)
    (steady : s.amended? stored = none) (run : s.run.Runs events result)
    (obeys : c.Obeys events c') :
    result = .ok ∧ c'.Alike c ∧ events = [.call (.get s.slot) (.ok stored)] := by
  rw [MarkerStep.run, Program.get_bind, Program.runs_call] at run
  obtain ⟨answer, rest, rfl, run⟩ := run
  obtain ⟨answered, b, alike, later⟩ := obeys.of_read
  rw [Cluster.get_of_found found] at answered
  subst answered
  dsimp only at run
  rw [steady] at run
  obtain ⟨rfl, rfl⟩ := Program.runs_pure.mp run
  obtain rfl := later.eq_of_nil
  exact ⟨rfl, alike, rfl⟩

theorem effect_of_amended (found : c.find? s.slot = some stored)
    (key : stored.metadata.key = s.key) (amended : s.amended? stored = some changed)
    (run : s.run.Runs events result) (obeys : c.Obeys events c') :
    result = .stop ∧ c'.Alike (c.replace ⟨s.kind, changed⟩).2 := by
  rw [MarkerStep.run, Program.get_bind, Program.runs_call] at run
  obtain ⟨answer, rest, rfl, run⟩ := run
  obtain ⟨answered, b, alike, later⟩ := obeys.of_read
  rw [Cluster.get_of_found found] at answered
  subst answered
  dsimp only at run
  rw [amended] at run
  dsimp only at run
  rw [Program.replace_bind, Program.runs_call] at run
  obtain ⟨answer, rest, rfl, run⟩ := run
  obtain ⟨rfl, rfl⟩ := Program.runs_pure.mp run
  obtain ⟨d, obeys', alike'⟩ := later.restart alike
  obtain ⟨now, b', alike'', answered, last⟩ := obeys'.carries
  obtain rfl := last.eq_of_nil
  obtain ⟨sameKey, _, version⟩ := frame_of_amended amended
  have there : Resource.slot ⟨s.kind, changed⟩ = s.slot := by
    show (⟨s.kind, changed.metadata.key⟩ : Slot) = ⟨s.kind, s.key⟩
    rw [sameKey, key]
  have current : c.current (Resource.slot ⟨s.kind, changed⟩) changed = .ok stored :=
    Cluster.current_of_find? (there ▸ found) version.symm
  have fine : ∃ object, answer = .ok object := by
    rw [answered (by simp [Call.verb])]
    show ∃ object, (c.replace ⟨s.kind, changed⟩).1 = _
    unfold Cluster.replace
    rw [current]
    exact ⟨_, rfl⟩
  obtain ⟨object, rfl⟩ := fine
  exact ⟨rfl, alike'.trans alike''⟩

end MarkerStep

section Polls
variable {interval deadline : Duration} {looks : Nat} {window : PollWindow}
  {value : Except StoreError (Option Object)}

theorem Program.lookUntil_of_present (found : c.find? slot = some o)
    (run : (Program.lookUntil slot interval deadline (looks + 1)).Runs events value)
    (obeys : c.Obeys events c') :
    value = .ok (some o) ∧ c'.Alike c ∧ events = [.call (.get slot) (.ok o)] := by
  rw [Program.lookUntil, Program.get_bind, Program.runs_call] at run
  obtain ⟨answer, rest, rfl, run⟩ := run
  obtain ⟨answered, b, alike, later⟩ := obeys.of_read
  rw [Cluster.get_of_found found] at answered
  subst answered
  obtain ⟨rfl, rfl⟩ := Program.runs_pure.mp run
  obtain rfl := later.eq_of_nil
  exact ⟨rfl, alike, rfl⟩

theorem Program.lookUntil_of_absent (absent : c.find? slot = none)
    (run : (Program.lookUntil slot interval deadline looks).Runs events value)
    (obeys : c.Obeys events c') : value = .ok none ∧ c'.Alike c := by
  induction looks generalizing c events with
  | zero =>
    obtain ⟨rfl, rfl⟩ := Program.runs_pure.mp run
    obtain rfl := obeys.eq_of_nil
    exact ⟨rfl, .refl c'⟩
  | succ looks ih =>
    rw [Program.lookUntil, Program.get_bind, Program.runs_call] at run
    obtain ⟨answer, rest, rfl, run⟩ := run
    obtain ⟨answered, b, alike, later⟩ := obeys.of_read
    rw [Cluster.get_of_absent absent] at answered
    subst answered
    dsimp only at run
    rw [Program.now_bind, Program.runs_clock] at run
    obtain ⟨moment, rest, rfl, run⟩ := run
    obtain ⟨b', alike', later'⟩ := later.idles (Event.silent_clock moment)
    split at run
    · obtain ⟨rfl, rfl⟩ := Program.runs_pure.mp run
      obtain rfl := later'.eq_of_nil
      exact ⟨rfl, alike'.trans alike⟩
    · rw [Program.pause_bind, Program.runs_sleep] at run
      obtain ⟨rest, rfl, run⟩ := run
      obtain ⟨b'', alike'', last⟩ := later'.idles (Event.silent_sleep interval)
      have same := alike''.trans (alike'.trans alike)
      have still : b''.find? slot = none := (same.find? slot).trans absent
      obtain ⟨nothing, kept⟩ := ih still run last
      exact ⟨nothing, kept.trans same⟩

theorem Program.poll_of_present (found : c.find? slot = some o)
    (run : (Program.poll slot window).Runs events value) (obeys : c.Obeys events c') :
    value = .ok (some o) ∧ c'.Alike c ∧
      ∃ start, events = [.clock start, .call (.get slot) (.ok o)] := by
  rw [Program.poll, Program.now_bind, Program.runs_clock] at run
  obtain ⟨start, rest, rfl, run⟩ := run
  obtain ⟨b, alike, later⟩ := obeys.idles (Event.silent_clock start)
  obtain ⟨value_eq, kept, events_eq⟩ :=
    lookUntil_of_present ((alike.find? slot).trans found) run later
  exact ⟨value_eq, kept.trans alike, start, by rw [events_eq]⟩

theorem Program.poll_of_absent (absent : c.find? slot = none)
    (run : (Program.poll slot window).Runs events value) (obeys : c.Obeys events c') :
    value = .ok none ∧ c'.Alike c := by
  rw [Program.poll, Program.now_bind, Program.runs_clock] at run
  obtain ⟨start, rest, rfl, run⟩ := run
  obtain ⟨b, alike, later⟩ := obeys.idles (Event.silent_clock start)
  obtain ⟨value_eq, kept⟩ := lookUntil_of_absent ((alike.find? slot).trans absent) run later
  exact ⟨value_eq, kept.trans alike⟩

end Polls

namespace CredentialStep
variable {s : CredentialStep}

theorem effect_of_dropped (unwanted : s.enabled = false) (run : s.run.Runs events result)
    (obeys : c.Obeys events c') :
    result = .ok ∧ ∃ now, c'.Alike (c.delete now s.secretSlot).2 ∧
      ∃ answer, events = [.call (.delete s.secretSlot) answer] := by
  rw [CredentialStep.run, if_pos (by simp [unwanted])] at run
  exact DeleteStep.effect run obeys

theorem effect_of_issue {now : Timestamp} (account : (c.find? s.accountSlot).isSome)
    (owned : ∀ credential, ((s.applied credential).desired?).isSome)
    (run : (s.issue now).Runs events result) (obeys : c.Obeys events c') :
    result = .ok ∧ ∃ credential r, (s.applied credential).desired? = some r ∧
      c'.Alike (c.apply r).2 := by
  rw [issue, Program.requestToken_bind, Program.runs_call] at run
  obtain ⟨answer, rest, rfl, run⟩ := run
  obtain ⟨b, later, alike, answered, obeys'⟩ := obeys.of_call
  have granted : ∃ token, answer = .ok token := by
    rw [answered]
    show ∃ token, b.issueToken s.accountSlot.key _ = _
    obtain ⟨o, found⟩ := Option.isSome_iff_exists.mp account
    have there : b.find? ⟨.serviceAccount, s.accountSlot.key⟩ = some o :=
      (alike.find? _).trans found
    unfold Cluster.issueToken
    rw [there]
    exact ⟨_, rfl⟩
  obtain ⟨token, rfl⟩ := granted
  obtain ⟨applying, ended, measured, rfl, apply, tail⟩ := Program.runs_bind.mp run
  obtain ⟨d, first, last⟩ := obeys'.split
  have kept : (b.carryOut later (.requestToken s.accountSlot.key ⟨Conventions.audiences, s.ttl⟩)).2
      = b := rfl
  rw [kept] at first
  let credential : Manifest.Credential := ⟨token, now.shift (reach s.ttl)⟩
  obtain ⟨r, desired⟩ := Option.isSome_iff_exists.mp (owned credential)
  obtain ⟨rfl, effect, _⟩ := ApplyStep.effect (s := s.applied credential) desired apply first
  change (Program.record .rotation >>= fun _ => pure StepResult.ok).Runs measured result at tail
  rw [Program.record_bind, Program.runs_measure] at tail
  obtain ⟨rest, rfl, finish⟩ := tail
  obtain ⟨rfl, rfl⟩ := Program.runs_pure.mp finish
  obtain ⟨b', alike', done⟩ := last.idles (Event.silent_measure .rotation)
  obtain rfl := done.eq_of_nil
  exact ⟨rfl, credential, r, desired, alike'.trans (effect.trans (alike.apply r).2)⟩

theorem effect_of_wanted (wanted : s.enabled = true) (account : (c.find? s.accountSlot).isSome)
    (owned : ∀ credential, ((s.applied credential).desired?).isSome)
    (run : s.run.Runs events result) (obeys : c.Obeys events c') :
    result = .ok ∧
      ((∃ o, c.find? s.secretSlot = some o ∧ c'.Alike c ∧
        ∀ e ∈ events, e.verb? = none ∨ e.verb? = some .get) ∨
      (∀ o, c.find? s.secretSlot = some o →
        ∃ moment, .clock moment ∈ events ∧ s.needsRotation o moment.wall = true) ∧
        ∃ credential r, (s.applied credential).desired? = some r ∧ c'.Alike (c.apply r).2) := by
  rw [CredentialStep.run, if_neg (by simp [wanted])] at run
  obtain ⟨waiting, account', others, rfl, looking, tail⟩ := Program.runs_bind.mp run
  obtain ⟨c₁, obeys₁, rest₁⟩ := obeys.split
  obtain ⟨known, found⟩ := Option.isSome_iff_exists.mp account
  obtain ⟨rfl, alike₁, start, rfl⟩ := Program.poll_of_present found looking obeys₁
  dsimp only at tail
  rw [Program.now_bind, Program.runs_clock] at tail
  obtain ⟨moment, later, rfl, after⟩ := tail
  obtain ⟨c₂, alike₂, rest₂⟩ := rest₁.idles (Event.silent_clock moment)
  obtain ⟨searching, secret, last, rfl, looking, finish⟩ := Program.runs_bind.mp after
  obtain ⟨c₃, obeys₃, rest₃⟩ := rest₂.split
  have same₂ := alike₂.trans alike₁
  cases stored : c.find? s.secretSlot with
  | none =>
    obtain ⟨rfl, alike₃⟩ :=
      Program.poll_of_absent ((same₂.find? _).trans stored) looking obeys₃
    have same₃ := alike₃.trans same₂
    obtain ⟨fine, credential, r, desired, effect⟩ :=
      effect_of_issue (by rw [same₃.find?, found]; rfl) owned finish rest₃
    refine ⟨fine, Or.inr ⟨?_, credential, r, desired, effect.trans (same₃.apply r).2⟩⟩
    intro o found
    cases found
  | some existing =>
    obtain ⟨rfl, alike₃, again, rfl⟩ :=
      Program.poll_of_present ((same₂.find? _).trans stored) looking obeys₃
    have same₃ := alike₃.trans same₂
    dsimp only at finish
    split at finish
    · next due =>
      obtain ⟨fine, credential, r, desired, effect⟩ :=
        effect_of_issue (by rw [same₃.find?, found]; rfl) owned finish rest₃
      refine ⟨fine, Or.inr ⟨?_, credential, r, desired, effect.trans (same₃.apply r).2⟩⟩
      intro o same
      obtain rfl := Option.some.inj same
      exact ⟨moment, by simp, due⟩
    · obtain ⟨rfl, rfl⟩ := Program.runs_pure.mp finish
      obtain rfl := rest₃.eq_of_nil
      refine ⟨rfl, Or.inl ⟨existing, rfl, same₃, ?_⟩⟩
      intro e member
      simp only [List.cons_append, List.nil_append, List.append_nil, List.mem_cons,
        List.not_mem_nil, or_false] at member
      rcases member with rfl | rfl | rfl | rfl | rfl <;> simp [Event.verb?, Call.verb]

end CredentialStep
end Steps

namespace RetryPolicy
variable {α : Type} {policy : RetryPolicy} {retryable : StoreError → Bool}
  {operation : Program (Except StoreError α)} {retries : Nat} {delay : Duration}
  {events : List Event} {value : Except StoreError α}

theorem exists_first
    (run : (policy.attempt retryable Program.pause operation retries delay).Runs events value) :
    ∃ own result rest, events = own ++ rest ∧ operation.Runs own result ∧
      ∀ a, result = .ok a → rest = [] ∧ value = .ok a := by
  cases retries with
  | zero =>
    refine ⟨events, value, [], by simp, run, ?_⟩
    intro a same
    exact ⟨rfl, same⟩
  | succ retries =>
    obtain ⟨own, result, rest, rfl, head, tail⟩ := Program.runs_bind.mp run
    refine ⟨own, result, rest, rfl, head, ?_⟩
    intro a same
    subst same
    exact Program.runs_pure.mp tail

end RetryPolicy

namespace StatusWriter
variable {w : StatusWriter} {passError : Option String} {c c' : Cluster} {events : List Event}
  {result : Except StoreError StatusWrite} {stored : Object}

/-- What a write of the status makes of the cluster. Nothing is written for an instance that is gone
or going, nor if the stored conditions say the same already. -/
inductive Settles (w : StatusWriter) (passError : Option String) (c c' : Cluster) :
    List Event → Except StoreError StatusWrite → Prop where
  | skipped {events : List Event}
      (gone : ∀ stored, c.find? w.slot = some stored → stored.metadata.isDeleting = true)
      (effect : c'.Alike c) : Settles w passError c c' events (.ok .skipped)
  | unchanged {events : List Event} {stored : Object} {moment : Moment}
      (found : c.find? w.slot = some stored) (live : stored.metadata.isDeleting = false)
      (same : (w.derived passError stored (c.get ⟨.daemonSet, w.workload⟩) moment).2 = false)
      (effect : c'.Alike c) (reads : ∀ e ∈ events, e.verb? = none ∨ e.verb? = some .get) :
      Settles w passError c c' events (.ok .unchanged)
  | written {events : List Event} {stored : Object} {moment : Moment}
      (found : c.find? w.slot = some stored) (live : stored.metadata.isDeleting = false)
      (changed : (w.derived passError stored (c.get ⟨.daemonSet, w.workload⟩) moment).2 = true)
      (effect : c'.Alike (c.write w.slot (stored.withStatus (some (Instance.encodeStatus
        (w.derived passError stored (c.get ⟨.daemonSet, w.workload⟩) moment).1)))).2) :
      Settles w passError c c' events (.ok .written)

theorem Settles.exists_ok (settles : w.Settles passError c c' events result) :
    ∃ ending, result = .ok ending := by
  cases settles with
  | skipped => exact ⟨_, rfl⟩
  | unchanged => exact ⟨_, rfl⟩
  | written => exact ⟨_, rfl⟩

theorem readings_effect {read : Object} {workload : Except StoreError Object} {moment : Moment}
    {rest : List Event} (obeys : c.Obeys (w.readings read workload moment ++ rest) c') :
    c.find? w.slot = some read ∧ workload = c.get ⟨.daemonSet, w.workload⟩ ∧
      ∃ b : Cluster, b.Alike c ∧ b.Obeys rest c' := by
  obtain ⟨answered, b, alike, later⟩ := obeys.of_read
  obtain ⟨observed, b', alike', later'⟩ := later.of_read
  obtain ⟨b'', alike'', last⟩ := later'.idles (Event.silent_clock moment)
  refine ⟨?_, ?_, b'', alike''.trans (alike'.trans alike), last⟩
  · cases found : c.find? w.slot with
    | none =>
      rw [Cluster.get_of_absent found] at answered
      cases answered
    | some stored =>
      rw [Cluster.get_of_found found] at answered
      exact congrArg some (Except.ok.inj answered).symm
  · rw [observed]
    unfold Cluster.get
    rw [alike.find?]

theorem replaceStatus_of_found (found : c.find? w.slot = some stored)
    (key : stored.metadata.key = w.key) (status : Json) :
    c.replaceStatus ⟨w.kind, stored.withStatus (some status)⟩ =
      (.ok (Cluster.stamp (stored.withStatus (some status)) (c.version + 1)),
        (c.write w.slot (stored.withStatus (some status))).2) := by
  have there : Resource.slot ⟨w.kind, stored.withStatus (some status)⟩ = w.slot := by
    show (⟨w.kind, (stored.withStatus (some status)).metadata.key⟩ : Slot) = ⟨w.kind, w.key⟩
    rw [Object.metadata_withStatus, key]
  have current : c.current w.slot (stored.withStatus (some status)) = .ok stored :=
    Cluster.current_of_find? found (by rw [Object.metadata_withStatus])
  unfold Cluster.replaceStatus
  dsimp only
  rw [there, current]
  dsimp only
  rw [Object.status?_withStatus]
  rfl

theorem attempt_effect
    (key : ∀ stored, c.find? w.slot = some stored → stored.metadata.key = w.key)
    (run : (w.attempt passError).Runs events result) (obeys : c.Obeys events c') :
    w.Settles passError c c' events result := by
  rcases attempt_cases run with ⟨error, rfl, ended⟩ | ⟨read, rfl, deleting, rfl⟩ |
    ⟨read, workload, moment, rfl, live, same, rfl⟩ |
    ⟨read, workload, moment, answer, rfl, live, changed, rfl⟩
  · -- a read fails only where nothing is stored, and then the attempt is given up
    obtain ⟨answered, b, alike, later⟩ := obeys.of_read
    obtain rfl := later.eq_of_nil
    cases found : c.find? w.slot with
    | some stored =>
      rw [Cluster.get_of_found found] at answered
      cases answered
    | none =>
      rw [Cluster.get_of_absent found] at answered
      obtain rfl := Except.error.inj answered
      rcases ended with ⟨_, rfl⟩ | ⟨other, _⟩
      · refine .skipped ?_ alike
        intro stored there
        rw [found] at there
        cases there
      · exact absurd rfl (other _)
  · obtain ⟨answered, b, alike, later⟩ := obeys.of_read
    obtain rfl := later.eq_of_nil
    refine .skipped ?_ alike
    intro stored found
    rw [Cluster.get_of_found found] at answered
    obtain rfl := Except.ok.inj answered
    exact deleting
  · rw [← List.append_nil (w.readings read workload moment)] at obeys
    obtain ⟨found, rfl, b, alike, later⟩ := readings_effect obeys
    obtain rfl := later.eq_of_nil
    refine .unchanged found live same alike ?_
    intro e member
    simp only [readings, List.mem_cons, List.not_mem_nil, or_false] at member
    rcases member with rfl | rfl | rfl <;> simp [Event.verb?, Call.verb]
  · obtain ⟨found, rfl, b, alike, later⟩ := readings_effect obeys
    obtain ⟨d, obeys', alike'⟩ := later.restart alike
    obtain ⟨now, b', alike'', answered, last⟩ := obeys'.carries
    obtain rfl := last.eq_of_nil
    have replaced := replaceStatus_of_found found (key read found)
      (Instance.encodeStatus
        (w.derived passError read (c.get ⟨.daemonSet, w.workload⟩) moment).1)
    have fine := (answered (by simp [Call.verb])).trans (congrArg Prod.fst replaced)
    have left := alike''.trans ⟨congrArg (·.2.inventory) replaced,
      congrArg (·.2.version) replaced, congrArg (·.2.revives) replaced⟩
    rw [fine]
    exact .written found live changed (alike'.trans left)

theorem run_effect
    (key : ∀ stored, c.find? w.slot = some stored → stored.metadata.key = w.key)
    (run : (w.run passError).Runs events result) (obeys : c.Obeys events c') :
    w.Settles passError c c' events result := by
  obtain ⟨body, measured, rfl, quiet, attempts⟩ := attempted_then_measured run
  obtain ⟨d, first, last⟩ := obeys.split
  have kept := last.of_measured quiet
  obtain ⟨own, ended, rest, rfl, attempt, final⟩ := RetryPolicy.exists_first attempts
  obtain ⟨d', first', last'⟩ := first.split
  have settles := attempt_effect key attempt first'
  obtain ⟨ending, rfl⟩ := settles.exists_ok
  obtain ⟨rfl, rfl⟩ := final ending rfl
  obtain rfl := last'.eq_of_nil
  cases settles with
  | skipped gone effect => exact .skipped gone (kept.trans effect)
  | unchanged found live same effect reads =>
    refine .unchanged found live same (kept.trans effect) ?_
    intro e member
    rcases List.mem_append.mp member with inBody | inMeasured
    · exact reads e (by simpa using inBody)
    · obtain ⟨m, rfl⟩ := quiet e inMeasured
      exact Or.inl rfl
  | written found live changed effect => exact .written found live changed (kept.trans effect)

end StatusWriter
end AgentOperator
