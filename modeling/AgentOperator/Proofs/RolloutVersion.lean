import Mathlib.Data.List.Forall2
import AgentOperator.Pass.Status
import AgentOperator.Proofs.ReconciledCondition

/-!
A workload is read the same under every version. Every write of an object gives it another version,
so that conditions derived from a workload settle only if its version has no part in them: two
objects that differ in nothing else are the same rollout, or fail to be one with the same words.
-/
namespace AgentOperator

def Metadata.unversioned (m : Metadata) : Metadata :=
  { m with resourceVersion := m.resourceVersion.map fun _ => "" }

def Object.unversioned (o : Object) : Object := o.withMetadata Metadata.unversioned

namespace Fields
variable {α : Type} {R : String → α → α → Prop} {f g : Fields α} {key : String} {v w : α}

/-- The same keys in the same order, with values that are related. -/
def Matches (R : String → α → α → Prop) (f g : Fields α) : Prop :=
  List.Forall₂ (fun a b => a.1 = b.1 ∧ R a.1 a.2 b.2) f g

theorem Matches.refl (same : ∀ key v, R key v v) (f : Fields α) : Matches R f f :=
  List.forall₂_same.mpr fun entry _ => ⟨rfl, same entry.1 entry.2⟩

theorem Matches.insert (matched : Matches R f g) (related : R key v w) :
    Matches R (f.insert key v) (g.insert key w) := by
  induction matched with
  | nil => exact .cons ⟨rfl, related⟩ .nil
  | @cons a b f g head tail ih =>
    obtain ⟨k, x⟩ := a
    obtain ⟨l, y⟩ := b
    obtain ⟨rfl, values⟩ : k = l ∧ R k x y := head
    simp only [Fields.insert]
    split
    · exact .cons ⟨rfl, related⟩ (.cons ⟨rfl, values⟩ tail)
    · split
      · exact .cons ⟨rfl, related⟩ tail
      · exact .cons ⟨rfl, values⟩ ih

theorem Matches.ofList (matched : Matches R f g) : Matches R (ofList f) (ofList g) := by
  suffices step : ∀ {start others : Fields α}, Matches R start others →
      Matches R (f.foldl (fun fields entry => Fields.insert fields entry.1 entry.2) start)
        (g.foldl (fun fields entry => Fields.insert fields entry.1 entry.2) others) from
    step .nil
  induction matched with
  | nil => exact fun start => start
  | @cons a b f g head tail ih =>
    intro start others begun
    obtain ⟨keys, values⟩ := head
    rw [List.foldl_cons, List.foldl_cons, ← keys]
    exact ih (begun.insert values)

theorem Matches.keys_eq (matched : Matches R f g) : f.map (·.1) = g.map (·.1) := by
  induction matched with
  | nil => rfl
  | cons head tail ih => rw [List.map_cons, List.map_cons, head.1, ih]

theorem Matches.get? (matched : Matches R f g) (key : String) :
    Option.Rel (R key) (f.get? key) (g.get? key) := by
  induction matched with
  | nil => exact .none
  | @cons a b f g head tail ih =>
    obtain ⟨k, x⟩ := a
    obtain ⟨l, y⟩ := b
    obtain ⟨rfl, values⟩ : k = l ∧ R k x y := head
    rw [get?_cons, get?_cons]
    split
    · next same =>
      subst same
      exact .some values
    · exact ih

theorem Matches.get?_eq (matched : Matches R f g) (only : ∀ v w, R key v w → v = w) :
    f.get? key = g.get? key := by
  have related := matched.get? key
  generalize f.get? key = v at related ⊢
  generalize g.get? key = w at related ⊢
  cases related with
  | none => rfl
  | some related => rw [only _ _ related]

end Fields

namespace Shape
variable {R : String → Json → Json → Prop} {f g : Fields Json}
  {members : List (String × Occurrence × Shape)}

theorem check_record_congr {title : String} (matched : Fields.Matches R f g)
    (alike : ∀ name v w occurrence shape, R name v w →
      List.lookup name members = some (occurrence, shape) →
      (v = .null ↔ w = .null) ∧ check shape v = check shape w) :
    check (.record title .plain members) (.obj f) =
      check (.record title .plain members) (.obj g) := by
  have each : checkMembers members f = checkMembers members g := by
    induction matched with
    | nil => rfl
    | @cons a b f g head tail ih =>
      obtain ⟨k, x⟩ := a
      obtain ⟨l, y⟩ := b
      obtain ⟨rfl, values⟩ : k = l ∧ R k x y := head
      rw [checkMembers, checkMembers, ih]
      split
      · next occurrence shape known =>
        obtain ⟨nulls, checks⟩ := alike k x y occurrence shape values known
        simp only [nulls, checks]
      · rfl
  rw [check, check, each, matched.keys_eq]

end Shape

theorem Json.exists_matches {R : String → Json → Json → Prop}
    {entries others : List (String × Option Json)}
    (each : List.Forall₂ (fun a b => a.1 = b.1 ∧ Option.Rel (R a.1) a.2 b.2) entries others) :
    ∃ f g, objectSome entries = .obj f ∧ objectSome others = .obj g ∧ Fields.Matches R f g := by
  refine ⟨_, _, rfl, rfl, Fields.Matches.ofList ?_⟩
  induction each with
  | nil => exact .nil
  | @cons a b entries others head tail ih =>
    obtain ⟨k, x⟩ := a
    obtain ⟨l, y⟩ := b
    obtain ⟨rfl, values⟩ : k = l ∧ Option.Rel (R k) x y := head
    cases values with
    | some related => exact .cons ⟨rfl, related⟩ ih
    | none => exact ih

namespace Metadata

def Revised (name : String) (v w : Json) : Prop :=
  v = w ∨ name = "resourceVersion" ∧ ∃ s t, v = .str s ∧ w = .str t

theorem exists_revised (m : Metadata) :
    ∃ f g, m.encode = .obj f ∧ m.unversioned.encode = .obj g ∧ Fields.Matches Revised f g := by
  have same (name : String) (v : Option Json) : Option.Rel (Revised name) v v := by
    cases v with
    | none => exact .none
    | some v => exact .some (Or.inl rfl)
  have version : Option.Rel (Revised "resourceVersion") (m.resourceVersion.map .str)
      (m.unversioned.resourceVersion.map .str) := by
    unfold unversioned
    cases m.resourceVersion with
    | none => exact .none
    | some s => exact .some (Or.inr ⟨rfl, s, "", rfl, rfl⟩)
  refine Json.exists_matches ?_
  iterate 12 refine .cons ⟨rfl, same _ _⟩ ?_
  refine .cons ⟨rfl, version⟩ ?_
  iterate 2 refine .cons ⟨rfl, same _ _⟩ ?_
  exact .nil

theorem check_encode_unversioned (m : Metadata) :
    shape.check m.unversioned.encode = shape.check m.encode := by
  obtain ⟨f, g, first, second, matched⟩ := exists_revised m
  rw [first, second]
  refine (Shape.check_record_congr matched ?_).symm
  intro name v w occurrence shape revised known
  rcases revised with rfl | ⟨rfl, s, t, rfl, rfl⟩
  · exact ⟨Iff.rfl, rfl⟩
  · have text : (Occurrence.free, Shape.text) = (occurrence, shape) := Option.some.inj known
    cases text
    simp [Shape.check]

theorem generation_ofJson_unversioned (m : Metadata) :
    (ofJson m.unversioned.encode).generation = (ofJson m.encode).generation := by
  obtain ⟨f, g, first, second, matched⟩ := exists_revised m
  have member : Fields.get? f "generation" = Fields.get? g "generation" := by
    refine matched.get?_eq ?_
    intro v w revised
    rcases revised with same | ⟨other, _⟩
    · exact same
    · exact absurd other (by decide)
  rw [first, second]
  show (Fields.get? g "generation").bind Json.int? = (Fields.get? f "generation").bind Json.int?
  rw [member]

end Metadata

namespace Object

def Revised (name : String) (v w : Json) : Prop :=
  v = w ∨ name = "metadata" ∧ ∃ m : Metadata, v = m.encode ∧ w = m.unversioned.encode

theorem exists_revised (o : Object) :
    ∃ f g, o.encode = .obj f ∧ o.unversioned.encode = .obj g ∧ Fields.Matches Revised f g := by
  have same (name : String) (v : Json) : Revised name v v := Or.inl rfl
  have inner : Fields.Matches Revised (Fields.insert o.data "metadata" o.metadata.encode)
      (Fields.insert o.data "metadata" o.metadata.unversioned.encode) :=
    (Fields.Matches.refl same o.data).insert (Or.inr ⟨rfl, o.metadata, rfl, rfl⟩)
  unfold encode
  cases types : o.types with
  | none =>
    have others : o.unversioned.types = none := types
    rw [others]
    exact ⟨_, _, rfl, rfl, inner⟩
  | some types' =>
    have others : o.unversioned.types = some types' := types
    rw [others]
    exact ⟨_, _, rfl, rfl, (inner.insert (same _ _)).insert (same _ _)⟩

end Object

namespace DaemonSet

theorem check_encode_unversioned (o : Object) :
    shape.check o.unversioned.encode = shape.check o.encode := by
  obtain ⟨f, g, first, second, matched⟩ := o.exists_revised
  rw [first, second]
  refine (Shape.check_record_congr matched ?_).symm
  intro name v w occurrence shape revised known
  rcases revised with rfl | ⟨rfl, m, rfl, rfl⟩
  · exact ⟨Iff.rfl, rfl⟩
  · have isMetadata : (Occurrence.free, Metadata.shape) = (occurrence, shape) :=
      Option.some.inj known
    cases isMetadata
    refine ⟨?_, (Metadata.check_encode_unversioned m).symm⟩
    constructor <;> nofun

theorem rollout_unversioned (o : Object) :
    Rollout.ofDaemonSet (ofJson o.unversioned.encode) = Rollout.ofDaemonSet (ofJson o.encode) := by
  obtain ⟨f, g, first, second, matched⟩ := o.exists_revised
  have status : Fields.get? f "status" = Fields.get? g "status" := by
    refine matched.get?_eq ?_
    intro v w revised
    rcases revised with same | ⟨other, _⟩
    · exact same
    · exact absurd other (by decide)
  have generation : (ofJson (.obj g)).metadata.generation =
      (ofJson (.obj f)).metadata.generation := by
    show (((Fields.get? g "metadata").map Metadata.ofJson).getD {}).generation =
      (((Fields.get? f "metadata").map Metadata.ofJson).getD {}).generation
    have related := matched.get? "metadata"
    generalize Fields.get? f "metadata" = v at related ⊢
    generalize Fields.get? g "metadata" = w at related ⊢
    cases related with
    | none => rfl
    | some revised =>
      rcases revised with rfl | ⟨_, m, rfl, rfl⟩
      · rfl
      · exact m.generation_ofJson_unversioned
  have read : (ofJson (.obj g)).status = (ofJson (.obj f)).status := by
    show ((Fields.get? g "status").filter (· ≠ .null)).map DaemonSetStatus.ofJson =
      ((Fields.get? f "status").filter (· ≠ .null)).map DaemonSetStatus.ofJson
    rw [status]
  rw [first, second]
  unfold Rollout.ofDaemonSet
  rw [generation, read]

end DaemonSet

theorem StatusWriter.observe_unversioned (w : StatusWriter) (o : Object) :
    w.observe (.ok o.unversioned) = w.observe (.ok o) := by
  unfold observe DaemonSet.decode
  dsimp only
  rw [DaemonSet.check_encode_unversioned]
  cases checked : DaemonSet.shape.check o.encode with
  | error error => rfl
  | ok _ =>
    show Except.ok (Rollout.ofDaemonSet _) = Except.ok (Rollout.ofDaemonSet _)
    rw [DaemonSet.rollout_unversioned]

end AgentOperator
