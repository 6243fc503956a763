import AgentOperator.Proofs.FieldOrder
import AgentOperator.Startup
import Mathlib.Data.List.Perm.Basic

/-!
The summary of what is there when the operator starts. Its groups hold every listed name as often as
it was listed, and they are the only groups in order that do: so it does not matter in which order
the objects were listed.
-/
namespace AgentOperator

namespace Summary
variable {groups other : Fields (List String)} {listed others : List (String × String)}

def entry (m : Metadata) : String × String := (place m, m.name.getD "")

def pairs (groups : Fields (List String)) : List (String × String) :=
  groups.flatMap fun group => group.2.map (group.1, ·)

/-- Each place has one group, and the groups hold what was listed. -/
structure Filed (listed : List (String × String)) (groups : Fields (List String)) : Prop where
  ordered : groups.Ordered
  lossless : (pairs groups).Perm listed
  nonempty : ∀ group ∈ groups, group.2 ≠ []

theorem Filed.add (filed : Filed listed groups) (m : Metadata) :
    Filed (listed ++ [entry m]) (addName groups m) where
  ordered := filed.ordered.insert _ _
  lossless := by
    obtain ⟨before, after, _, _, parts, puts⟩ := filed.ordered.exists_place (place m)
    have had : pairs groups = pairs before ++
        ((groups.get? (place m)).getD []).map (place m, ·) ++ pairs after :=
      calc pairs groups
          = pairs (before ++ ((groups.get? (place m)).map (place m, ·)).toList ++ after) := by
            rw [← parts]
        _ = _ := by cases groups.get? (place m) <;> simp [pairs]
    have has : pairs (addName groups m) = pairs before ++
        ((groups.get? (place m)).getD []).map (place m, ·) ++ entry m :: pairs after := by
      rw [addName, Fields.update, puts]
      simp [pairs, entry]
    have gained : (pairs (addName groups m)).Perm (entry m :: pairs groups) := by
      rw [has, had]
      exact List.perm_middle
    exact gained.trans ((filed.lossless.cons _).trans (List.perm_append_singleton _ _).symm)
  nonempty := by
    intro group member
    rcases filed.ordered.mem_insert member with rfl | old
    · exact List.append_ne_nil_of_right_ne_nil _ (List.cons_ne_nil _ _)
    · exact filed.nonempty group old

theorem Filed.addAll (filed : Filed listed groups) (objects : List Metadata) :
    Filed (listed ++ objects.map entry) (objects.foldl addName groups) := by
  induction objects generalizing listed groups with
  | nil => simpa using filed
  | cons m rest ih => simpa using ih (filed.add m)

structure Grouped (listed : List (String × String)) (groups : Fields (List String)) : Prop
    extends Filed listed groups where
  sorted : ∀ group ∈ groups, group.2.Pairwise (· ≤ ·)

theorem mergeSort_sorted (names : List String) : (names.mergeSort (· ≤ ·)).Pairwise (· ≤ ·) := by
  have trans (a b c : String) :
      decide (a ≤ b) = true → decide (b ≤ c) = true → decide (a ≤ c) = true := by
    simpa using String.le_trans
  have total (a b : String) : (decide (a ≤ b) || decide (b ≤ a)) = true := by
    simpa using String.le_total a b
  exact (List.pairwise_mergeSort trans total names).imp of_decide_eq_true

theorem pairs_sorted_perm (groups : Fields (List String)) :
    (pairs (groups.mapValues fun names => names.mergeSort (· ≤ ·))).Perm (pairs groups) := by
  unfold pairs Fields.mapValues
  rw [List.flatMap_map]
  exact List.Perm.flatMap_left _ fun group _ => (List.mergeSort_perm _ _).map _

theorem Filed.grouped (filed : Filed listed groups) :
    Grouped listed (groups.mapValues fun names => names.mergeSort (· ≤ ·)) where
  ordered := filed.ordered.mapValues _
  lossless := (pairs_sorted_perm groups).trans filed.lossless
  nonempty := by
    intro group member
    obtain ⟨old, inGroups, rfl⟩ := List.mem_map.mp member
    intro empty
    have perm : List.Perm [] old.2 := empty ▸ List.mergeSort_perm old.2 _
    exact filed.nonempty old inGroups perm.nil_eq.symm
  sorted := by
    intro group member
    obtain ⟨old, _, rfl⟩ := List.mem_map.mp member
    exact mergeSort_sorted old.2

theorem grouped_byNamespace (objects : List Object) :
    Grouped (objects.map fun o => entry o.metadata) (byNamespace objects) := by
  have start : Filed [] [] := ⟨List.Pairwise.nil, List.Perm.refl _, by simp⟩
  have grouped := (start.addAll (objects.map Object.metadata)).grouped
  rw [List.nil_append, List.map_map] at grouped
  exact grouped

/-! ### One listing, one grouping -/

theorem names_at (ordered : groups.Ordered) (place : String) :
    ((pairs groups).filter (·.1 = place)).map (·.2) = (groups.get? place).getD [] := by
  induction groups with
  | nil => rfl
  | cons group rest ih =>
    obtain ⟨first, names⟩ := group
    obtain ⟨lesser, tail⟩ := List.pairwise_cons.mp ordered
    have parts : pairs ((first, names) :: rest) = names.map (first, ·) ++ pairs rest := rfl
    rw [parts, List.filter_append, List.map_append, ih tail, Fields.get?_cons]
    by_cases here : place = first
    · subst here
      simp [Fields.get?_eq_none_of_lt lesser, List.filter_map, Function.comp_def]
    · simp [here, Ne.symm here, List.filter_map, Function.comp_def]

theorem Filed.names_perm (filed : Filed listed groups) (place : String) :
    ((groups.get? place).getD []).Perm ((listed.filter (·.1 = place)).map (·.2)) := by
  rw [← names_at filed.ordered]
  exact (filed.lossless.filter _).map _

theorem Filed.get?_ne_nil (filed : Filed listed groups) (place : String) :
    groups.get? place ≠ some [] :=
  fun found => filed.nonempty (place, []) (filed.ordered.mem_iff.mpr found) rfl

theorem Grouped.sorted_at (grouped : Grouped listed groups) (place : String) :
    ((groups.get? place).getD []).Pairwise (· ≤ ·) := by
  cases found : groups.get? place with
  | none => exact List.Pairwise.nil
  | some names => exact grouped.sorted (place, names) (grouped.ordered.mem_iff.mpr found)

theorem Grouped.unique (first : Grouped listed groups) (second : Grouped others other)
    (perm : listed.Perm others) : groups = other := by
  refine first.ordered.ext second.ordered fun place => ?_
  have names : (groups.get? place).getD [] = (other.get? place).getD [] := by
    refine List.Perm.eq_of_pairwise ?_ (first.sorted_at place) (second.sorted_at place) ?_
    · exact fun a b _ _ => String.le_antisymm
    · exact (first.names_perm place).trans
        (((perm.filter _).map _).trans (second.names_perm place).symm)
  have some₁ := first.get?_ne_nil place
  have some₂ := second.get?_ne_nil place
  cases here : groups.get? place <;> cases there : other.get? place <;> simp_all

/-- What a line shows: the first three names, and how many there are if there are more. -/
def shown (names : List String) : List String :=
  names.take 3 ++ if 3 < names.length then ["... (" ++ toString names.length ++ " total)"] else []

theorem abridge_eq (names : List String) : abridge names = ", ".intercalate (shown names) := by
  unfold abridge shown shownNames
  split
  · next few => rw [if_neg (Nat.not_lt.mpr few), List.append_nil, List.take_of_length_le few]
  · next many =>
    have first : names.take 3 ≠ [] := by
      intro none
      simp_all [List.take_eq_nil_iff]
    -- the first comma of the total is the one that stands between two names
    have comma : s!", ... ({names.length} total)" =
        ", " ++ "... (" ++ toString names.length ++ " total)" := rfl
    rw [comma, if_pos (Nat.lt_of_not_le many),
      String.intercalate_append_of_ne_nil first (List.cons_ne_nil _ _),
      String.intercalate_singleton]
    simp only [String.append_assoc]

theorem text_present (address ns : String) (names : List String) :
    (Notice.present ns names).text address =
      "  " ++ ns ++ ": " ++ ", ".intercalate (shown names) := by
  rw [← abridge_eq]
  rfl

/-- The summary groups the names of a listing by their places without loss: the groups hold the
listed pairs, each place has one group, in order, and each group ascends and is not empty. Another
order of the listing gives the same groups and the same summary. A line for each group shows its
place and its first three names, and how many there are if there are more. -/
theorem groups_without_loss (objects : List Object) :
    ((byNamespace objects).flatMap fun group => group.2.map (group.1, ·)).Perm
        (objects.map fun o => (o.metadata.ns.getD "(cluster)", o.metadata.name.getD "")) ∧
      (byNamespace objects).Pairwise (fun a b => a.1 < b.1) ∧
      (∀ group ∈ byNamespace objects, group.2.Pairwise (· ≤ ·) ∧ group.2 ≠ [] ∧
        group.2.length = objects.countP fun o => o.metadata.ns.getD "(cluster)" = group.1) ∧
      (∀ others, objects.Perm others → byNamespace others = byNamespace objects ∧
        ∀ list other kind, list kind = .ok objects → other kind = .ok others →
          Startup.summary other kind = Startup.summary list kind) ∧
      ∀ list kind address, list kind = .ok objects →
        (Startup.summary list kind).map (·.text address) =
          ("Found " ++ toString objects.length ++ " existing " ++ kind.name ++ " resources in " ++
            toString (byNamespace objects).length ++ " namespaces") ::
          (byNamespace objects).map fun group =>
            "  " ++ group.1 ++ ": " ++ ", ".intercalate (group.2.take 3 ++
              if 3 < group.2.length then ["... (" ++ toString group.2.length ++ " total)"]
              else []) := by
  have grouped := grouped_byNamespace objects
  have same {others : List Object} (perm : objects.Perm others) :
      byNamespace others = byNamespace objects :=
    (grouped_byNamespace others).unique grouped (perm.symm.map _)
  refine ⟨grouped.lossless, grouped.ordered, fun group member => ⟨grouped.sorted group member,
    grouped.nonempty group member, ?_⟩, fun others perm => ⟨same perm, ?_⟩, ?_⟩
  · have names := (grouped.names_perm group.1).length_eq
    rw [grouped.ordered.mem_iff.mp member, Option.getD_some, List.length_map,
      ← List.countP_eq_length_filter, List.countP_map] at names
    exact names
  · intro list other kind listed listed'
    rw [Startup.summary, Startup.summary, listed, listed']
    simp only [same perm, perm.length_eq]
  · intro list kind address listed
    rw [Startup.summary, listed]
    dsimp only
    rw [List.map_cons, List.map_map]
    refine congrArg₂ List.cons rfl (List.map_congr_left fun group _ => ?_)
    exact text_present address group.1 group.2

def named (ns name : Option String) : Object := { metadata := { ns, name } }

def assorted : List Object :=
  [named (some "observability") (some "telemetry"), named none (some "cis"),
    named (some "observability") (some "audit"), named (some "observability") none,
    named (some "observability") (some "audit")]

theorem assorted_groups_without_loss : assorted.Perm assorted.reverse ∧
    byNamespace assorted.reverse =
      [("(cluster)", ["cis"]), ("observability", ["", "audit", "audit", "telemetry"])] ∧
    (Startup.summary (fun _ => .ok assorted.reverse) .nodeAgent).map (·.text "0.0.0.0:8080") =
      ["Found 5 existing NodeAgent resources in 2 namespaces", "  (cluster): cis",
        "  observability: , audit, audit, ... (4 total)"] := by
  have groups : byNamespace assorted =
      [("(cluster)", ["cis"]), ("observability", ["", "audit", "audit", "telemetry"])] :=
    (grouped_byNamespace assorted).unique
      ⟨⟨by decide, by decide, by decide⟩, by decide⟩ (List.Perm.refl _)
  have perm : assorted.Perm assorted.reverse := (List.reverse_perm assorted).symm
  obtain ⟨_, _, _, permuted, lines⟩ := groups_without_loss assorted
  obtain ⟨same, summaries⟩ := permuted assorted.reverse perm
  refine ⟨perm, same.trans groups, ?_⟩
  rw [summaries (fun _ => .ok assorted) _ .nodeAgent rfl rfl,
    lines (fun _ => .ok assorted) .nodeAgent _ rfl, groups]
  rfl

end Summary
end AgentOperator
