import AgentOperator.Blueprint

/-!
Identity and permissions of the pods: service account, cluster role and the binding of the two.
-/
namespace AgentOperator.Manifest

structure ServiceAccount where
  metadata : Metadata
  deriving DecidableEq

structure ClusterRole where
  metadata : Metadata
  rules : Option (List PolicyRule) := none
  deriving DecidableEq

structure RoleRef where
  apiGroup : String := ""
  kind : String := ""
  name : String := ""
  deriving DecidableEq, Repr

structure Subject where
  kind : String
  name : String
  ns : String
  deriving DecidableEq, Repr

structure ClusterRoleBinding where
  metadata : Metadata
  roleRef : RoleRef := {}
  subjects : Option (List Subject) := none
  deriving DecidableEq

def serviceAccount (b : Blueprint) : ServiceAccount :=
  ⟨b.namespacedMeta b.name⟩

def clusterRole (b : Blueprint) (detail : Detail) : ClusterRole :=
  { metadata := b.clusterMeta b.clusterName
    rules := match detail with
      | .full => some b.rules
      | .identity => none }

def clusterRoleBinding (b : Blueprint) (detail : Detail) : ClusterRoleBinding :=
  match detail with
  | .identity => { metadata := b.clusterMeta b.clusterName }
  | .full =>
    { metadata := b.clusterMeta b.clusterName
      roleRef := ⟨Kind.clusterRole.group, Kind.clusterRole.name, b.clusterName⟩
      subjects := some [⟨Kind.serviceAccount.name, b.name, b.ns⟩] }

def ServiceAccount.resource (account : ServiceAccount) : Resource :=
  ⟨.serviceAccount, .ofKind .serviceAccount account.metadata []⟩

def ClusterRole.resource (role : ClusterRole) : Resource :=
  ⟨.clusterRole, .ofKind .clusterRole role.metadata <|
    match role.rules with
    | some rules => [("rules", .arr (rules.map PolicyRule.encode))]
    | none => []⟩

def Subject.encode (subject : Subject) : Json :=
  .object [("kind", .str subject.kind), ("name", .str subject.name), ("namespace", .str subject.ns)]

def ClusterRoleBinding.resource (binding : ClusterRoleBinding) : Resource :=
  let roleRef := Json.object [
    ("apiGroup", .str binding.roleRef.apiGroup),
    ("kind", .str binding.roleRef.kind),
    ("name", .str binding.roleRef.name)]
  ⟨.clusterRoleBinding, .ofKind .clusterRoleBinding binding.metadata <|
    match binding.subjects with
    | some subjects => [("roleRef", roleRef), ("subjects", .arr (subjects.map Subject.encode))]
    | none => [("roleRef", roleRef)]⟩

end AgentOperator.Manifest
