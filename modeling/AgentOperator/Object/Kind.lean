import AgentOperator.Conventions

/-! The kinds of object that the operator handles, and where the API serves each. -/
namespace AgentOperator

inductive Kind where
  | nodeAgent
  | nodeScanner
  | serviceAccount
  | clusterRole
  | clusterRoleBinding
  | configMap
  | service
  | daemonSet
  | secret
  | namespace
  deriving DecidableEq, Repr

namespace Kind

def all : List Kind :=
  [.nodeAgent, .nodeScanner, .serviceAccount, .clusterRole, .clusterRoleBinding, .configMap,
    .service, .daemonSet, .secret, .namespace]

def name : Kind → String
  | .nodeAgent => "NodeAgent"
  | .nodeScanner => "NodeScanner"
  | .serviceAccount => "ServiceAccount"
  | .clusterRole => "ClusterRole"
  | .clusterRoleBinding => "ClusterRoleBinding"
  | .configMap => "ConfigMap"
  | .service => "Service"
  | .daemonSet => "DaemonSet"
  | .secret => "Secret"
  | .namespace => "Namespace"

def ofName? (name : String) : Option Kind := all.find? (·.name = name)

def group : Kind → String
  | .nodeAgent | .nodeScanner => Conventions.apiGroup
  | .clusterRole | .clusterRoleBinding => "rbac.authorization.k8s.io"
  | .daemonSet => "apps"
  | .serviceAccount | .configMap | .service | .secret | .namespace => ""

def version : Kind → String
  | .nodeAgent | .nodeScanner => Conventions.apiVersion
  | _ => "v1"

/-- Group and version as an object carries them; the core group is not named. -/
def apiVersion (kind : Kind) : String :=
  if kind.group = "" then kind.version else kind.group ++ "/" ++ kind.version

def plural : Kind → String
  | .nodeAgent => "nodeagents"
  | .nodeScanner => "nodescanners"
  | .serviceAccount => "serviceaccounts"
  | .clusterRole => "clusterroles"
  | .clusterRoleBinding => "clusterrolebindings"
  | .configMap => "configmaps"
  | .service => "services"
  | .daemonSet => "daemonsets"
  | .secret => "secrets"
  | .namespace => "namespaces"

theorem ofName?_name (kind : Kind) : ofName? kind.name = some kind := by
  cases kind <;> rfl

theorem name_injective {a b : Kind} (same : a.name = b.name) : a = b := by
  have := congrArg ofName? same
  simpa [ofName?_name] using this

end Kind
end AgentOperator
