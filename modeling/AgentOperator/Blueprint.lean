import AgentOperator.Instance
import AgentOperator.Settings

/-!
Everything that the objects of one instance are built from: their names, labels and contents,
resolved once from the instance and the settings.
-/
namespace AgentOperator

inductive App where
  | agent
  | scanner
  deriving DecidableEq, Repr

def App.name : App → String
  | .agent => Conventions.agentApp
  | .scanner => Conventions.scannerApp

/-- Whether an object is built whole, or only as far as it is needed to address it. -/
inductive Detail where
  | full
  | identity
  deriving DecidableEq, Repr

structure PolicyRule where
  apiGroups : Option (List String) := none
  nonResourceUrls : Option (List String) := none
  resourceNames : Option (List String) := none
  resources : Option (List String) := none
  verbs : List String := []
  deriving DecidableEq, Repr

namespace PolicyRule

def decode (json : Json) : Decoded PolicyRule := do
  let fields ← Decode.members "PolicyRule" json
  let apiGroups ← Decode.member fields "apiGroups" (Decode.sequence Decode.text)
  let nonResourceUrls ← Decode.member fields "nonResourceURLs" (Decode.sequence Decode.text)
  let resourceNames ← Decode.member fields "resourceNames" (Decode.sequence Decode.text)
  let resources ← Decode.member fields "resources" (Decode.sequence Decode.text)
  let verbs ← Decode.member fields "verbs" (Decode.sequence Decode.text)
  return { apiGroups, nonResourceUrls, resourceNames, resources, verbs := verbs.getD [] }

def encode (rule : PolicyRule) : Json :=
  .objectSome [
    ("apiGroups", rule.apiGroups.map .strs),
    ("nonResourceURLs", rule.nonResourceUrls.map .strs),
    ("resourceNames", rule.resourceNames.map .strs),
    ("resources", rule.resources.map .strs),
    ("verbs", some (.strs rule.verbs))]

def core (resources verbs : List String) : PolicyRule :=
  { apiGroups := some [""], resources := some resources, verbs }

end PolicyRule

structure Blueprint where
  /-- Application, also the container's name. -/
  app : App
  instanceName : String
  /-- Where every namespaced object lives. -/
  ns : String
  /-- Name of the namespaced objects but the credential. -/
  name : String
  /-- Name of the role and its binding. -/
  clusterName : String
  image : String
  port : Option Int := none
  config : Fields String := []
  nodeSelector : Option (Fields String) := none
  rules : List PolicyRule := []
  /-- Secret that is mounted into the pods. -/
  credentialSecret : Option String := none
  /-- Whether the root of the node's filesystem is mounted, read only. -/
  hostFilesystem : Bool := false
  deriving DecidableEq, Repr

namespace Blueprint

def credentialName (instanceName : String) : String := instanceName ++ "-token"

def ofAgent (metadata : Metadata) (spec : AgentSpec) (settings : Settings) : Blueprint :=
  let instanceName := metadata.name.getD ""
  let ns := metadata.ns.getD ""
  { app := .agent
    instanceName, ns
    name := instanceName ++ "-agent"
    clusterName := "node-agent-" ++ ns ++ "-" ++ instanceName
    image := spec.image.getD settings.defaultImage
    port := some (spec.port.getD Conventions.agentPort)
    config := spec.config
    nodeSelector := spec.nodeSelector
    rules := [
      .core ["nodes", "nodes/metrics", "nodes/stats"] ["get", "list", "watch"],
      .core ["pods"] ["get", "list", "watch"]]
    credentialSecret := if spec.credentials then some (credentialName instanceName) else none }

def ofScanner (metadata : Metadata) (spec : ScannerSpec) (settings : Settings) : Blueprint :=
  let instanceName := metadata.name.getD ""
  { app := .scanner
    instanceName
    ns := spec.ns
    name := instanceName ++ "-scanner"
    clusterName := "node-scanner-" ++ instanceName
    image := spec.image.getD settings.defaultImage
    config := spec.config
    nodeSelector := spec.nodeSelector
    rules := [
      .core ["nodes"] ["get", "list"],
      .core ["pods", "namespaces"] ["get", "list"]]
    hostFilesystem := true }

def ofInstance (i : Instance) (settings : Settings) : Blueprint :=
  match i.spec with
  | .agent spec => ofAgent i.metadata spec settings
  | .scanner spec => ofScanner i.metadata spec settings

def selectorLabels (b : Blueprint) : Fields String :=
  Fields.ofList [(Conventions.appLabel, b.app.name), (Conventions.instanceLabel, b.instanceName)]

def labels (b : Blueprint) : Fields String :=
  b.selectorLabels.insert Conventions.managedByLabel Conventions.fieldManager

def namespacedMeta (b : Blueprint) (name : String) : Metadata :=
  { name := some name, ns := some b.ns, labels := some b.labels }

def clusterMeta (b : Blueprint) (name : String) : Metadata :=
  { name := some name, labels := some b.labels }

/-- The service account, and by the same name the configuration, service and workload. -/
def workloadKey (b : Blueprint) : Key := .namespaced b.ns b.name

def secretKey (b : Blueprint) : Key := .namespaced b.ns (credentialName b.instanceName)

end Blueprint
end AgentOperator
