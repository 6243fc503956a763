import AgentOperator.Condition
import AgentOperator.Definition.Schema
import AgentOperator.Object.Kind

/-!
Definitions of the instance kinds, as an API server takes them to serve the kind: its names, its
scope, its printed columns and the schema of its objects.
-/
namespace AgentOperator

structure PrintedColumn where
  name : String
  path : String

namespace PrintedColumn

def condition (type : String) : PrintedColumn :=
  ⟨type, ".status.conditions[?(@.type==\"" ++ type ++ "\")].status"⟩

def encode (column : PrintedColumn) : Json :=
  .object [("name", .str column.name), ("type", .str "string"), ("jsonPath", .str column.path)]

end PrintedColumn

inductive Scope where
  | namespaced
  | cluster
  deriving DecidableEq, Repr

def Scope.name : Scope → String
  | .namespaced => "Namespaced"
  | .cluster => "Cluster"

structure Definition where
  kind : Kind
  singular : String
  shortNames : List String
  scope : Scope
  columns : List PrintedColumn
  spec : Schema

namespace Definition

def lines (texts : List String) : String := "\n".intercalate texts

def conditionSchema : Schema :=
  .described "Condition represents a condition of a resource" (.record [
    ("type", .required, .described "Type of condition" .text),
    ("status", .required,
      .described "Status of the condition" (.oneOf (ConditionStatus.all.map (·.name)))),
    ("observedGeneration", .nullable,
      .described "Generation of the specification this condition was computed for" (.integer 64)),
    ("lastTransitionTime", .nullable,
      .described "Last time the status changed (RFC3339)" .text),
    ("reason", .nullable, .described "Machine-readable reason for the condition" .text),
    ("message", .nullable, .described "Message describing the condition" .text)])

def statusSchema : Schema :=
  .described (lines [
    "Status of a NodeAgent or NodeScanner resource",
    "",
    "Only conditions are persisted. The set of condition types is always exactly",
    "`Reconciled` and `Available` once the operator has written it."]) (.record [
    ("conditions", .fallback (.arr []),
      .described "Conditions represent the latest available observations"
        (.list conditionSchema))])

def credentialsSchema : Schema :=
  .record [
    ("enabled", .fallback (.bool false), .described (lines [
      "Issue and rotate a bearer token secret for the agent",
      "Default: false. Disabling deletes any previously issued secret."]) .flag)]

def imageSchema (workload : String) : Schema :=
  .described (workload ++ " container image. Defaults to the operator's configured image.") .text

def configSchema (workload : String) : Schema :=
  .described ("Key/value configuration rendered into the " ++ workload ++ " ConfigMap") .textMap

def nodeSelectorSchema (workload : String) : Schema :=
  .described ("Restricts the nodes the " ++ workload ++ " runs on") .textMap

def agentSchema : Schema :=
  .described (lines [
    "NodeAgent Custom Resource Definition",
    "",
    "# Example",
    "",
    "```yaml",
    "apiVersion: agents.nodeagent.dev/v1alpha1",
    "kind: NodeAgent",
    "metadata:",
    "  name: telemetry",
    "  namespace: observability",
    "spec:",
    "  image: ghcr.io/nodeagent/agent:1.4.0",
    "  port: 9100",
    "  config:",
    "    LOG_LEVEL: info",
    "  credentials:",
    "    enabled: true",
    "```"]) (.record [
    ("image", .nullable, imageSchema "Agent"),
    ("port", .nullable,
      .described "Port the agent serves on; exposed through a headless Service" (.integer 32)),
    ("config", .fallback (.obj []), configSchema "agent"),
    ("nodeSelector", .nullable, nodeSelectorSchema "agent"),
    ("credentials", .fallback (.object [("enabled", .bool false)]),
      .described "Short-lived credential issued to the agent" credentialsSchema)])

def scannerSchema : Schema :=
  .described (lines [
    "NodeScanner Custom Resource Definition",
    "",
    "# Example",
    "",
    "```yaml",
    "apiVersion: agents.nodeagent.dev/v1alpha1",
    "kind: NodeScanner",
    "metadata:",
    "  name: cis",
    "spec:",
    "  namespace: node-scanner",
    "  image: ghcr.io/nodeagent/scanner:0.9.2",
    "```"]) (.record [
    ("namespace", .required,
      .described "Namespace the scanner is installed into; created and deleted by the operator"
        .text),
    ("image", .nullable, imageSchema "Scanner"),
    ("config", .fallback (.obj []), configSchema "scanner"),
    ("nodeSelector", .nullable, nodeSelectorSchema "scanner")])

def conditionColumns : List PrintedColumn :=
  [.condition Conventions.reconciledType, .condition Conventions.availableType]

def agent : Definition where
  kind := .nodeAgent
  singular := "nodeagent"
  shortNames := ["na"]
  scope := .namespaced
  columns := conditionColumns
  spec := agentSchema

def scanner : Definition where
  kind := .nodeScanner
  singular := "nodescanner"
  shortNames := ["nsc"]
  scope := .cluster
  columns := ⟨"Namespace", ".spec.namespace"⟩ :: conditionColumns
  spec := scannerSchema

def name (d : Definition) : String := d.kind.plural ++ "." ++ d.kind.group

/-- The schema of a whole object; type and metadata are the server's own. -/
def objectSchema (d : Definition) : Schema :=
  .described s!"Auto-generated derived type for {d.kind.name}Spec via `CustomResource`" (.record [
    ("spec", .required, d.spec),
    ("status", .nullable, statusSchema)])

def encodeVersion (d : Definition) : Json :=
  .object [
    ("name", .str d.kind.version), ("served", .bool true), ("storage", .bool true),
    ("additionalPrinterColumns", .arr (d.columns.map PrintedColumn.encode)),
    ("schema", .object [
      ("openAPIV3Schema", .object (("title", .str d.kind.name) :: d.objectSchema.encode))]),
    ("subresources", .object [("status", .obj [])])]

def encode (d : Definition) : Json :=
  .object [
    ("apiVersion", .str "apiextensions.k8s.io/v1"),
    ("kind", .str "CustomResourceDefinition"),
    ("metadata", .object [("name", .str d.name)]),
    ("spec", .object [
      ("group", .str d.kind.group),
      ("names", .object [
        ("categories", .arr []), ("kind", .str d.kind.name), ("plural", .str d.kind.plural),
        ("shortNames", .strs d.shortNames), ("singular", .str d.singular)]),
      ("scope", .str d.scope.name),
      ("versions", .arr [d.encodeVersion])])]

end Definition
end AgentOperator
