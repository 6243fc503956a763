import AgentOperator.Blueprint

/-!
The workload and what it runs with: configuration, service and the pods themselves, one on every
node, tainted or not.
-/
namespace AgentOperator.Manifest

structure ConfigMap where
  metadata : Metadata
  data : Option (Fields String) := none
  deriving DecidableEq

structure ServicePort where
  name : String
  port : Int
  /-- Name of the container port behind it. -/
  targetPort : String
  deriving DecidableEq, Repr

structure ServiceSpec where
  clusterIP : String
  selector : Fields String
  ports : Option (List ServicePort)
  deriving DecidableEq, Repr

structure Service where
  metadata : Metadata
  spec : Option ServiceSpec := none
  deriving DecidableEq

inductive VolumeSource where
  | secret (name : String) (isOptional : Bool)
  | hostPath (path : String)
  deriving DecidableEq, Repr

structure Volume where
  name : String
  source : VolumeSource
  deriving DecidableEq, Repr

structure VolumeMount where
  name : String
  mountPath : String
  readOnly : Bool
  deriving DecidableEq, Repr

structure FieldVariable where
  name : String
  fieldPath : String
  deriving DecidableEq, Repr

structure ContainerPort where
  name : String
  containerPort : Int
  deriving DecidableEq, Repr

structure Container where
  name : String
  image : String
  env : List FieldVariable
  /-- Configuration maps that fill the environment. -/
  envFrom : List String
  ports : Option (List ContainerPort)
  volumeMounts : List VolumeMount
  deriving DecidableEq, Repr

structure PodSpec where
  serviceAccountName : String
  nodeSelector : Option (Fields String)
  containers : List Container
  volumes : List Volume
  /-- Operators of the tolerations. -/
  tolerations : List String
  deriving DecidableEq, Repr

structure WorkloadSpec where
  matchLabels : Fields String
  podLabels : Fields String
  pod : PodSpec
  deriving DecidableEq, Repr

structure Workload where
  metadata : Metadata
  spec : Option WorkloadSpec := none
  deriving DecidableEq

def configMap (b : Blueprint) (detail : Detail) : ConfigMap :=
  { metadata := b.namespacedMeta b.name
    data := match detail with
      | .full => some b.config
      | .identity => none }

def portName : String := "http"

/-- A service without address of its own, by which the nodes' ports are found. -/
def service (b : Blueprint) (detail : Detail) : Service :=
  { metadata := b.namespacedMeta b.name
    spec := match detail with
      | .identity => none
      | .full => some {
          clusterIP := "None"
          selector := b.selectorLabels
          ports := b.port.map fun port => [⟨portName, port, portName⟩] } }

def credentialVolume : String := "credentials"

def hostVolume : String := "host-root"

/-- The secret may not have been written when the pod starts. -/
def volumes (b : Blueprint) : List Volume :=
  (b.credentialSecret.toList.map fun secret => ⟨credentialVolume, .secret secret true⟩) ++
    if b.hostFilesystem then [⟨hostVolume, .hostPath "/"⟩] else []

def volumeMounts (b : Blueprint) : List VolumeMount :=
  (b.credentialSecret.toList.map fun _ =>
    ⟨credentialVolume, "/var/run/secrets/nodeagent", true⟩) ++
    if b.hostFilesystem then [⟨hostVolume, "/host", true⟩] else []

def container (b : Blueprint) : Container :=
  { name := b.app.name
    image := b.image
    env := [⟨"NODE_NAME", "spec.nodeName"⟩]
    envFrom := [b.name]
    ports := b.port.map fun port => [⟨portName, port⟩]
    volumeMounts := volumeMounts b }

def workload (b : Blueprint) (detail : Detail) : Workload :=
  { metadata := b.namespacedMeta b.name
    spec := match detail with
      | .identity => none
      | .full => some {
          matchLabels := b.selectorLabels
          podLabels := b.labels
          pod := {
            serviceAccountName := b.name
            nodeSelector := b.nodeSelector
            containers := [container b]
            volumes := volumes b
            tolerations := ["Exists"] } } }

def ConfigMap.resource (map : ConfigMap) : Resource :=
  ⟨.configMap, .ofKind .configMap map.metadata <|
    match map.data with
    | some data => [("data", .strMap data)]
    | none => []⟩

def ServicePort.encode (port : ServicePort) : Json :=
  .object [
    ("name", .str port.name), ("port", .int port.port), ("targetPort", .str port.targetPort)]

def ServiceSpec.encode (spec : ServiceSpec) : Json :=
  .objectSome [
    ("clusterIP", some (.str spec.clusterIP)),
    ("ports", spec.ports.map fun ports => .arr (ports.map ServicePort.encode)),
    ("selector", some (.strMap spec.selector))]

def Service.resource (service : Service) : Resource :=
  ⟨.service, .ofKind .service service.metadata <|
    match service.spec with
    | some spec => [("spec", spec.encode)]
    | none => []⟩

def Volume.encode (volume : Volume) : Json :=
  match volume.source with
  | .secret name isOptional =>
    .object [
      ("name", .str volume.name),
      ("secret", .object [("optional", .bool isOptional), ("secretName", .str name)])]
  | .hostPath path =>
    .object [("name", .str volume.name), ("hostPath", .object [("path", .str path)])]

def VolumeMount.encode (mount : VolumeMount) : Json :=
  .object [
    ("mountPath", .str mount.mountPath), ("name", .str mount.name),
    ("readOnly", .bool mount.readOnly)]

def FieldVariable.encode (field : FieldVariable) : Json :=
  .object [
    ("name", .str field.name),
    ("valueFrom", .object [("fieldRef", .object [("fieldPath", .str field.fieldPath)])])]

def ContainerPort.encode (port : ContainerPort) : Json :=
  .object [("containerPort", .int port.containerPort), ("name", .str port.name)]

/-- A list in an object, left out when it is empty. -/
def nonEmpty (encode : α → Json) (items : List α) : Option Json :=
  if items.isEmpty then none else some (.arr (items.map encode))

def Container.encode (container : Container) : Json :=
  .objectSome [
    ("env", some (.arr (container.env.map FieldVariable.encode))),
    ("envFrom", some (.arr (container.envFrom.map fun name =>
      .object [("configMapRef", .object [("name", .str name)])]))),
    ("image", some (.str container.image)),
    ("name", some (.str container.name)),
    ("ports", container.ports.map fun ports => .arr (ports.map ContainerPort.encode)),
    ("volumeMounts", nonEmpty VolumeMount.encode container.volumeMounts)]

def PodSpec.encode (pod : PodSpec) : Json :=
  .objectSome [
    ("containers", some (.arr (pod.containers.map Container.encode))),
    ("nodeSelector", pod.nodeSelector.map .strMap),
    ("serviceAccountName", some (.str pod.serviceAccountName)),
    ("tolerations", some (.arr (pod.tolerations.map fun op => .object [("operator", .str op)]))),
    ("volumes", nonEmpty Volume.encode pod.volumes)]

def WorkloadSpec.encode (spec : WorkloadSpec) : Json :=
  .object [
    ("selector", .object [("matchLabels", .strMap spec.matchLabels)]),
    ("template", .object [
      ("metadata", .object [("labels", .strMap spec.podLabels)]),
      ("spec", spec.pod.encode)])]

def Workload.resource (workload : Workload) : Resource :=
  ⟨.daemonSet, .ofKind .daemonSet workload.metadata <|
    match workload.spec with
    | some spec => [("spec", spec.encode)]
    | none => []⟩

end AgentOperator.Manifest
