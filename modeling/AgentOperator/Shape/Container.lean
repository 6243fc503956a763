import AgentOperator.Shape.Volume

/-! Containers: what they run, with which environment, resources and rights. -/
namespace AgentOperator.Shape

def keySelector (title : String) : Shape :=
  api title [("key", .text), ("name", .text), ("optional", .flag)]

def environment : List (String × Shape) := [
  ("env", .sequence (api "EnvVar" [
    ("name", .text), ("value", .text), ("valueFrom", api "EnvVarSource" [
      ("configMapKeyRef", keySelector "ConfigMapKeySelector"), ("fieldRef", fieldReference),
      ("resourceFieldRef", resourceReference),
      ("secretKeyRef", keySelector "SecretKeySelector")])])),
  ("envFrom", .sequence (api "EnvFromSource" [
    ("configMapRef", api "ConfigMapEnvSource" [("name", .text), ("optional", .flag)]),
    ("prefix", .text),
    ("secretRef", api "SecretEnvSource" [("name", .text), ("optional", .flag)])]))]

def actions : List (String × Shape) := [
  ("exec", api "ExecAction" [("command", texts)]),
  ("httpGet", api "HTTPGetAction" [
    ("host", .text), ("httpHeaders", .sequence (apiTexts "HTTPHeader" ["name", "value"])),
    ("path", .text), ("port", .intOrText), ("scheme", .text)]),
  ("tcpSocket", api "TCPSocketAction" [("host", .text), ("port", .intOrText)])]

def lifecycle : Shape :=
  let handler := api "LifecycleHandler" (
    ("sleep", api "SleepAction" [("seconds", int64)]) :: actions)
  api "Lifecycle" [("postStart", handler), ("preStop", handler)]

def probe : Shape :=
  api "Probe" (actions ++ [
    ("failureThreshold", int32), ("grpc", api "GRPCAction" [("port", int32), ("service", .text)]),
    ("initialDelaySeconds", int32), ("periodSeconds", int32), ("successThreshold", int32),
    ("terminationGracePeriodSeconds", int64), ("timeoutSeconds", int32)])

def resourceRequirements : Shape :=
  api "ResourceRequirements" [
    ("claims", .sequence (apiTexts "ResourceClaim" ["name"])), ("limits", quantities),
    ("requests", quantities)]

def rights : List (String × Shape) := [
  ("appArmorProfile", apiTexts "AppArmorProfile" ["localhostProfile", "type"]),
  ("runAsGroup", int64), ("runAsNonRoot", .flag), ("runAsUser", int64),
  ("seLinuxOptions", apiTexts "SELinuxOptions" ["level", "role", "type", "user"]),
  ("seccompProfile", apiTexts "SeccompProfile" ["localhostProfile", "type"]),
  ("windowsOptions", api "WindowsSecurityContextOptions" (
    ("hostProcess", .flag) ::
      textMembers ["gmsaCredentialSpec", "gmsaCredentialSpecName", "runAsUserName"]))]

def securityContext : Shape :=
  api "SecurityContext" (rights ++ [
    ("allowPrivilegeEscalation", .flag),
    ("capabilities", api "Capabilities" [("add", texts), ("drop", texts)]),
    ("privileged", .flag), ("procMount", .text), ("readOnlyRootFilesystem", .flag)])

def containerPort : Shape :=
  api "ContainerPort" [
    ("containerPort", int32), ("hostIP", .text), ("hostPort", int32), ("name", .text),
    ("protocol", .text)]

def containerMembers : List (String × Shape) := environment ++ [
  ("args", texts), ("command", texts), ("lifecycle", lifecycle), ("livenessProbe", probe),
  ("ports", .sequence containerPort), ("readinessProbe", probe),
  ("resizePolicy", .sequence (
    apiTexts "ContainerResizePolicy" ["resourceName", "restartPolicy"])),
  ("resources", resourceRequirements), ("securityContext", securityContext),
  ("startupProbe", probe), ("stdin", .flag), ("stdinOnce", .flag), ("tty", .flag),
  ("volumeDevices", .sequence (apiTexts "VolumeDevice" ["devicePath", "name"])),
  ("volumeMounts", .sequence (api "VolumeMount" (
    ("readOnly", .flag) :: textMembers [
      "mountPath", "mountPropagation", "name", "recursiveReadOnly", "subPath", "subPathExpr"])))] ++
  textMembers ["image", "imagePullPolicy", "name", "restartPolicy", "terminationMessagePath",
    "terminationMessagePolicy", "workingDir"]

def container : Shape := api "Container" containerMembers

def ephemeralContainer : Shape :=
  api "EphemeralContainer" (("targetContainerName", .text) :: containerMembers)

end AgentOperator.Shape
