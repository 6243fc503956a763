import AgentOperator.Shape.Container

/-! The template of the pods that a workload runs. -/
namespace AgentOperator.Shape

def podSecurityContext : Shape :=
  api "PodSecurityContext" (rights ++ [
    ("fsGroup", int64), ("fsGroupChangePolicy", .text), ("supplementalGroups", .sequence int64),
    ("sysctls", .sequence (apiTexts "Sysctl" ["name", "value"]))])

def dnsConfig : Shape :=
  api "PodDNSConfig" [
    ("nameservers", texts),
    ("options", .sequence (apiTexts "PodDNSConfigOption" ["name", "value"])),
    ("searches", texts)]

def resourceClaim : Shape :=
  api "PodResourceClaim" [
    ("name", .text),
    ("source", apiTexts "ClaimSource" ["resourceClaimName", "resourceClaimTemplateName"])]

def podSpec : Shape :=
  api "PodSpec" ([
    ("activeDeadlineSeconds", int64), ("affinity", affinity),
    ("automountServiceAccountToken", .flag), ("containers", .sequence container),
    ("dnsConfig", dnsConfig), ("enableServiceLinks", .flag),
    ("ephemeralContainers", .sequence ephemeralContainer),
    ("hostAliases", .sequence (api "HostAlias" [("hostnames", texts), ("ip", .text)])),
    ("hostIPC", .flag), ("hostNetwork", .flag), ("hostPID", .flag), ("hostUsers", .flag),
    ("imagePullSecrets", .sequence localReference), ("initContainers", .sequence container),
    ("nodeSelector", textMap), ("os", apiTexts "PodOS" ["name"]), ("overhead", quantities),
    ("priority", int32),
    ("readinessGates", .sequence (apiTexts "PodReadinessGate" ["conditionType"])),
    ("resourceClaims", .sequence resourceClaim),
    ("schedulingGates", .sequence (apiTexts "PodSchedulingGate" ["name"])),
    ("securityContext", podSecurityContext), ("setHostnameAsFQDN", .flag),
    ("shareProcessNamespace", .flag), ("terminationGracePeriodSeconds", int64),
    ("tolerations", .sequence toleration),
    ("topologySpreadConstraints", .sequence topologySpread), ("volumes", .sequence volume)] ++
    textMembers ["dnsPolicy", "hostname", "nodeName", "preemptionPolicy", "priorityClassName",
      "restartPolicy", "runtimeClassName", "schedulerName", "serviceAccount",
      "serviceAccountName", "subdomain"])

def podTemplate : Shape :=
  api "PodTemplateSpec" [("metadata", Metadata.shape), ("spec", podSpec)]

end AgentOperator.Shape
