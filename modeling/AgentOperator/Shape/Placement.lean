import AgentOperator.Shape

/-! Where pods may run: label selectors, affinities, tolerations and spreading. -/
namespace AgentOperator.Shape

def textMembers (names : List String) : List (String × Shape) := names.map fun name => (name, .text)

def apiTexts (title : String) (names : List String) : Shape := api title (textMembers names)

def labelSelector : Shape :=
  api "LabelSelector" [
    ("matchExpressions", .sequence (api "LabelSelectorRequirement" [
      ("key", .text), ("operator", .text), ("values", texts)])),
    ("matchLabels", textMap)]

def nodeSelectorTerm : Shape :=
  let requirements := Shape.sequence (api "NodeSelectorRequirement" [
    ("key", .text), ("operator", .text), ("values", texts)])
  api "NodeSelectorTerm" [("matchExpressions", requirements), ("matchFields", requirements)]

def nodeAffinity : Shape :=
  api "NodeAffinity" [
    ("preferredDuringSchedulingIgnoredDuringExecution", .sequence (api "PreferredSchedulingTerm" [
      ("preference", nodeSelectorTerm), ("weight", int32)])),
    ("requiredDuringSchedulingIgnoredDuringExecution", api "NodeSelector" [
      ("nodeSelectorTerms", .sequence nodeSelectorTerm)])]

def podAffinityTerm : Shape :=
  api "PodAffinityTerm" [
    ("labelSelector", labelSelector), ("matchLabelKeys", texts), ("mismatchLabelKeys", texts),
    ("namespaceSelector", labelSelector), ("namespaces", texts), ("topologyKey", .text)]

def podAffinity (title : String) : Shape :=
  api title [
    ("preferredDuringSchedulingIgnoredDuringExecution", .sequence (api "WeightedPodAffinityTerm" [
      ("podAffinityTerm", podAffinityTerm), ("weight", int32)])),
    ("requiredDuringSchedulingIgnoredDuringExecution", .sequence podAffinityTerm)]

def affinity : Shape :=
  api "Affinity" [
    ("nodeAffinity", nodeAffinity), ("podAffinity", podAffinity "PodAffinity"),
    ("podAntiAffinity", podAffinity "PodAntiAffinity")]

def toleration : Shape :=
  api "Toleration" (
    ("tolerationSeconds", int64) :: textMembers ["effect", "key", "operator", "value"])

def topologySpread : Shape :=
  api "TopologySpreadConstraint" ([
    ("labelSelector", labelSelector), ("matchLabelKeys", texts), ("maxSkew", int32),
    ("minDomains", int32)] ++
    textMembers ["nodeAffinityPolicy", "nodeTaintsPolicy", "topologyKey", "whenUnsatisfiable"])

end AgentOperator.Shape
