import AgentOperator.Object.Metadata
import AgentOperator.Shape.Placement

/-! The volumes that pods mount. -/
namespace AgentOperator.Shape

def localReference : Shape := apiTexts "LocalObjectReference" ["name"]

def fieldReference : Shape := apiTexts "ObjectFieldSelector" ["apiVersion", "fieldPath"]

def resourceReference : Shape :=
  api "ResourceFieldSelector" [
    ("containerName", .text), ("divisor", .quantity), ("resource", .text)]

def quantities : Shape := .mapping .quantity

def keyFiles : Shape :=
  .sequence (api "KeyToPath" [("key", .text), ("mode", int32), ("path", .text)])

def podFiles : Shape :=
  .sequence (api "DownwardAPIVolumeFile" [
    ("fieldRef", fieldReference), ("mode", int32), ("path", .text),
    ("resourceFieldRef", resourceReference)])

def volumeClaim : Shape :=
  api "PersistentVolumeClaimSpec" [
    ("accessModes", texts),
    ("dataSource", apiTexts "TypedLocalObjectReference" ["apiGroup", "kind", "name"]),
    ("dataSourceRef", apiTexts "TypedObjectReference" ["apiGroup", "kind", "name", "namespace"]),
    ("resources", api "VolumeResourceRequirements" [
      ("limits", quantities), ("requests", quantities)]),
    ("selector", labelSelector), ("storageClassName", .text),
    ("volumeAttributesClassName", .text), ("volumeMode", .text), ("volumeName", .text)]

def keyProjection (title : String) : Shape :=
  api title [("items", keyFiles), ("name", .text), ("optional", .flag)]

def volumeProjection : Shape :=
  api "VolumeProjection" [
    ("clusterTrustBundle", api "ClusterTrustBundleProjection" [
      ("labelSelector", labelSelector), ("name", .text), ("optional", .flag), ("path", .text),
      ("signerName", .text)]),
    ("configMap", keyProjection "ConfigMapProjection"),
    ("downwardAPI", api "DownwardAPIProjection" [("items", podFiles)]),
    ("secret", keyProjection "SecretProjection"),
    ("serviceAccountToken", api "ServiceAccountTokenProjection" [
      ("audience", .text), ("expirationSeconds", int64), ("path", .text)])]

def clusterSources : List (String × Shape) := [
  ("configMap", api "ConfigMapVolumeSource" [
    ("defaultMode", int32), ("items", keyFiles), ("name", .text), ("optional", .flag)]),
  ("downwardAPI", api "DownwardAPIVolumeSource" [("defaultMode", int32), ("items", podFiles)]),
  ("emptyDir", api "EmptyDirVolumeSource" [("medium", .text), ("sizeLimit", .quantity)]),
  ("ephemeral", api "EphemeralVolumeSource" [
    ("volumeClaimTemplate", api "PersistentVolumeClaimTemplate" [
      ("metadata", Metadata.shape), ("spec", volumeClaim)])]),
  ("hostPath", apiTexts "HostPathVolumeSource" ["path", "type"]),
  ("persistentVolumeClaim", api "PersistentVolumeClaimVolumeSource" [
    ("claimName", .text), ("readOnly", .flag)]),
  ("projected", api "ProjectedVolumeSource" [
    ("defaultMode", int32), ("sources", .sequence volumeProjection)]),
  ("secret", api "SecretVolumeSource" [
    ("defaultMode", int32), ("items", keyFiles), ("optional", .flag), ("secretName", .text)])]

def storageSources : List (String × Shape) := [
  ("awsElasticBlockStore", api "AWSElasticBlockStoreVolumeSource" [
    ("fsType", .text), ("partition", int32), ("readOnly", .flag), ("volumeID", .text)]),
  ("azureDisk", api "AzureDiskVolumeSource" (
    ("readOnly", .flag) :: textMembers ["cachingMode", "diskName", "diskURI", "fsType", "kind"])),
  ("azureFile", api "AzureFileVolumeSource" (
    ("readOnly", .flag) :: textMembers ["secretName", "shareName"])),
  ("cephfs", api "CephFSVolumeSource" ([
    ("monitors", texts), ("readOnly", .flag), ("secretRef", localReference)] ++
    textMembers ["path", "secretFile", "user"])),
  ("cinder", api "CinderVolumeSource" ([
    ("readOnly", .flag), ("secretRef", localReference)] ++ textMembers ["fsType", "volumeID"])),
  ("csi", api "CSIVolumeSource" [
    ("driver", .text), ("fsType", .text), ("nodePublishSecretRef", localReference),
    ("readOnly", .flag), ("volumeAttributes", textMap)]),
  ("fc", api "FCVolumeSource" [
    ("fsType", .text), ("lun", int32), ("readOnly", .flag), ("targetWWNs", texts),
    ("wwids", texts)]),
  ("flexVolume", api "FlexVolumeSource" [
    ("driver", .text), ("fsType", .text), ("options", textMap), ("readOnly", .flag),
    ("secretRef", localReference)]),
  ("flocker", apiTexts "FlockerVolumeSource" ["datasetName", "datasetUUID"]),
  ("gcePersistentDisk", api "GCEPersistentDiskVolumeSource" [
    ("fsType", .text), ("partition", int32), ("pdName", .text), ("readOnly", .flag)]),
  ("gitRepo", apiTexts "GitRepoVolumeSource" ["directory", "repository", "revision"]),
  ("glusterfs", api "GlusterfsVolumeSource" (
    ("readOnly", .flag) :: textMembers ["endpoints", "path"])),
  ("iscsi", api "ISCSIVolumeSource" ([
    ("chapAuthDiscovery", .flag), ("chapAuthSession", .flag), ("lun", int32), ("portals", texts),
    ("readOnly", .flag), ("secretRef", localReference)] ++
    textMembers ["fsType", "initiatorName", "iqn", "iscsiInterface", "targetPortal"])),
  ("nfs", api "NFSVolumeSource" (("readOnly", .flag) :: textMembers ["path", "server"])),
  ("photonPersistentDisk", apiTexts "PhotonPersistentDiskVolumeSource" ["fsType", "pdID"]),
  ("portworxVolume", api "PortworxVolumeSource" (
    ("readOnly", .flag) :: textMembers ["fsType", "volumeID"])),
  ("quobyte", api "QuobyteVolumeSource" (
    ("readOnly", .flag) :: textMembers ["group", "registry", "tenant", "user", "volume"])),
  ("rbd", api "RBDVolumeSource" ([
    ("monitors", texts), ("readOnly", .flag), ("secretRef", localReference)] ++
    textMembers ["fsType", "image", "keyring", "pool", "user"])),
  ("scaleIO", api "ScaleIOVolumeSource" ([
    ("readOnly", .flag), ("secretRef", localReference), ("sslEnabled", .flag)] ++
    textMembers ["fsType", "gateway", "protectionDomain", "storageMode", "storagePool", "system",
      "volumeName"])),
  ("storageos", api "StorageOSVolumeSource" ([
    ("readOnly", .flag), ("secretRef", localReference)] ++
    textMembers ["fsType", "volumeName", "volumeNamespace"])),
  ("vsphereVolume", apiTexts "VsphereVirtualDiskVolumeSource"
    ["fsType", "storagePolicyID", "storagePolicyName", "volumePath"])]

def volume : Shape := api "Volume" (("name", .text) :: clusterSources ++ storageSources)

end AgentOperator.Shape
