import MeshSurvey.Kubernetes.Container
import MeshSurvey.Kubernetes.ObjectMeta
import MeshSurvey.Kubernetes.Placement

/-!
# Volumes

A volume holds files for the containers of a pod. It comes from one of many sources: a directory of
the node, an object of the cluster, or a store of some vendor.
-/

namespace MeshSurvey.Kubernetes

/-- A choice of an object by its name. -/
def nameSelectorForm : Form := .object [("name", .text)]

/-! ## Files from objects -/

/-- Which keys of a map become which files. -/
def keyFilesForm : Form := .list (.object [("key", .text), ("mode", .signed), ("path", .text)])

/-- Files that describe the pod itself. -/
def selfFilesForm : Form := .list (.object [
  ("fieldRef", fieldSelectorForm), ("mode", .signed), ("path", .text),
  ("resourceFieldRef", resourceSelectorForm)])

/-- A map of configuration or secrets whose keys become files. -/
def keyFilesSourceForm : Form := .object [
  ("items", keyFilesForm), ("name", .text), ("optional", .flag)]

/-- One of several sources whose files go into one volume. -/
def projectionForm : Form := .object [
  ("clusterTrustBundle", .object [
    ("labelSelector", labelSelectorForm), ("name", .text), ("optional", .flag), ("path", .text),
    ("signerName", .text)]),
  ("configMap", keyFilesSourceForm),
  ("downwardAPI", .object [("items", selfFilesForm)]),
  ("secret", keyFilesSourceForm),
  ("serviceAccountToken", .object [
    ("audience", .text), ("expirationSeconds", .wide), ("path", .text)])]

/-! ## Claims -/

/-- The fields that name an object of any kind. -/
def objectNameForms : List (String × Form) := [
  ("apiGroup", .text), ("kind", .text), ("name", .text)]

/-- What is wanted of storage. -/
def storageClaimForm : Form := .object [
  ("accessModes", .list .text), ("dataSource", .object objectNameForms),
  ("dataSourceRef", .object (("namespace", .text) :: objectNameForms)),
  ("resources", .object [("limits", .map .quantity), ("requests", .map .quantity)]),
  ("selector", labelSelectorForm), ("storageClassName", .text),
  ("volumeAttributesClassName", .text), ("volumeMode", .text), ("volumeName", .text)]

/-! ## Sources -/

/-- The sources that the cluster or the node has of its own. -/
def localSourceForms : List (String × Form) := [
  ("configMap", .object [
    ("defaultMode", .signed), ("items", keyFilesForm), ("name", .text), ("optional", .flag)]),
  ("downwardAPI", .object [("defaultMode", .signed), ("items", selfFilesForm)]),
  ("emptyDir", .object [("medium", .text), ("sizeLimit", .quantity)]),
  ("ephemeral", .object [
    ("volumeClaimTemplate", .object [
      ("metadata", .ofCodec ObjectMeta.codec), ("spec", storageClaimForm)])]),
  ("hostPath", .object [("path", .text), ("type", .text)]),
  ("image", .object [("pullPolicy", .text), ("reference", .text)]),
  ("persistentVolumeClaim", .object [("claimName", .text), ("readOnly", .flag)]),
  ("projected", .object [("defaultMode", .signed), ("sources", .list projectionForm)]),
  ("secret", .object [
    ("defaultMode", .signed), ("items", keyFilesForm), ("optional", .flag),
    ("secretName", .text)])]

/-- The sources that are reached over a network or come from a vendor. -/
def remoteSourceForms : List (String × Form) := [
  ("awsElasticBlockStore", .object [
    ("fsType", .text), ("partition", .signed), ("readOnly", .flag), ("volumeID", .text)]),
  ("azureDisk", .object [
    ("cachingMode", .text), ("diskName", .text), ("diskURI", .text), ("fsType", .text),
    ("kind", .text), ("readOnly", .flag)]),
  ("azureFile", .object [("readOnly", .flag), ("secretName", .text), ("shareName", .text)]),
  ("cephfs", .object [
    ("monitors", .list .text), ("path", .text), ("readOnly", .flag), ("secretFile", .text),
    ("secretRef", nameSelectorForm), ("user", .text)]),
  ("cinder", .object [
    ("fsType", .text), ("readOnly", .flag), ("secretRef", nameSelectorForm),
    ("volumeID", .text)]),
  ("csi", .object [
    ("driver", .text), ("fsType", .text), ("nodePublishSecretRef", nameSelectorForm),
    ("readOnly", .flag), ("volumeAttributes", .map .text)]),
  ("fc", .object [
    ("fsType", .text), ("lun", .signed), ("readOnly", .flag), ("targetWWNs", .list .text),
    ("wwids", .list .text)]),
  ("flexVolume", .object [
    ("driver", .text), ("fsType", .text), ("options", .map .text), ("readOnly", .flag),
    ("secretRef", nameSelectorForm)]),
  ("flocker", .object [("datasetName", .text), ("datasetUUID", .text)]),
  ("gcePersistentDisk", .object [
    ("fsType", .text), ("partition", .signed), ("pdName", .text), ("readOnly", .flag)]),
  ("gitRepo", .object [("directory", .text), ("repository", .text), ("revision", .text)]),
  ("glusterfs", .object [("endpoints", .text), ("path", .text), ("readOnly", .flag)]),
  ("iscsi", .object [
    ("chapAuthDiscovery", .flag), ("chapAuthSession", .flag), ("fsType", .text),
    ("initiatorName", .text), ("iqn", .text), ("iscsiInterface", .text), ("lun", .signed),
    ("portals", .list .text), ("readOnly", .flag), ("secretRef", nameSelectorForm),
    ("targetPortal", .text)]),
  ("nfs", .object [("path", .text), ("readOnly", .flag), ("server", .text)]),
  ("photonPersistentDisk", .object [("fsType", .text), ("pdID", .text)]),
  ("portworxVolume", .object [("fsType", .text), ("readOnly", .flag), ("volumeID", .text)]),
  ("quobyte", .object [
    ("group", .text), ("readOnly", .flag), ("registry", .text), ("tenant", .text),
    ("user", .text), ("volume", .text)]),
  ("rbd", .object [
    ("fsType", .text), ("image", .text), ("keyring", .text), ("monitors", .list .text),
    ("pool", .text), ("readOnly", .flag), ("secretRef", nameSelectorForm), ("user", .text)]),
  ("scaleIO", .object [
    ("fsType", .text), ("gateway", .text), ("protectionDomain", .text), ("readOnly", .flag),
    ("secretRef", nameSelectorForm), ("sslEnabled", .flag), ("storageMode", .text),
    ("storagePool", .text), ("system", .text), ("volumeName", .text)]),
  ("storageos", .object [
    ("fsType", .text), ("readOnly", .flag), ("secretRef", nameSelectorForm),
    ("volumeName", .text), ("volumeNamespace", .text)]),
  ("vsphereVolume", .object [
    ("fsType", .text), ("storagePolicyID", .text), ("storagePolicyName", .text),
    ("volumePath", .text)])]

/-- A volume. -/
def volumeForm : Form := .object (("name", .text) :: localSourceForms ++ remoteSourceForms)

end MeshSurvey.Kubernetes
