import MeshSurvey.Kubernetes.Form

/-!
# Containers

A container is a program of a pod, with the ports at which it listens. What else is wanted of it,
and what its node reports on it, only has to have the right form.
-/

namespace MeshSurvey.Kubernetes

/-! ## Parts of a container that are not kept -/

/-- A choice of a key from a map of configuration or secrets. -/
def keySelectorForm : Form := .object [("key", .text), ("name", .text), ("optional", .flag)]

/-- A choice of a whole map of configuration or secrets. -/
def mapSelectorForm : Form := .object [("name", .text), ("optional", .flag)]

/-- A choice of a field of the pod. -/
def fieldSelectorForm : Form := .object [("apiVersion", .text), ("fieldPath", .text)]

/-- A choice of a resource that a container may use. -/
def resourceSelectorForm : Form := .object [
  ("containerName", .text), ("divisor", .quantity), ("resource", .text)]

/-- Where the value of a variable comes from. -/
def variableSourceForm : Form := .object [
  ("configMapKeyRef", keySelectorForm), ("fieldRef", fieldSelectorForm),
  ("resourceFieldRef", resourceSelectorForm), ("secretKeyRef", keySelectorForm)]

/-- A variable of the environment. -/
def variableForm : Form := .object [
  ("name", .text), ("value", .text), ("valueFrom", variableSourceForm)]

/-- Where many variables come from. -/
def variablesSourceForm : Form := .object [
  ("configMapRef", mapSelectorForm), ("prefix", .text), ("secretRef", mapSelectorForm)]

/-- The actions by which a container is told or asked something. -/
def actionForms : List (String × Form) := [
  ("exec", .object [("command", .list .text)]),
  ("httpGet", .object [
    ("host", .text), ("httpHeaders", .list (.object [("name", .text), ("value", .text)])),
    ("path", .text), ("port", .numberOrName), ("scheme", .text)]),
  ("tcpSocket", .object [("host", .text), ("port", .numberOrName)])]

/-- What is done at a turn of a container's life. -/
def handlerForm : Form := .object (("sleep", .object [("seconds", .wide)]) :: actionForms)

/-- How it is found out whether a container is well. -/
def probeForm : Form := .object (actionForms ++ [
  ("failureThreshold", .signed), ("grpc", .object [("port", .signed), ("service", .text)]),
  ("initialDelaySeconds", .signed), ("periodSeconds", .signed), ("successThreshold", .signed),
  ("terminationGracePeriodSeconds", .wide), ("timeoutSeconds", .signed)])

/-- What a container may use. -/
def resourcesForm : Form := .object [
  ("claims", .list (.object [("name", .text), ("request", .text)])),
  ("limits", .map .quantity), ("requests", .map .quantity)]

/-- A profile that restricts a container. -/
def profileForm : Form := .object [("localhostProfile", .text), ("type", .text)]

/-- What a container may do and a pod may say for all its containers. -/
def sharedSecurityForms : List (String × Form) := [
  ("appArmorProfile", profileForm), ("runAsGroup", .wide), ("runAsNonRoot", .flag),
  ("runAsUser", .wide),
  ("seLinuxOptions", .object [("level", .text), ("role", .text), ("type", .text), ("user", .text)]),
  ("seccompProfile", profileForm),
  ("windowsOptions", .object [
    ("gmsaCredentialSpec", .text), ("gmsaCredentialSpecName", .text), ("hostProcess", .flag),
    ("runAsUserName", .text)])]

/-- What a container may do. -/
def securityForm : Form := .object ([
  ("allowPrivilegeEscalation", .flag),
  ("capabilities", .object [("add", .list .text), ("drop", .list .text)]),
  ("privileged", .flag), ("procMount", .text), ("readOnlyRootFilesystem", .flag)] ++
  sharedSecurityForms)

/-- The fields of a container that are not kept. -/
def containerForms : List (String × Form) := [
  ("args", .list .text), ("command", .list .text), ("env", .list variableForm),
  ("envFrom", .list variablesSourceForm), ("image", .text), ("imagePullPolicy", .text),
  ("lifecycle", .object [("postStart", handlerForm), ("preStop", handlerForm)]),
  ("livenessProbe", probeForm), ("readinessProbe", probeForm), ("startupProbe", probeForm),
  ("resizePolicy", .list (.object [("resourceName", .text), ("restartPolicy", .text)])),
  ("resources", resourcesForm), ("restartPolicy", .text), ("securityContext", securityForm),
  ("stdin", .flag), ("stdinOnce", .flag), ("terminationMessagePath", .text),
  ("terminationMessagePolicy", .text), ("tty", .flag),
  ("volumeDevices", .list (.object [("devicePath", .text), ("name", .text)])),
  ("volumeMounts", .list (.object [
    ("mountPath", .text), ("mountPropagation", .text), ("name", .text), ("readOnly", .flag),
    ("recursiveReadOnly", .text), ("subPath", .text), ("subPathExpr", .text)])),
  ("workingDir", .text)]

/-! ## Ports and containers -/

/-- A port of a container. -/
structure ContainerPort where
  /-- The number. -/
  containerPort : Int32 := 0
  name : Option String := none
  deriving DecidableEq, Inhabited

/-- The JSON form of a port. -/
def ContainerPort.codec : Json.Codec ContainerPort := objectCodec {} [
  required "containerPort" .signed (·.containerPort) fun v m ↦ { m with containerPort := v },
  checked ("hostIP", .text),
  checked ("hostPort", .signed),
  optional "name" .text (·.name) fun v m ↦ { m with name := v },
  checked ("protocol", .text)]

/-- A container of a pod. -/
structure Container where
  name : String := ""
  ports : Option (List ContainerPort) := none
  deriving DecidableEq, Inhabited

/-- The JSON form of a container. -/
def Container.codec : Json.Codec Container := objectCodec {} (
  [required "name" .text (·.name) fun v m ↦ { m with name := v },
    optional "ports" (.list ContainerPort.codec) (·.ports) fun v m ↦ { m with ports := v }] ++
  containerForms.map checked)

/-- A container that is put into a running pod to look at another one. -/
def ephemeralContainerForm : Form := .object ([
  ("name", .text), ("ports", .list (.ofCodec ContainerPort.codec)),
  ("targetContainerName", .text)] ++ containerForms)

/-! ## Reports on containers -/

/-- The state of a container. -/
def containerStateForm : Form := .object [
  ("running", .object [("startedAt", .time)]),
  ("terminated", .object [
    ("containerID", .text), ("exitCode", .signed), ("finishedAt", .time), ("message", .text),
    ("reason", .text), ("signal", .signed), ("startedAt", .time)]),
  ("waiting", .object [("message", .text), ("reason", .text)])]

/-- What a node reports on a container. -/
def containerStatusForm : Form := .object [
  ("allocatedResources", .map .quantity),
  ("allocatedResourcesStatus", .list (.object [
    ("name", .text),
    ("resources", .list (.object [("health", .text), ("resourceID", .text)]))])),
  ("containerID", .text), ("image", .text), ("imageID", .text), ("lastState", containerStateForm),
  ("name", .text), ("ready", .flag), ("resources", resourcesForm), ("restartCount", .signed),
  ("started", .flag), ("state", containerStateForm),
  ("user", .object [
    ("linux", .object [("gid", .wide), ("supplementalGroups", .list .wide), ("uid", .wide)])]),
  ("volumeMounts", .list (.object [
    ("mountPath", .text), ("name", .text), ("readOnly", .flag), ("recursiveReadOnly", .text)]))]

end MeshSurvey.Kubernetes
