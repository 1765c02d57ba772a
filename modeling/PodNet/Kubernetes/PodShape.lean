import PodNet.Kubernetes.Shape

/-!
# The shape of a pod

Everything that a pod may say, part by part. Most of it does not matter here, but a pod that says it
in the wrong way is no pod.
-/

namespace PodNet.Kubernetes.Shape

/-! ### Metadata -/

/-- The depth to which the fields of a manager may nest, where they stand in an object. -/
def managedDepth : Nat := Json.Document.maxDepth - 4

/-- Who set which fields of an object. -/
def managedFields : Shape :=
  record (texts ["apiVersion", "fieldsType", "manager", "operation", "subresource"] ++
    [("fieldsV1", value managedDepth), ("time", time)])

/-- An object that another one belongs to. -/
def ownerReference : Shape :=
  record (texts ["apiVersion", "kind", "name", "uid"] ++ bools ["blockOwnerDeletion", "controller"])

/-- The metadata of an object. -/
def metadata : Shape :=
  record (texts ["generateName", "name", "namespace", "resourceVersion", "selfLink", "uid"] ++
    textTables ["annotations", "labels"] ++ textLists ["finalizers"] ++
    each time ["creationTimestamp", "deletionTimestamp"] ++
    each int64 ["deletionGracePeriodSeconds", "generation"] ++
    [("managedFields", list managedFields), ("ownerReferences", list ownerReference)])

/-- The metadata of a list. -/
def listMetadata : Shape :=
  record (texts ["continue", "resourceVersion", "selfLink"] ++ [("remainingItemCount", int64)])

/-! ### Selecting -/

/-- A condition on a label. -/
def requirement : Shape :=
  record (texts ["key", "operator"] ++ textLists ["values"])

/-- Conditions on labels. -/
def labelSelector : Shape :=
  record (textTables ["matchLabels"] ++ [("matchExpressions", list requirement)])

/-- Conditions on a node. -/
def nodeTerm : Shape :=
  record (each (list requirement) ["matchExpressions", "matchFields"])

/-- Conditions on the pods that run at the same place. -/
def podTerm : Shape :=
  record (each labelSelector ["labelSelector", "namespaceSelector"] ++
    textLists ["matchLabelKeys", "mismatchLabelKeys", "namespaces"] ++ texts ["topologyKey"])

/-- The nodes that a pod prefers or needs. -/
def nodeAffinity : Shape :=
  record [
    ("preferredDuringSchedulingIgnoredDuringExecution",
      list (record [("preference", nodeTerm), ("weight", int32)])),
    ("requiredDuringSchedulingIgnoredDuringExecution",
      record [("nodeSelectorTerms", list nodeTerm)])]

/-- The pods that a pod prefers or needs to be close to, or far from. -/
def podAffinity : Shape :=
  record [
    ("preferredDuringSchedulingIgnoredDuringExecution",
      list (record [("podAffinityTerm", podTerm), ("weight", int32)])),
    ("requiredDuringSchedulingIgnoredDuringExecution", list podTerm)]

/-- All that a pod prefers or needs. -/
def affinity : Shape :=
  record (("nodeAffinity", nodeAffinity) :: each podAffinity ["podAffinity", "podAntiAffinity"])

/-- How pods spread over places. -/
def spreadConstraint : Shape :=
  record (texts ["nodeAffinityPolicy", "nodeTaintsPolicy", "topologyKey", "whenUnsatisfiable"] ++
    each int32 ["maxSkew", "minDomains"] ++ textLists ["matchLabelKeys"] ++
    [("labelSelector", labelSelector)])

/-! ### References -/

/-- Something by its name. -/
def byName : Shape :=
  record (texts ["name"])

/-- A name and a value. -/
def nameAndValue : Shape :=
  record (texts ["name", "value"])

/-- A key of something that need not exist. -/
def keyOf : Shape :=
  record (texts ["key", "name"] ++ bools ["optional"])

/-- Something that need not exist. -/
def optionalByName : Shape :=
  record (texts ["name"] ++ bools ["optional"])

/-- A field of an object. -/
def fieldOf : Shape :=
  record (texts ["apiVersion", "fieldPath"])

/-- A resource of a container. -/
def resourceOf : Shape :=
  record (texts ["containerName", "divisor", "resource"])

/-! ### Security -/

/-- A profile that confines a process. -/
def profile : Shape :=
  record (texts ["localhostProfile", "type"])

/-- The settings that a pod and a container share. -/
def sharedSecurity : Fields :=
  [("appArmorProfile", profile), ("seccompProfile", profile),
   ("seLinuxOptions", record (texts ["level", "role", "type", "user"])),
   ("windowsOptions", record (bools ["hostProcess"] ++
     texts ["gmsaCredentialSpec", "gmsaCredentialSpecName", "runAsUserName"]))] ++
  each int64 ["runAsGroup", "runAsUser"] ++ bools ["runAsNonRoot"]

/-- The settings of a pod. -/
def podSecurity : Shape :=
  record (sharedSecurity ++ texts ["fsGroupChangePolicy", "supplementalGroupsPolicy"] ++
    [("fsGroup", int64), ("supplementalGroups", list int64), ("sysctls", list nameAndValue)])

/-- The settings of a container. -/
def containerSecurity : Shape :=
  record (sharedSecurity ++ texts ["procMount"] ++
    bools ["allowPrivilegeEscalation", "privileged", "readOnlyRootFilesystem"] ++
    [("capabilities", record (textLists ["add", "drop"]))])

/-! ### Containers -/

/-- A command to be run. -/
def command : Shape :=
  record (textLists ["command"])

/-- A request over HTTP. -/
def httpGet : Shape :=
  record (texts ["host", "path", "scheme"] ++
    [("httpHeaders", list nameAndValue), ("port", intOrText)])

/-- A port that is connected to. -/
def tcpSocket : Shape :=
  record [("host", text), ("port", intOrText)]

/-- What is done when a container starts or stops. -/
def handler : Shape :=
  record [("exec", command), ("httpGet", httpGet), ("sleep", record [("seconds", int64)]),
    ("tcpSocket", tcpSocket)]

/-- How a container is watched. -/
def probe : Shape :=
  record ([("exec", command), ("httpGet", httpGet), ("tcpSocket", tcpSocket),
      ("grpc", record [("port", int32), ("service", text)]),
      ("terminationGracePeriodSeconds", int64)] ++
    each int32 ["failureThreshold", "initialDelaySeconds", "periodSeconds", "successThreshold",
      "timeoutSeconds"])

/-- The resources that a container claims. -/
def resources : Shape :=
  record (textTables ["limits", "requests"] ++ [("claims", list (record (texts ["name", "request"])))])

/-- A variable of the environment. -/
def environmentVariable : Shape :=
  record (texts ["name", "value"] ++
    [("valueFrom", record [("configMapKeyRef", keyOf), ("fieldRef", fieldOf),
      ("resourceFieldRef", resourceOf), ("secretKeyRef", keyOf)])])

/-- A source of variables of the environment. -/
def environmentSource : Shape :=
  record [("configMapRef", optionalByName), ("prefix", text), ("secretRef", optionalByName)]

/-- A port of a container. -/
def containerPort : Shape :=
  record (each int32 ["containerPort", "hostPort"] ++ texts ["hostIP", "name", "protocol"])

/-- A volume in a container. -/
def volumeMount : Shape :=
  record (bools ["readOnly"] ++ texts ["mountPath", "mountPropagation", "name", "recursiveReadOnly",
    "subPath", "subPathExpr"])

/-- A container. -/
def container : Shape :=
  record (texts ["image", "imagePullPolicy", "name", "restartPolicy", "targetContainerName",
      "terminationMessagePath", "terminationMessagePolicy", "workingDir"] ++
    textLists ["args", "command"] ++ bools ["stdin", "stdinOnce", "tty"] ++
    each probe ["livenessProbe", "readinessProbe", "startupProbe"] ++
    [("env", list environmentVariable), ("envFrom", list environmentSource),
      ("lifecycle", record (each handler ["postStart", "preStop"])), ("ports", list containerPort),
      ("resizePolicy", list (record (texts ["resourceName", "restartPolicy"]))),
      ("resources", resources), ("securityContext", containerSecurity),
      ("volumeDevices", list (record (texts ["devicePath", "name"]))),
      ("volumeMounts", list volumeMount)])

/-- A container of the fixed ones, which has no container as its target. -/
def fixedContainer : Shape
  | .obj members => container (.obj (members.filter fun m => m.1 != some "targetContainerName"))
  | _ => false

/-! ### Volumes -/

/-- Files made from keys. -/
def keyPaths : Shape :=
  list (record (texts ["key", "path"] ++ [("mode", int32)]))

/-- Files made from fields of the pod. -/
def fieldFiles : Shape :=
  list (record [("fieldRef", fieldOf), ("mode", int32), ("path", text),
    ("resourceFieldRef", resourceOf)])

/-- A source among several of one volume. -/
def projection : Shape :=
  let keyed := record (texts ["name"] ++ bools ["optional"] ++ [("items", keyPaths)])
  record [
    ("clusterTrustBundle", record (texts ["name", "path", "signerName"] ++ bools ["optional"] ++
      [("labelSelector", labelSelector)])),
    ("configMap", keyed), ("downwardAPI", record [("items", fieldFiles)]), ("secret", keyed),
    ("serviceAccountToken", record (texts ["audience", "path"] ++ [("expirationSeconds", int64)]))]

/-- A claim of a volume. -/
def volumeClaim : Shape :=
  record (texts ["storageClassName", "volumeAttributesClassName", "volumeMode", "volumeName"] ++
    textLists ["accessModes"] ++
    [("dataSource", record (texts ["apiGroup", "kind", "name"])),
      ("dataSourceRef", record (texts ["apiGroup", "kind", "name", "namespace"])),
      ("resources", record (textTables ["limits", "requests"])), ("selector", labelSelector)])

/-- A source of a volume with fields, which may be read only. -/
def readOnlySource (fields : Fields) : Shape :=
  record (bools ["readOnly"] ++ fields)

/-- A source of a volume with fields, read only or not, which is got with a secret. -/
def secretSource (fields : Fields) : Shape :=
  readOnlySource (("secretRef", byName) :: fields)

/-- The sources of a volume that are made by the cluster. -/
def clusterSources : Fields :=
  [("configMap", record (texts ["name"] ++ bools ["optional"] ++
      [("defaultMode", int32), ("items", keyPaths)])),
   ("downwardAPI", record [("defaultMode", int32), ("items", fieldFiles)]),
   ("emptyDir", record (texts ["medium", "sizeLimit"])),
   ("ephemeral", record [("volumeClaimTemplate",
     record [("metadata", metadata), ("spec", volumeClaim)])]),
   ("gitRepo", record (texts ["directory", "repository", "revision"])),
   ("hostPath", record (texts ["path", "type"])),
   ("image", record (texts ["pullPolicy", "reference"])),
   ("persistentVolumeClaim", readOnlySource (texts ["claimName"])),
   ("projected", record [("defaultMode", int32), ("sources", list projection)]),
   ("secret", record (texts ["secretName"] ++ bools ["optional"] ++
     [("defaultMode", int32), ("items", keyPaths)]))]

/-- The sources of a volume that are disks. -/
def diskSources : Fields :=
  [("awsElasticBlockStore", readOnlySource (texts ["fsType", "volumeID"] ++ [("partition", int32)])),
   ("azureDisk", readOnlySource (texts ["cachingMode", "diskName", "diskURI", "fsType", "kind"])),
   ("cinder", secretSource (texts ["fsType", "volumeID"])),
   ("fc", readOnlySource (texts ["fsType"] ++ textLists ["targetWWNs", "wwids"] ++ [("lun", int32)])),
   ("gcePersistentDisk", readOnlySource (texts ["fsType", "pdName"] ++ [("partition", int32)])),
   ("iscsi", secretSource (texts ["fsType", "initiatorName", "iqn", "iscsiInterface",
     "targetPortal"] ++ bools ["chapAuthDiscovery", "chapAuthSession"] ++ textLists ["portals"] ++
     [("lun", int32)])),
   ("photonPersistentDisk", record (texts ["fsType", "pdID"])),
   ("vsphereVolume", record (texts ["fsType", "storagePolicyID", "storagePolicyName",
     "volumePath"]))]

/-- The sources of a volume that are storage systems. -/
def storageSources : Fields :=
  [("azureFile", readOnlySource (texts ["secretName", "shareName"])),
   ("cephfs", secretSource (texts ["path", "secretFile", "user"] ++ textLists ["monitors"])),
   ("csi", readOnlySource (texts ["driver", "fsType"] ++ textTables ["volumeAttributes"] ++
     [("nodePublishSecretRef", byName)])),
   ("flexVolume", secretSource (texts ["driver", "fsType"] ++ textTables ["options"])),
   ("flocker", record (texts ["datasetName", "datasetUUID"])),
   ("glusterfs", readOnlySource (texts ["endpoints", "path"])),
   ("nfs", readOnlySource (texts ["path", "server"])),
   ("portworxVolume", readOnlySource (texts ["fsType", "volumeID"])),
   ("quobyte", readOnlySource (texts ["group", "registry", "tenant", "user", "volume"])),
   ("rbd", secretSource (texts ["fsType", "image", "keyring", "pool", "user"] ++
     textLists ["monitors"])),
   ("scaleIO", secretSource (texts ["fsType", "gateway", "protectionDomain", "storageMode",
     "storagePool", "system", "volumeName"] ++ bools ["sslEnabled"])),
   ("storageos", secretSource (texts ["fsType", "volumeName", "volumeNamespace"]))]

/-- A volume. -/
def volume : Shape :=
  record (("name", text) :: clusterSources ++ diskSources ++ storageSources)

/-! ### The specification -/

/-- How names are looked up. -/
def dnsConfig : Shape :=
  record (textLists ["nameservers", "searches"] ++ [("options", list nameAndValue)])

/-- A taint that a pod tolerates. -/
def toleration : Shape :=
  record (texts ["effect", "key", "operator", "value"] ++ [("tolerationSeconds", int64)])

/-- What a pod is to be. -/
def podSpec : Shape :=
  record (texts ["dnsPolicy", "hostname", "nodeName", "preemptionPolicy", "priorityClassName",
      "restartPolicy", "runtimeClassName", "schedulerName", "serviceAccount", "serviceAccountName",
      "subdomain"] ++
    bools ["automountServiceAccountToken", "enableServiceLinks", "hostIPC", "hostNetwork",
      "hostPID", "hostUsers", "setHostnameAsFQDN", "shareProcessNamespace"] ++
    each int64 ["activeDeadlineSeconds", "terminationGracePeriodSeconds"] ++
    textTables ["nodeSelector", "overhead"] ++
    each (list fixedContainer) ["containers", "initContainers"] ++
    [("affinity", affinity), ("dnsConfig", dnsConfig), ("ephemeralContainers", list container),
      ("hostAliases", list (record (textLists ["hostnames"] ++ texts ["ip"]))),
      ("imagePullSecrets", list byName), ("os", byName), ("priority", int32),
      ("readinessGates", list (record (texts ["conditionType"]))),
      ("resourceClaims", list (record (texts ["name", "resourceClaimName",
        "resourceClaimTemplateName"]))),
      ("schedulingGates", list byName), ("securityContext", podSecurity),
      ("tolerations", list toleration), ("topologySpreadConstraints", list spreadConstraint),
      ("volumes", list volume)])

/-! ### The status -/

/-- What a container is doing. -/
def containerState : Shape :=
  record [
    ("running", record [("startedAt", time)]),
    ("terminated", record (texts ["containerID", "message", "reason"] ++
      each int32 ["exitCode", "signal"] ++ each time ["finishedAt", "startedAt"])),
    ("waiting", record (texts ["message", "reason"]))]

/-- Whom a container runs as. -/
def containerUser : Shape :=
  record [("linux", record (each int64 ["gid", "uid"] ++ [("supplementalGroups", list int64)]))]

/-- A volume that a container has. -/
def mountedVolume : Shape :=
  record (bools ["readOnly"] ++ texts ["mountPath", "name", "recursiveReadOnly"])

/-- The status of a container. -/
def containerStatus : Shape :=
  record (texts ["containerID", "image", "imageID", "name"] ++ bools ["ready", "started"] ++
    textTables ["allocatedResources"] ++ each containerState ["lastState", "state"] ++
    [("allocatedResourcesStatus", list (record [("name", text),
        ("resources", list (record (texts ["health", "resourceID"])))])),
      ("resources", resources), ("restartCount", int32), ("user", containerUser),
      ("volumeMounts", list mountedVolume)])

/-- A condition of a pod. -/
def condition : Shape :=
  record (texts ["message", "reason", "status", "type"] ++
    each time ["lastProbeTime", "lastTransitionTime"])

/-- What a pod is. -/
def podStatus : Shape :=
  record (texts ["hostIP", "message", "nominatedNodeName", "phase", "podIP", "qosClass", "reason",
      "resize"] ++
    each (list containerStatus)
      ["containerStatuses", "ephemeralContainerStatuses", "initContainerStatuses"] ++
    each (list (record (texts ["ip"]))) ["hostIPs", "podIPs"] ++
    [("conditions", list condition),
      ("resourceClaimStatuses", list (record (texts ["name", "resourceClaimName"]))),
      ("startTime", time)])

/-- A pod. -/
def pod : Shape :=
  both (object [("apiVersion", exactly "v1"), ("kind", exactly "Pod")])
    (record [("metadata", metadata), ("spec", podSpec), ("status", podStatus)])

end PodNet.Kubernetes.Shape
