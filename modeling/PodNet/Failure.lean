import PodNet.CniError
import PodNet.Text.Quoted
import PodNet.Text.Blank
import PodNet.Text.Split

/-!
# Failures

Everything that can go wrong between an invocation and its answer is a `Failure`: a constructor says
what kind of thing went wrong, and the cause inside it says what exactly. `Failure.message` is the
one place with the wording, and `Failure.report` says how a failure is reported to the caller. A
plugin's own report passes through unchanged; every other failure gets a code, a short message and
its wording as details.
-/

namespace PodNet

/-- What the operating system refused. -/
inductive IoFault where
  | notFound
  | permissionDenied
  | fileExists
  | notADirectory
  | isADirectory
  | tooManyLinks
  | notExecutable
  | nameTooLong
  | nulInPath
  | nulInArgument
  | notASupportedOperation
  /-- Any other refusal, in the words it came with. -/
  | other (text : String)
  deriving Repr, DecidableEq

/-- The wording of a refusal. -/
def IoFault.message : IoFault → String
  | notFound => "No such file or directory (os error 2)"
  | permissionDenied => "Permission denied (os error 13)"
  | fileExists => "File exists (os error 17)"
  | notADirectory => "Not a directory (os error 20)"
  | isADirectory => "Is a directory (os error 21)"
  | tooManyLinks => "Too many levels of symbolic links (os error 40)"
  | notExecutable => "Exec format error (os error 8)"
  | nameTooLong => "File name too long (os error 36)"
  | nulInPath => "file name contained an unexpected NUL byte"
  | nulInArgument => "nul byte found in provided data"
  | notASupportedOperation => "operation not supported on this platform"
  | other text => text

/-- What is wrong with an invocation. -/
inductive EnvelopeFault where
  | commandUnset
  | unknownCommand (command : String)
  | containerUnset
  | netnsUnset
  | configMissing
  | configTooLong (limit : Nat)
  | badSettings
  | badPair (pair : String)
  | unknownKeys (keys : List String)
  /-- A pod is named, but there is no access to the cluster. -/
  | noCluster
  /-- A network of the cluster is asked for, but there is no access to the cluster. -/
  | noClusterForNetwork
  /-- Any other fault, in the words it came with. -/
  | other (text : String)
  deriving Repr, DecidableEq

/-- The wording of a fault of the invocation. -/
def EnvelopeFault.message : EnvelopeFault → String
  | commandUnset => "CNI_COMMAND is not set"
  | unknownCommand command => "unknown CNI_COMMAND " ++ Text.quoted command
  | containerUnset => "CNI_CONTAINERID is not set"
  | netnsUnset => "CNI_NETNS is not set"
  | configMissing => "network configuration missing on stdin"
  | configTooLong limit => "network configuration exceeds " ++ toString limit ++ " bytes"
  | badSettings => "invalid netconf on stdin: malformed document"
  | badPair pair => "invalid CNI_ARGS pair " ++ Text.quoted pair
  | unknownKeys keys => "unknown CNI_ARGS keys: " ++ Text.join ", " keys
  | noCluster => "no Kubernetes client configured"
  | noClusterForNetwork =>
    "network resources requested without a Kubernetes pod in CNI_ARGS"
  | other text => text

/-- The annotation with the standard selection of networks. -/
def selectionKey : String := "k8s.v1.cni.cncf.io/networks"

/-- The annotation that lists plugins. -/
def cniKey : String := "cni"

/-- What is wrong with the annotations of a pod. -/
inductive AnnotationFault where
  | badSelection
  | emptyNetworkName
  | badIp (network ip : String)
  | badMac (network mac : String)
  | badSelectionEntry (token : String)
  | emptyEntry (value : String)
  | mixedSeparators (token : String)
  | badEntry (token : String)
  | badReference (network : String)
  | illegalInterface (name : String)
  | repeatedInterface (name : String)
  /-- Any other fault, in the words it came with. -/
  | other (text : String)
  deriving Repr, DecidableEq

/-- The wording of a fault in the annotations. -/
def AnnotationFault.message : AnnotationFault → String
  | badSelection => selectionKey ++ ": invalid JSON: malformed document"
  | emptyNetworkName => selectionKey ++ ": network name is empty"
  | badIp network ip => network ++ ": invalid IP " ++ Text.quoted ip
  | badMac network mac => network ++ ": invalid MAC " ++ Text.quoted mac
  | badSelectionEntry token => selectionKey ++ ": malformed entry " ++ Text.quoted token
  | emptyEntry value => cniKey ++ ": empty entry in " ++ Text.quoted value
  | mixedSeparators token => cniKey ++ ": " ++ Text.quoted token ++ " mixes ':' and '@'"
  | badEntry token => cniKey ++ ": malformed entry " ++ Text.quoted token
  | badReference network => "malformed logical network reference " ++ Text.quoted network
  | illegalInterface name => "illegal interface name " ++ Text.quoted name
  | repeatedInterface name => "interface " ++ name ++ " requested more than once"
  | other text => text

/-- What is wrong with a network configuration. -/
inductive ConfigFault where
  | badList
  | badConf
  | badDocument
  | notAnObject
  | noPlugins (network : String)
  | noType (network : String) (index : Nat)
  /-- The fault of a file. -/
  | inFile (path : String) (fault : ConfigFault)
  /-- An attachment definition without a configuration, and no network of its name in the directory. -/
  | nowhereDefined (ns name directory : String)
  | resultNotAnObject
  /-- Any other fault, in the words it came with. -/
  | other (text : String)
  deriving Repr, DecidableEq

/-- The wording of a fault in a network configuration. -/
def ConfigFault.message : ConfigFault → String
  | badList => "invalid conflist: malformed document"
  | badConf => "invalid conf: malformed document"
  | badDocument => "invalid network config: malformed document"
  | notAnObject => "network configuration is not a JSON object"
  | noPlugins network => "network " ++ Text.quoted network ++ " has no plugins"
  | noType network index =>
    "network " ++ Text.quoted network ++ " plugin " ++ toString index ++ " has no type"
  | inFile path fault => path ++ ": " ++ fault.message
  | nowhereDefined ns name directory =>
    "net-attach-def " ++ ns ++ "/" ++ name ++ " has no config and no network named " ++ name ++
      " exists in " ++ directory
  | resultNotAnObject => "delegate result is not a JSON object"
  | other text => text

/-- The kinds of resources that are looked up in the cluster. -/
inductive ResourceKind where
  | pod
  | logicalNetwork
  | physicalNetwork
  | netAttachDef
  deriving Repr, DecidableEq

/-- The name of a kind. -/
def ResourceKind.name : ResourceKind → String
  | pod => "Pod"
  | logicalNetwork => "LogicalNetwork"
  | physicalNetwork => "PhysicalNetwork"
  | netAttachDef => "NetworkAttachmentDefinition"

/-- What is wrong with a resource. -/
inductive ResourceFault where
  | undecodable
  | ownPhysicalNetwork
  | dedicatedWithoutPlugin
  | pluginConflict (requested physical owner : String)
  | incompleteOnShared (physical : String)
  | noPlugin
  | badSubnet (subnet : String)
  | outsideOf (inner outer physical : String)
  | overlapsSibling (own taken sibling : String)
  /-- Any other fault, in the words it came with. -/
  | other (text : String)
  deriving Repr, DecidableEq

/-- The wording of a text that is no subnet. -/
def badSubnetMessage (subnet : String) : String :=
  "invalid subnet " ++ Text.quoted subnet ++ ": invalid address: " ++ Text.trim subnet

/-- The wording of a fault in a resource. -/
def ResourceFault.message : ResourceFault → String
  | undecodable => "malformed document"
  | ownPhysicalNetwork => "refers to itself as its physical network"
  | dedicatedWithoutPlugin => "dedicated network names no plugin"
  | pluginConflict requested physical owner =>
    "plugin " ++ requested ++ " conflicts with " ++ physical ++ " dedicated to " ++ owner
  | incompleteOnShared physical =>
    "plugin and sub_subnet are required on shared network " ++ physical
  | noPlugin => "no plugin"
  | badSubnet subnet => badSubnetMessage subnet
  | outsideOf inner outer physical =>
    "subnet " ++ inner ++ " is not within " ++ outer ++ " of " ++ physical
  | overlapsSibling own taken sibling =>
    "subnet " ++ own ++ " overlaps " ++ taken ++ " of " ++ sibling
  | other text => text

/-- Why the API of the cluster gave no answer to a request. -/
inductive ApiFault where
  /-- The request could not be formed. -/
  | badRequest
  /-- The service could not be reached. -/
  | unreachable
  /-- The service answered with an error of this code. -/
  | refused (code : Nat)
  /-- The answer is not text. -/
  | notText
  /-- The answer could not be decoded. -/
  | undecodable
  deriving Repr, DecidableEq

/-- The wording of a fault of the API. -/
def ApiFault.message : ApiFault → String
  | badRequest => "request cannot be formed"
  | unreachable => "service unreachable"
  | refused code => "service answered with error " ++ toString code
  | notText => "answer is not text"
  | undecodable => "malformed document"

/-- Why the status of a pod was not written. -/
inductive PatchFault where
  | refused (ns name : String) (fault : ApiFault)
  /-- Any other fault, in the words it came with. -/
  | other (text : String)
  deriving Repr, DecidableEq

/-- The wording of a failed patch. -/
def PatchFault.message : PatchFault → String
  | refused ns name fault => ns ++ "/" ++ name ++ ": " ++ fault.message
  | other text => text

/-- Whatever can go wrong between an invocation and its answer. -/
inductive Failure where
  | invalidEnvelope (fault : EnvelopeFault)
  | podNotFound (ns name : String)
  | invalidAnnotations (fault : AnnotationFault)
  | resourceNotFound (kind : ResourceKind) (ns name : String)
  | invalidResource (kind : ResourceKind) (ns name : String) (fault : ResourceFault)
  | invalidConfig (fault : ConfigFault)
  | unknownPlugin (plugin : String)
  | binaryMissing (plugin directories : String)
  | delegateFailed (plugin interface : String) (report : CniError)
  | patchFailed (fault : PatchFault)
  | cluster (fault : ApiFault)
  /-- A document could not be decoded. -/
  | undecodable
  | io (fault : IoFault)
  deriving Repr, DecidableEq

namespace Failure

/-- The wording of a failure. -/
def message : Failure → String
  | invalidEnvelope fault => "Invalid CNI envelope: " ++ fault.message
  | podNotFound ns name => "Pod not found: " ++ ns ++ "/" ++ name
  | invalidAnnotations fault => "Invalid annotation: " ++ fault.message
  | resourceNotFound kind ns name =>
    kind.name ++ " not found: " ++ ns ++ "/" ++ name
  | invalidResource kind ns name fault =>
    "Invalid " ++ kind.name ++ " " ++ ns ++ "/" ++ name ++ ": " ++ fault.message
  | invalidConfig fault => "Invalid CNI configuration: " ++ fault.message
  | unknownPlugin plugin => "Unknown plugin: " ++ plugin
  | binaryMissing plugin directories =>
    "Plugin binary missing: " ++ plugin ++ " not found in " ++ directories
  | delegateFailed plugin interface report =>
    "Delegate " ++ plugin ++ " failed for interface " ++ interface ++ ": " ++ report.msg
  | patchFailed fault => "Pod status patch failed: " ++ fault.message
  | cluster fault => "Kubernetes error: " ++ fault.message
  | undecodable => "Serialization error: malformed document"
  | io fault => "I/O error: " ++ fault.message

/-- The code and the short message that a failure of the program itself is reported with. -/
def summary : Failure → ErrorCode × String
  | invalidEnvelope _ => (.invalidEnvironment, "invalid CNI invocation")
  | podNotFound _ _ => (.podNotFound, "pod not found")
  | invalidAnnotations _ => (.invalidAnnotations, "invalid pod network annotation")
  | resourceNotFound _ _ _ => (.resourceNotFound, "network resource not found")
  | invalidResource _ _ _ _ => (.invalidResource, "invalid network resource")
  | invalidConfig _ => (.invalidConfig, "invalid CNI configuration")
  | unknownPlugin _ => (.unknownPlugin, "unknown plugin")
  | binaryMissing _ _ => (.binaryMissing, "plugin binary missing")
  | delegateFailed _ _ _ => (.delegateFailed, "delegate failed")
  | patchFailed _ => (.patchFailed, "pod status patch failed")
  | cluster _ => (.tryAgainLater, "kubernetes API error")
  | undecodable => (.decodingFailure, "failed to decode content")
  | io _ => (.ioFailure, "I/O failure")

/-- How the failure is reported: a plugin's own report as it is, any other failure with its wording
as details. -/
def report (f : Failure) : CniError :=
  match f with
  | delegateFailed _ _ report => report
  | _ => CniError.ofCode f.summary.1 f.summary.2 (some f.message)

/-- Is the failure a plugin's report that the container is gone already? -/
def isUnknownContainer : Failure → Bool
  | delegateFailed _ _ report => report.isUnknownContainer
  | _ => false

end Failure

end PodNet
