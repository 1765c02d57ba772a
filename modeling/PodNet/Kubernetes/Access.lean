import PodNet.Kubernetes.Library
import PodNet.Settings

/-!
# Access to the cluster

How the settings say that the API is reached. The base is a configuration file that the settings name,
else the root of the API among the policy settings, else what the library finds. The policy settings
are laid over that, and a root among the cluster settings has the last word. Of that the library makes
a client.
-/

namespace PodNet.Kubernetes

/-- Why the API cannot be reached, with what went wrong. -/
inductive ClientFault where
  | unreadableFile (path : String) (trouble : Trouble)
  | badFile (path : String) (trouble : Trouble)
  | badRoot (root : String) (trouble : Trouble)
  | nothingFound (trouble : Trouble)
  | unreadableAuthority (path : String) (fault : IoFault)
  | badAuthority (trouble : Trouble)
  | emptyAuthority
  /-- There is a configuration, but no client can be made of it. -/
  | noClient (trouble : Trouble)
  deriving Repr, DecidableEq

namespace ClientFault

/-- What went wrong in the library. -/
def trouble? : ClientFault → Option Trouble
  | unreadableFile _ trouble | badFile _ trouble | badRoot _ trouble | nothingFound trouble
  | badAuthority trouble | noClient trouble => some trouble
  | unreadableAuthority _ _ | emptyAuthority => none

/-- Does the whole program end at once? -/
def aborts (f : ClientFault) : Bool :=
  f.trouble? == some .abort

/-- The wording of a fault. -/
def message : ClientFault → String
  | unreadableFile path _ => "failed to read kubeconfig " ++ path
  | badFile path _ => "invalid kubeconfig " ++ path
  | badRoot root _ => "invalid API root " ++ root
  | nothingFound _ => "no kubeconfig given and no cluster configuration found"
  | unreadableAuthority path _ => "failed to read CA " ++ path
  | badAuthority trouble => "failed to parse certificates: " ++ trouble.text
  | emptyAuthority => "no certificates in CA bundle"
  | noClient trouble => trouble.text

/-- The wording of what led to the fault, unless that of the fault says it. -/
def cause? : ClientFault → Option String
  | unreadableFile _ trouble | badFile _ trouble | badRoot _ trouble | nothingFound trouble =>
    some trouble.text
  | unreadableAuthority _ fault => some fault.message
  | badAuthority _ | emptyAuthority | noClient _ => none

/-- The fault with what led to it. -/
def details (f : ClientFault) : String :=
  Text.join ": " (f.message :: f.cause?.toList)

end ClientFault

namespace ClientConfig

variable (library : Library)

/-- Reads the root of an API. -/
def rootUri (root : String) : Except ClientFault Http.Uri :=
  (library.address root).mapError (.badRoot root)

/-- The configuration that all others are laid over. -/
def base (s : Settings) (lookup : String → Option String) (fs : FileSystem) :
    Except ClientFault ClientConfig :=
  match s.cluster.configFile, s.policy.root with
  | some path, _ => do
    let k ← (library.load fs path).mapError (.unreadableFile path)
    (library.ofKubeconfig lookup fs k).mapError (.badFile path)
  | none, some root => (rootUri library root).map ofUrl
  | none, none => (library.infer lookup fs).mapError .nothingFound

/-- The certificates of a bundle. -/
def bundle (fs : FileSystem) (path : String) : Except ClientFault (List Bytes) := do
  let content ← (fs.readFile path).mapError (.unreadableAuthority path)
  match ← (library.certificates content).mapError .badAuthority with
  | [] => .error .emptyAuthority
  | certificates => .ok certificates

/-- The configuration with another root of the API, if one is given. -/
def withRoot (root : Option String) (c : ClientConfig) : Except ClientFault ClientConfig :=
  match root with
  | some root => (rootUri library root).map fun url => { c with url }
  | none => .ok c

/-- The configuration with the certificates of a bundle, if one is given. -/
def withBundle (fs : FileSystem) (path : Option String) (c : ClientConfig) :
    Except ClientFault ClientConfig :=
  match path with
  | some path => (bundle library fs path).map fun l => { c with rootCertificates := some l }
  | none => .ok c

/-- The user with the credentials that the policy gives. -/
def userWith (s : Settings) (u : UserEntry) : UserEntry :=
  { u with
    certificateFile := s.policy.certificate.or u.certificateFile
    keyFile := s.policy.key.or u.keyFile
    token := s.policy.token.or u.token }

/-- The configuration that the settings and the environment ask for. -/
def ofSettings (s : Settings) (lookup : String → Option String) (fs : FileSystem)
    (library : Library := .files) : Except ClientFault ClientConfig := do
  let c ← base library s lookup fs
  let c ← c.withRoot library s.policy.root
  let c ← c.withBundle library fs s.policy.authority
  { c with user := userWith s c.user }.withRoot library s.cluster.root

end ClientConfig

/-- The client that the settings and the environment ask for. -/
def Client.ofSettings (library : Library) (s : Settings) (lookup : String → Option String)
    (fs : FileSystem) : Except ClientFault Client := do
  let c ← ClientConfig.ofSettings s lookup fs library
  (library.client lookup fs c).mapError .noClient

end PodNet.Kubernetes
