import PodNet.Http.Uri
import PodNet.Kubernetes.Kubeconfig
import PodNet.Pem.Armor

/-!
# Configuration of the client

How the API of the cluster is reached. A configuration is that of nothing but an address, or what the
current context of a configuration file says, or what the files say that the environment names.
-/

namespace PodNet.Kubernetes

/-- How the API is reached. -/
structure ClientConfig where
  url : Http.Uri
  ns : String
  user : UserEntry
  /-- The certificates that are trusted, if not those of the system. -/
  rootCertificates : Option (List Bytes)
  /-- The name that the service is expected to show, if not its own. -/
  serverName : Option String
  deriving Repr, DecidableEq

namespace ClientConfig

/-- The configuration of an API that nothing but the address is known of. -/
def ofUrl (url : Http.Uri) : ClientConfig where
  url
  ns := "default"
  user := .unknown
  rootCertificates := none
  serverName := none

/-! ### From a configuration file -/

/-- The bytes that a file of a configuration stands for: given as data, or else in a file. -/
def dataOrFile? (fs : FileSystem) (data file : Option String) : Option Bytes :=
  match data, file with
  | some data, _ => Text.Base64.decodeStrict? (Bytes.ofString data)
  | none, some path => (fs.readFile path).toOption
  | none, none => none

/-- The certificates of the authority of a cluster. -/
def authority? (fs : FileSystem) (c : ClusterEntry) : Option (Option (List Bytes)) :=
  if c.authorityData.isNone && c.authorityFile.isNone then some none
  else ((dataOrFile? fs c.authorityData c.authorityFile).bind Pem.Armor.certificates?).map some

/-- The variables of the environment that name what connections go through. -/
def proxyNames : List String :=
  ["HTTP_PROXY", "http_proxy", "HTTPS_PROXY", "https_proxy"]

/-- What connections go through, if a cluster or the environment names something. -/
def proxy (lookup : String → Option String) (c : ClusterEntry) : Option String :=
  (c.proxy :: proxyNames.map lookup).findSome? fun s => s.filter (· != "")

/-- The configuration that the current context of a file says. -/
def ofKubeconfig? (lookup : String → Option String) (fs : FileSystem) (k : Kubeconfig) :
    Option ClientConfig := do
  let current ← k.currentContext
  let context ← (k.contexts.lookup current).join
  let cluster ← (k.clusters.lookup context.cluster).join
  let user ← (k.users.lookup context.user).join
  if (proxy lookup cluster).any fun s => (Http.Uri.parse? s).isNone then none
  return {
    url := ← Http.Uri.parse? (← cluster.server)
    ns := context.ns.getD "default"
    user
    rootCertificates := ← authority? fs cluster
    serverName := cluster.serverName }

/-- The files that the environment names, or the one in the home directory. -/
def environmentFiles (lookup : String → Option String) : List String :=
  let named := (Text.split ':' ((lookup "KUBECONFIG").getD "")).filter (· != "")
  if named.isEmpty then
    ((lookup "HOME").map fun home => Path.join home ".kube/config").toList
  else named

/-- The variables of the environment that change a configuration it led to. -/
def overrideNames : List String :=
  ["KUBE_RS_DEBUG_OVERRIDE_URL", "KUBE_RS_DEBUG_IMPERSONATE_USER",
   "KUBE_RS_DEBUG_IMPERSONATE_GROUP"]

/-- The configuration with what the environment changes in it. An address that cannot be read changes
nothing. -/
def overridden (lookup : String → Option String) (c : ClientConfig) : ClientConfig :=
  match overrideNames.map lookup with
  | [url, user, groups] =>
    { c with
      url := (url.bind Http.Uri.parse?).getD c.url
      user := { c.user with
        actsAs := user.or c.user.actsAs
        groups := (groups.map (Text.split ',')).getD c.user.groups } }
  | _ => c

/-- The configuration that the environment leads to. -/
def ofEnvironment? (lookup : String → Option String) (fs : FileSystem) : Option ClientConfig :=
  let files := environmentFiles lookup
  if files.isEmpty then none
  else
    ((Kubeconfig.loadAll? fs files).bind (ofKubeconfig? lookup fs)).map (overridden lookup)

end ClientConfig

end PodNet.Kubernetes
