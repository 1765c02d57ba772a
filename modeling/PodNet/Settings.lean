import PodNet.Failure

/-!
# Settings

The configuration that this program is handed on standard input is its own: how to reach the
cluster, where the configurations and binaries of the other plugins are, which plugin serves pods
that ask for nothing. Every field has a default, and keys that are not known are passed over.
-/

namespace PodNet

/-- How the API of the cluster is reached. -/
structure ClusterSettings where
  kubeconfig : Option String
  apiRoot : Option String
  deriving Repr, DecidableEq

/-- Credentials that are laid over the configuration of the cluster's API. -/
structure PolicySettings where
  apiRoot : Option String
  clientCertificate : Option String
  clientKey : Option String
  certificateAuthority : Option String
  authToken : Option String
  deriving Repr, DecidableEq

/-- The program's own configuration. -/
structure Settings where
  cniVersion : String
  name : String
  type : String
  /-- The plugin of pods without any networking annotation. -/
  defaultPlugin : Option String
  cluster : ClusterSettings
  policy : PolicySettings
  /-- The service that reports the traffic of the node's interfaces. -/
  usageAddress : Option String
  usageSamples : Nat
  networkDirectory : Option String
  binaryDirectory : Option String
  /-- Are built-in configurations written to the directory when they are first used? -/
  persistBuiltins : Bool
  deriving Repr, DecidableEq

/-- The version of the plugin interface where none is named. -/
def defaultCniVersion : String := "0.3.1"

/-- The version named by a text, which may be blank. -/
def cniVersionOr (version : String) : String :=
  (Text.nonBlank version).getD defaultCniVersion

namespace ClusterSettings

/-- No settings. -/
def empty : ClusterSettings := ⟨none, none⟩

/-- Reads the settings of a document. -/
def ofDocument? (d : Json.Document) : Option ClusterSettings := do
  let [kubeconfig, apiRoot] ← d.record? [["kubeconfig"], ["k8s_api_root"]] | none
  return {
    kubeconfig := ← Json.Document.withDefault none Json.Document.textOrNull? kubeconfig
    apiRoot := ← Json.Document.withDefault none Json.Document.textOrNull? apiRoot }

end ClusterSettings

/-- A member for a text that is there. -/
def optionalMember (key : String) (value : Option String) : List (String × Json) :=
  (value.map fun s => (key, Json.str s)).toList

namespace ClusterSettings

/-- The client's configuration file, unless it is blank. -/
def configFile (c : ClusterSettings) : Option String :=
  c.kubeconfig.bind Text.nonBlank

/-- The root of the API, unless it is blank. -/
def root (c : ClusterSettings) : Option String :=
  c.apiRoot.bind Text.nonBlank

/-- The settings as a record. -/
def toJson (c : ClusterSettings) : Json :=
  .obj (optionalMember "kubeconfig" c.kubeconfig ++ optionalMember "k8s_api_root" c.apiRoot)

end ClusterSettings

namespace PolicySettings

/-- No settings. -/
def empty : PolicySettings := ⟨none, none, none, none, none⟩

/-- Reads the settings of a document. -/
def ofDocument? (d : Json.Document) : Option PolicySettings := do
  let [apiRoot, certificate, key, authority, token] ← d.record?
    [["k8s_api_root"], ["k8s_client_certificate"], ["k8s_client_key"],
     ["k8s_certificate_authority"], ["k8s_auth_token"]] | none
  return {
    apiRoot := ← Json.Document.withDefault none Json.Document.textOrNull? apiRoot
    clientCertificate := ← Json.Document.withDefault none Json.Document.textOrNull? certificate
    clientKey := ← Json.Document.withDefault none Json.Document.textOrNull? key
    certificateAuthority := ← Json.Document.withDefault none Json.Document.textOrNull? authority
    authToken := ← Json.Document.withDefault none Json.Document.textOrNull? token }

/-- The settings as a record. -/
def toJson (p : PolicySettings) : Json :=
  .obj (optionalMember "k8s_api_root" p.apiRoot ++
    optionalMember "k8s_client_certificate" p.clientCertificate ++
    optionalMember "k8s_client_key" p.clientKey ++
    optionalMember "k8s_certificate_authority" p.certificateAuthority ++
    optionalMember "k8s_auth_token" p.authToken)

/-- The file with the client's certificate, unless it is blank. -/
def certificate (p : PolicySettings) : Option String :=
  p.clientCertificate.bind Text.nonBlank

/-- The file with the client's key, unless it is blank. -/
def key (p : PolicySettings) : Option String :=
  p.clientKey.bind Text.nonBlank

/-- The file with the certificates to trust, unless it is blank. -/
def authority (p : PolicySettings) : Option String :=
  p.certificateAuthority.bind Text.nonBlank

/-- The token, unless it is blank. -/
def token (p : PolicySettings) : Option String :=
  p.authToken.bind Text.nonBlank

/-- The root of the API, without the path of a version of it. -/
def root (p : PolicySettings) : Option String :=
  (p.apiRoot.bind Text.nonBlank).map fun root => (Text.before "/api/" root).getD root

end PolicySettings

namespace Settings

/-- The settings of an installation that sets nothing. -/
def default : Settings where
  cniVersion := defaultCniVersion
  name := "genie"
  type := "genie"
  defaultPlugin := none
  cluster := .empty
  policy := .empty
  usageAddress := none
  usageSamples := 10
  networkDirectory := none
  binaryDirectory := none
  persistBuiltins := true

/-- Reads the settings of a document. -/
def ofDocument? (d : Json.Document) : Option Settings := do
  let [cniVersion, name, type, defaultPlugin, cluster, policy, usageAddress, usageSamples, networks,
    binaries, persist] ← d.record?
      [["cniVersion"], ["name"], ["type"], ["default_plugin"], ["kubernetes"], ["policy"],
       ["cadvisor_addr"], ["cadvisor_num_stats"], ["cni_net_dir"], ["cni_bin_dir"],
       ["persist_synthesized_configs"]] | none
  return {
    cniVersion := ← Json.Document.withDefault "" Json.Document.text? cniVersion
    name := ← Json.Document.withDefault "" Json.Document.text? name
    type := ← Json.Document.withDefault "" Json.Document.text? type
    defaultPlugin := ← Json.Document.withDefault none Json.Document.textOrNull? defaultPlugin
    cluster := ← Json.Document.withDefault .empty ClusterSettings.ofDocument? cluster
    policy := ← Json.Document.withDefault .empty PolicySettings.ofDocument? policy
    usageAddress := ← Json.Document.withDefault none Json.Document.textOrNull? usageAddress
    usageSamples := ← Json.Document.withDefault 10 (Json.Document.nat? 32) usageSamples
    networkDirectory := ← Json.Document.withDefault none Json.Document.textOrNull? networks
    binaryDirectory := ← Json.Document.withDefault none Json.Document.textOrNull? binaries
    persistBuiltins := ← Json.Document.withDefault true Json.Document.bool? persist }

/-- Reads the settings that the program is handed; a blank version stands for the default one. -/
def parse (b : Bytes) : Except Failure Settings :=
  match (Json.Document.read? b).bind ofDocument? with
  | none => .error (.invalidEnvelope .badSettings)
  | some s =>
    .ok (if Text.nonBlank s.cniVersion = none then { s with cniVersion := defaultCniVersion } else s)

/-- The settings as a record. -/
def toJson (s : Settings) : Json :=
  .obj ([("cniVersion", .str s.cniVersion), ("name", .str s.name), ("type", .str s.type)] ++
    optionalMember "default_plugin" s.defaultPlugin ++
    [("kubernetes", s.cluster.toJson), ("policy", s.policy.toJson)] ++
    optionalMember "cadvisor_addr" s.usageAddress ++
    [("cadvisor_num_stats", .nat s.usageSamples)] ++
    optionalMember "cni_net_dir" s.networkDirectory ++
    optionalMember "cni_bin_dir" s.binaryDirectory ++
    [("persist_synthesized_configs", .bool s.persistBuiltins)])

/-- The plugin of pods that ask for nothing. -/
def pluginOrDefault (s : Settings) : String :=
  (s.defaultPlugin.bind Text.nonBlank).getD "weave"

/-- The directory of network configurations. -/
def networks (s : Settings) : String :=
  s.networkDirectory.getD "/etc/cni/net.d"

/-- The directory of plugin binaries. -/
def binaries (s : Settings) : String :=
  s.binaryDirectory.getD "/opt/cni/bin"

/-- The address of the service that reports traffic, if one is set. -/
def usageService (s : Settings) : Option String :=
  s.usageAddress.bind Text.nonBlank

end Settings

end PodNet
