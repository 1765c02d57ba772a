import PodNet.FileSystem.Basic
import PodNet.Kubernetes.Shape
import PodNet.Text.Utf16
import PodNet.Yaml.Reader

/-!
# Configuration files of clients

A configuration file of a client of the API lists clusters, users, and contexts that bring a cluster
and a user together, and says which context is the current one. Paths in a file are relative to its
directory. Several files are merged: what an earlier file says wins.
-/

namespace PodNet.Kubernetes

open Json (Document)

/-- A cluster of a configuration file. -/
structure ClusterEntry where
  server : Option String
  authorityFile : Option String
  authorityData : Option String
  /-- What connections to the cluster go through. -/
  proxy : Option String
  /-- The name that the cluster is expected to show. -/
  serverName : Option String
  deriving Repr, DecidableEq

/-- Another service that says who the user is: its name, and how it is asked. -/
structure Provider where
  name : String
  config : Table String
  deriving Repr, DecidableEq

/-- A user of a configuration file. -/
structure UserEntry where
  username : Option String
  password : Option String
  token : Option String
  tokenFile : Option String
  certificateFile : Option String
  certificateData : Option String
  keyFile : Option String
  keyData : Option String
  /-- The user that is acted for, and the groups. -/
  actsAs : Option String
  groups : List String
  provider : Option Provider
  /-- Does a command say who the user is? -/
  hasCommand : Bool
  deriving Repr, DecidableEq

/-- A user of whom nothing is known. -/
def UserEntry.unknown : UserEntry :=
  ⟨none, none, none, none, none, none, none, none, none, [], none, false⟩

/-- A context of a configuration file. -/
structure ContextEntry where
  cluster : String
  user : String
  ns : Option String
  deriving Repr, DecidableEq

/-- A configuration file. -/
structure Kubeconfig where
  kind : Option String
  apiVersion : Option String
  clusters : List (String × Option ClusterEntry)
  users : List (String × Option UserEntry)
  contexts : List (String × Option ContextEntry)
  currentContext : Option String
  deriving Repr, DecidableEq

/-! ### Shapes -/

namespace Shape

/-- Extensions, each with a name and any value. -/
def extensions : Shape :=
  list (having [("name", text), ("extension", fun _ => true)])

/-- A list of things under a key, each with a name. -/
def named (key : String) (item : Shape) : Shape :=
  list (both (having [("name", text)]) (record [(key, item)]))

/-- A cluster of a configuration file. -/
def clusterEntry : Shape :=
  record (texts ["server", "certificate-authority", "certificate-authority-data", "proxy-url",
      "tls-server-name"] ++
    bools ["insecure-skip-tls-verify", "disable-compression"] ++ [("extensions", extensions)])

/-- A service that says who a user is. -/
def provider : Shape :=
  both (having [("name", text)]) (record [("config", table text)])

/-- How a command talks with a person. -/
def interactiveMode : Shape := fun d =>
  ["Never", "IfAvailable", "Always"].any fun mode => exactly mode d

/-- A command that says who a user is. -/
def userCommand : Shape :=
  both (object [("provideClusterInfo", bool)])
    (record (texts ["apiVersion", "command"] ++ textLists ["args"] ++
      [("env", list (optional (table text))), ("interactiveMode", interactiveMode)]))

/-- A user of a configuration file. -/
def userEntry : Shape :=
  record (texts ["username", "password", "token", "tokenFile", "client-certificate",
      "client-certificate-data", "client-key", "client-key-data", "as"] ++
    textLists ["as-groups"] ++ [("auth-provider", provider), ("exec", userCommand)])

/-- A context of a configuration file. -/
def contextEntry : Shape :=
  both (having [("cluster", text), ("user", text)])
    (record [("namespace", text), ("extensions", extensions)])

/-- A configuration file. -/
def kubeconfig : Shape :=
  record (texts ["kind", "apiVersion", "current-context"] ++
    [("preferences", record (("colors", bool) :: [("extensions", extensions)])),
      ("extensions", extensions), ("clusters", named "cluster" clusterEntry),
      ("users", named "user" userEntry), ("contexts", named "context" contextEntry)])

end Shape

namespace Kubeconfig

/-- A file that says nothing. -/
def empty : Kubeconfig := ⟨none, none, [], [], [], none⟩

/-! ### Reading -/

/-- The cluster that a document of its shape says. -/
def clusterEntry (d : Document) : ClusterEntry where
  server := textUnder "server" d
  authorityFile := textUnder "certificate-authority" d
  authorityData := textUnder "certificate-authority-data" d
  proxy := textUnder "proxy-url" d
  serverName := textUnder "tls-server-name" d

/-- The service that a document of its shape says. -/
def provider (d : Document) : Provider where
  name := (textUnder "name" d).getD ""
  config := (textTableUnder "config" d).getD []

/-- The user that a document of its shape says. -/
def userEntry (d : Document) : UserEntry where
  username := textUnder "username" d
  password := textUnder "password" d
  token := textUnder "token" d
  tokenFile := textUnder "tokenFile" d
  certificateFile := textUnder "client-certificate" d
  certificateData := textUnder "client-certificate-data" d
  keyFile := textUnder "client-key" d
  keyData := textUnder "client-key-data" d
  actsAs := textUnder "as" d
  groups := (textsUnder "as-groups" d).getD []
  provider := (lastValue "auth-provider" d).map provider
  hasCommand := (lastValue "exec" d).isSome

/-- The context that a document of its shape says. -/
def contextEntry (d : Document) : ContextEntry where
  cluster := (textUnder "cluster" d).getD ""
  user := (textUnder "user" d).getD ""
  ns := textUnder "namespace" d

/-- The entries of a list under a key, each with its name. -/
def entries {α : Type} (list key : String) (read : Document → α) (d : Document) :
    List (String × Option α) :=
  (itemsUnder list d).map fun item =>
    ((textUnder "name" item).getD "", (lastValue key item).map read)

/-- Reads a file of a document. Null says nothing. -/
def ofDocument? (d : Document) : Option Kubeconfig :=
  if Shape.optional Shape.kubeconfig d then
    some {
      kind := textUnder "kind" d
      apiVersion := textUnder "apiVersion" d
      clusters := entries "clusters" "cluster" clusterEntry d
      users := entries "users" "user" userEntry d
      contexts := entries "contexts" "context" contextEntry d
      currentContext := textUnder "current-context" d }
  else none

/-- Reads a file. -/
def ofBytes? (b : Bytes) : Option Kubeconfig :=
  ((Text.ofMarked? b).bind Yaml.read?).bind ofDocument?

/-! ### Paths -/

/-- The path of the directory of a file. -/
def directoryOf (path : String) : String :=
  (Path.parent? path).getD ""

/-- A path in a file, relative to the directory of the file. -/
def located (directory : String) (path : String) : String :=
  Path.join directory path

/-- The user with all paths relative to a directory. -/
def userIn (directory : String) (u : UserEntry) : UserEntry :=
  { u with
    tokenFile := u.tokenFile.map (located directory)
    certificateFile := u.certificateFile.map (located directory)
    keyFile := u.keyFile.map (located directory) }

/-- The file with all paths in it relative to a directory. -/
def locatedIn (directory : String) (k : Kubeconfig) : Kubeconfig :=
  { k with
    clusters := k.clusters.map fun e => (e.1, e.2.map fun c =>
      { c with authorityFile := c.authorityFile.map (located directory) })
    users := k.users.map fun e => (e.1, e.2.map (userIn directory)) }

/-- The files that the clusters and users of a file name. -/
def files (k : Kubeconfig) : List String :=
  (k.clusters.filterMap (·.2)).filterMap (·.authorityFile) ++
    (k.users.filterMap (·.2)).flatMap fun u =>
      u.tokenFile.toList ++ u.certificateFile.toList ++ u.keyFile.toList

/-- Loads a file. -/
def load? (fs : FileSystem) (path : String) : Option Kubeconfig :=
  match fs.readFile path with
  | .ok content => (ofBytes? content).map (locatedIn (directoryOf path))
  | .error _ => none

/-! ### Merging -/

/-- The entries, and those of the second list with new names. -/
def mergeEntries {α : Type} (a b : List (String × α)) : List (String × α) :=
  a ++ b.filter fun e => !a.any (·.1 == e.1)

/-- Do two texts differ that are both given? -/
def differ (a b : Option String) : Bool :=
  a.isSome && b.isSome && a != b

/-- What the first file says, and what the second one says in addition. Files of different kinds or
versions do not go together. -/
def merge? (a b : Kubeconfig) : Option Kubeconfig :=
  if differ a.kind b.kind || differ a.apiVersion b.apiVersion then none
  else
    some {
      kind := a.kind.or b.kind
      apiVersion := a.apiVersion.or b.apiVersion
      clusters := mergeEntries a.clusters b.clusters
      users := mergeEntries a.users b.users
      contexts := mergeEntries a.contexts b.contexts
      currentContext := a.currentContext.or b.currentContext }

/-- Loads files and merges them. -/
def loadAll? (fs : FileSystem) (paths : List String) : Option Kubeconfig :=
  paths.foldlM (fun k path => (load? fs path).bind k.merge?) empty

end Kubeconfig

end PodNet.Kubernetes
