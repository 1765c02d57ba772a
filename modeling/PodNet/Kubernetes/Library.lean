import PodNet.Kubernetes.Client
import PodNet.Pem.Lines

/-!
# Libraries for clients

Clients are made with a library, and what it does is not up to this program: how it reads addresses,
configuration files and certificates, where it looks for a configuration if none is given, and how it
finds out who the user is. It may look at the environment and the files, at what the cluster gives to
those that run in it, run a command, or ask another service. So a library is a parameter
(`Kubernetes.Library`), and what is said about the program is said for every library.

`Library.files` is a library for nodes outside of the cluster: it knows the environment and the files
only, and refuses users who would have to be asked for.
-/

namespace PodNet.Kubernetes

/-- **What clients are made with.** -/
structure Library where
  /-- Reads an address. -/
  address : String → Except Trouble Http.Uri
  /-- Loads a configuration file. -/
  load : FileSystem → String → Except Trouble Kubeconfig
  /-- What the current context of a configuration file says. -/
  ofKubeconfig : (String → Option String) → FileSystem → Kubeconfig → Except Trouble ClientConfig
  /-- Finds a configuration if none is given. -/
  infer : (String → Option String) → FileSystem → Except Trouble ClientConfig
  /-- Reads the certificates of a bundle. -/
  certificates : Bytes → Except Trouble (List Bytes)
  /-- Makes a client. -/
  client : (String → Option String) → FileSystem → ClientConfig → Except Trouble Client

namespace Library

/-- What was read, or a trouble. -/
def readOr {α : Type} (text : String) (read : Option α) : Except Trouble α :=
  match read with
  | some a => .ok a
  | none => .error (.told text)

/-- A library that knows the environment and the files only. -/
def files : Library where
  address text := readOr "malformed address" (Http.Uri.parse? text)
  load fs path := readOr "malformed file" (Kubeconfig.load? fs path)
  ofKubeconfig lookup fs k := readOr "malformed context" (ClientConfig.ofKubeconfig? lookup fs k)
  infer lookup fs := readOr "no file is named" (ClientConfig.ofEnvironment? lookup fs)
  certificates content := readOr "malformed section" (Pem.Lines.certificates? content)
  client _ fs c := Client.ofConfig fs c

end Library

end PodNet.Kubernetes
