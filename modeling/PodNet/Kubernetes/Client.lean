import PodNet.Kubernetes.Api
import PodNet.Kubernetes.ClientConfig
import PodNet.Task
import PodNet.Tls.Identity

/-!
# Clients

A client is made of a configuration: it knows the base of the API and whether it can show who it is.
Making one may fail, because nothing says who the user is, because certificates or names are
malformed, or because something cannot stand in a header. A token that is read from a file is looked
at late: if it cannot stand in a header, there is a client, but none of its requests is ever sent.
-/

namespace PodNet.Kubernetes

/-- What goes wrong while a client is made: something that a text says, or so much that the whole program
ends at once, without a report. -/
inductive Trouble where
  | told (text : String)
  | abort
  deriving Repr, DecidableEq

/-- The text that says it. -/
def Trouble.text : Trouble → String
  | told text => text
  | abort => ""

/-- A client of the API. -/
structure Client where
  base : Http.Uri
  /-- Can what shows who the user is be sent? -/
  sends : Bool
  deriving Repr, DecidableEq

namespace Client

/-! ### Who the user is -/

/-- What a request says about the user. -/
inductive Authorization where
  | nothing
  | password
  | token (token : String)
  /-- A token from a file. -/
  | fileToken (token : String)
  deriving Repr, DecidableEq

/-- The token that another service has given. Only a token that the file of configuration holds is
used; no service is asked and no command is run. -/
def providedToken? (p : Provider) : Option String :=
  if p.name = "oidc" ∨ p.name = "gcp" then Table.get? "id-token" p.config else none

/-- Nothing says who the user is, though something should. -/
def unknownUser : Trouble := .told "auth error: no credentials"

/-- What requests say about a user. Another service comes first, then name and password, a token, a
token in a file, and a command, which is not run. -/
def authorization (fs : FileSystem) (u : UserEntry) : Except Trouble Authorization :=
  match u.provider with
  | some p =>
    match providedToken? p with
    | some token => .ok (.token token)
    | none => .error unknownUser
  | none =>
    if u.username.isSome && u.password.isSome then .ok .password
    else
      match u.token, u.tokenFile with
      | some token, _ => .ok (.token token)
      | none, some path =>
        match (fs.readFile path).toOption.bind Bytes.toString? with
        | some token => .ok (.fileToken token)
        | none => .error unknownUser
      | none, none => if u.hasCommand then .error unknownUser else .ok .nothing

/-! ### Certificates and names -/

/-- The bytes, with a line feed at the end unless they are empty or have one. -/
def endLine (b : Bytes) : Bytes :=
  if b.isEmpty || b.getLast? == some 10 then b else b ++ [10]

/-- The text of the identity of a user, if key and certificate can both be read. -/
def identity? (fs : FileSystem) (u : UserEntry) : Option Bytes := do
  let key ← ClientConfig.dataOrFile? fs u.keyData u.keyFile
  let certificate ← ClientConfig.dataOrFile? fs u.certificateData u.certificateFile
  return endLine key ++ endLine certificate

/-- Refuses certificates and names that no connection can be made with. -/
def checkTls (fs : FileSystem) (c : ClientConfig) : Except Trouble Unit :=
  if !(c.rootCertificates.getD []).all Tls.Certificate.isAnchor then
    .error (.told "rustls tls error: malformed certificate")
  else if (identity? fs c.user).any fun text => !Tls.isIdentity text then
    .error (.told "rustls tls error: malformed identity")
  else if c.serverName.any fun name => !Tls.isServiceName name then
    .error (.told "rustls tls error: malformed server name")
  else .ok ()

/-! ### Making one -/

/-- The client that a configuration makes. A token that cannot stand in a header ends everything. -/
def ofConfig (fs : FileSystem) (c : ClientConfig) : Except Trouble Client := do
  let a ← authorization fs c.user
  if let .token token := a then
    if !Http.isHeaderValue token then .error .abort
  checkTls fs c
  if !(c.user.actsAs.toList ++ c.user.groups).all Http.isHeaderValue then
    .error (.told "HttpError: malformed header")
  match a with
  | .fileToken token => return ⟨c.url, Http.isHeaderValue token⟩
  | _ => return ⟨c.url, true⟩

/-! ### Use -/

/-- What answers the requests of a client. -/
def service (c : Client) (service : Http.Service) : Http.Service :=
  if c.sends then throughService c.base service else fun _ => none

/-- The requests that an event makes to the API. -/
def requests (c : Client) (event : Event) : List Http.Request :=
  let request := match event with
    | .queried q => requestOf? q
    | .patched ns name annotations _ => patchRequest? ns name annotations
    | _ => none
  if c.sends then (request.map (through c.base)).toList else []

end Client

end PodNet.Kubernetes
