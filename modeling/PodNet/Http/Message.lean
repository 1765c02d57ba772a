import PodNet.Text.Split
import PodNet.Text.Utf8

/-!
# Messages

Requests to services and their answers, as far as this program needs them. A service is what answers
requests; one that cannot be reached gives no answer. Not every answer that a service sends comes
through as it was sent: see `Response.received`.
-/

namespace PodNet.Http

/-- Where a service is reached. -/
structure Endpoint where
  scheme : String
  host : String
  port : Nat
  deriving Repr, DecidableEq

/-- The port at which services of a scheme are reached by default. -/
def defaultPort (scheme : String) : Nat :=
  if scheme = "https" then 443 else 80

/-- May the text be the value of a header? It holds no control, tabs aside. -/
def isHeaderValue (s : String) : Bool :=
  s.toList.all fun c => c == '\t' || (0x20 ≤ c.toNat && c.toNat ≠ 0x7f)

/-- A request. -/
structure Request where
  method : String
  /-- The service that it goes to, unless that is understood. -/
  endpoint : Option Endpoint
  /-- The path with the query, if there is one. -/
  target : String
  contentType : Option String
  body : Bytes
  deriving Repr, DecidableEq

/-- An answer. -/
structure Response where
  status : Nat
  body : Bytes
  deriving Repr, DecidableEq

/-- The answer as it comes through. Codes below 200 announce another answer, which never comes; with
101 and with those that have no content, no content comes through. -/
def Response.received (r : Response) : Option Response :=
  if r.status = 101 ∨ r.status = 204 ∨ r.status = 304 then some { r with body := [] }
  else if r.status < 200 then none
  else some r

/-- Does the answer signal an error? -/
def Response.isError (r : Response) : Bool :=
  400 ≤ r.status && r.status < 600

/-- The path of a request, without the query. -/
def Request.path (r : Request) : String :=
  let path := ((Text.cut '?' r.target).map (·.1)).getD r.target
  if path = "" then "/" else path

/-- What answers requests, if it can be reached. -/
abbrev Service := Request → Option Response

end PodNet.Http
