import PodNet.Settings

/-!
# Name service settings

The name service that a network brings along, as plugins report it and as it is shown in the status
of a pod. Empty parts are not written.
-/

namespace PodNet

/-- The name service of a network. -/
structure Dns where
  nameservers : List String
  domain : Option String
  search : List String
  options : List String
  deriving Repr, DecidableEq

/-- A member for a list of texts that is not empty. -/
def listMember (key : String) (l : List String) : List (String × Json) :=
  if l.isEmpty then [] else [(key, Json.strings l)]

/-- A member for a text that is not empty. -/
def textMember (key s : String) : List (String × Json) :=
  if s = "" then [] else [(key, .str s)]

namespace Dns

/-- No settings. -/
def empty : Dns := ⟨[], none, [], []⟩

/-- Are there no settings? -/
def isEmpty (d : Dns) : Bool :=
  d.nameservers.isEmpty && d.domain.isNone && d.search.isEmpty && d.options.isEmpty

/-- A list of texts. -/
def texts? : Json.Document → Option (List String) :=
  Json.Document.list? Json.Document.text?

/-- Reads the settings of a document. -/
def ofDocument? (d : Json.Document) : Option Dns := do
  let [nameservers, domain, search, options] ← d.record?
    [["nameservers"], ["domain"], ["search"], ["options"]] | none
  return {
    nameservers := ← Json.Document.withDefault [] texts? nameservers
    domain := ← Json.Document.withDefault none Json.Document.textOrNull? domain
    search := ← Json.Document.withDefault [] texts? search
    options := ← Json.Document.withDefault [] texts? options }

/-- The settings as a record. -/
def toJson (d : Dns) : Json :=
  .obj (listMember "nameservers" d.nameservers ++ optionalMember "domain" d.domain ++
    listMember "search" d.search ++ listMember "options" d.options)

/-- The member under the key of the settings, unless they are empty. -/
def member (d : Dns) : List (String × Json) :=
  if d.isEmpty then [] else [("dns", d.toJson)]

end Dns

end PodNet
