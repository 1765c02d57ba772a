import PodNet.Json.Document
import PodNet.Json.Printer

/-!
# Error reports

A plugin that fails prints a report: a numeric code, a message and perhaps details. The codes up to
99 are those of the plugin interface, the codes from 100 on are this program's own. A report that a
delegated plugin printed is handed on as it is, so its code may be any number.
-/

namespace PodNet

/-- The codes that this program reports by itself. -/
inductive ErrorCode where
  | incompatibleVersion
  | unsupportedField
  | unknownContainer
  | invalidEnvironment
  | ioFailure
  | decodingFailure
  | invalidConfig
  | tryAgainLater
  | podNotFound
  | invalidAnnotations
  | resourceNotFound
  | invalidResource
  | unknownPlugin
  | binaryMissing
  | patchFailed
  | delegateFailed
  deriving Repr, DecidableEq

/-- The number of a code. -/
def ErrorCode.number : ErrorCode → Nat
  | incompatibleVersion => 1
  | unsupportedField => 2
  | unknownContainer => 3
  | invalidEnvironment => 4
  | ioFailure => 5
  | decodingFailure => 6
  | invalidConfig => 7
  | tryAgainLater => 11
  | podNotFound => 100
  | invalidAnnotations => 101
  | resourceNotFound => 102
  | invalidResource => 103
  | unknownPlugin => 104
  | binaryMissing => 105
  | patchFailed => 106
  | delegateFailed => 107

/-- An error report. -/
structure CniError where
  code : Nat
  msg : String
  details : Option String
  deriving Repr, DecidableEq

namespace CniError

/-- A report with one of the program's own codes. -/
def ofCode (code : ErrorCode) (msg : String) (details : Option String) : CniError :=
  ⟨code.number, msg, details⟩

/-- Does the report say that the container is gone already? -/
def isUnknownContainer (e : CniError) : Bool :=
  e.code == ErrorCode.unknownContainer.number

/-- The report that a document holds. The code is a number of 32 bits. -/
def ofDocument? (d : Json.Document) : Option CniError := do
  let [code, msg, details] ← d.record? [["code"], ["msg"], ["details"]] | none
  return {
    code := ← Json.Document.required (Json.Document.nat? 32) code
    msg := ← Json.Document.required Json.Document.text? msg
    details := ← Json.Document.withDefault none Json.Document.textOrNull? details }

/-- The report that a plugin printed. -/
def ofBytes? (b : Bytes) : Option CniError :=
  (Json.Document.read? b).bind ofDocument?

/-- The report as a record: code, message and, if there are any, details. -/
def toJson (e : CniError) : Json :=
  .obj ([("code", .nat e.code), ("msg", .str e.msg)] ++
    (e.details.map fun d => ("details", Json.str d)).toList)

/-- The object that a failing plugin prints, which also names the version of the interface. -/
def printed (e : CniError) (cniVersion : String) : Json :=
  .obj (Table.ofList ([("cniVersion", .str cniVersion), ("code", .nat e.code), ("msg", .str e.msg)] ++
    (e.details.map fun d => ("details", Json.str d)).toList))

end CniError

end PodNet
