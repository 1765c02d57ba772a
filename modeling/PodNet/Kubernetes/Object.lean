import PodNet.Kubernetes.PodShape
import PodNet.Resource

/-!
# Objects of the API

What the API of the cluster answers with: pods, custom resources, lists of them, and reports of
errors. Objects of the API proper have a shape, in which a key may be repeated and the last one
counts; custom resources and reports are records, whose fields must not be repeated.
-/

namespace PodNet.Kubernetes

open Json (Document)

/-- Reads a pod. -/
def pod? (d : Document) : Option Pod :=
  if Shape.pod d then
    let metadata := (lastValue "metadata" d).getD .null
    some ⟨textUnder "name" metadata, textTableUnder "annotations" metadata⟩
  else none

/-- Reads a document that must fit a shape. -/
def ofShape? (shape : Shape) (d : Document) : Option Document :=
  if shape d then some d else none

/-- Reads a custom resource with the reader for its specification. -/
def resource? {α : Type} (ofSpec? : Option String → Document → Option α) (d : Document) :
    Option α := do
  let [metadata, spec] ← d.record? [["metadata"], ["spec"]] | none
  let metadata ← Document.required (ofShape? Shape.metadata) metadata
  Document.required (ofSpec? (textUnder "name" metadata)) spec

/-- A list, or null for an empty one. -/
def listOrNull? {α : Type} (read : Document → Option α) : Document → Option (List α)
  | .null => some []
  | d => d.list? read

/-- Reads a list of custom resources. Members that are not known are kept, so that they must be
values. -/
def resourceList? {α : Type} (ofSpec? : Option String → Document → Option α) (d : Document) :
    Option (List α) :=
  match d with
  | .obj members => do
    let [metadata, items] ← d.record? [["metadata"], ["items"]] | none
    let others := members.filter fun m => !(m.1.any ["metadata", "items"].contains)
    let _ ← Document.membersToJson? (Document.maxDepth - 1) others
    let _ ← Document.withDefault .null (ofShape? Shape.listMetadata) metadata
    Document.required (listOrNull? (resource? ofSpec?)) items
  | _ => none

/-- Reads the code of a report of an error. -/
def errorCode? (d : Document) : Option Nat := do
  let [status, message, reason, code] ← d.record?
    [["status"], ["message"], ["reason"], ["code"]] | none
  let _ ← Document.required Document.text? status
  let _ ← Document.withDefault "" Document.text? message
  let _ ← Document.withDefault "" Document.text? reason
  Document.required (Document.nat? 16) code

end PodNet.Kubernetes
