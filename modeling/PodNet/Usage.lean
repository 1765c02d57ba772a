import PodNet.Http.Message
import PodNet.Json.Document
import PodNet.Text.Split

/-!
# Usage of networks

A service on the node reports how much traffic the interfaces of the host carried. An interface
belongs to every plugin whose name occurs in its own. Of the plugins with an interface the one with
the least traffic is chosen, the earliest of equal ones.
-/

namespace PodNet

/-- The traffic of an interface of the host, in bytes. -/
structure InterfaceTraffic where
  name : String
  received : Nat
  sent : Nat
  deriving Repr, DecidableEq

namespace InterfaceTraffic

/-- Reads the traffic of an interface. -/
def ofDocument? (d : Json.Document) : Option InterfaceTraffic := do
  let [name, received, sent] ← d.record? [["name"], ["rx_bytes"], ["tx_bytes"]] | none
  return {
    name := ← Json.Document.required Json.Document.text? name
    received := ← Json.Document.withDefault 0 (Json.Document.nat? 64) received
    sent := ← Json.Document.withDefault 0 (Json.Document.nat? 64) sent }

/-- Reads the traffic of several interfaces. -/
def listOfBytes? (b : Bytes) : Option (List InterfaceTraffic) :=
  (Json.Document.read? b).bind (Json.Document.list? ofDocument?)

/-- The bytes in both directions, at most as many as a counter of 64 bits can hold. -/
def total (i : InterfaceTraffic) : Nat :=
  min (i.received + i.sent) (UInt64.size - 1)

end InterfaceTraffic

namespace Usage

/-! ### Choosing -/

/-- The traffic of the interfaces, one charge for each plugin that an interface belongs to. -/
def charges (candidates : List String) (usage : List InterfaceTraffic) : List (String × Nat) :=
  usage.flatMap fun i =>
    (candidates.filter fun plugin => Text.occurs plugin i.name).map fun plugin => (plugin, i.total)

/-- The traffic of a plugin, if an interface belongs to it. It is kept in a word of 64 bits; what comes
of traffic that does not fit is left open. -/
def traffic? (candidates : List String) (usage : List InterfaceTraffic) (plugin : String) :
    Option Nat :=
  let own := (charges candidates usage).filter (·.1 == plugin)
  if own.isEmpty then none else some (own.foldr (fun e n => e.2 + n) 0)

/-- The earliest entry with the least number. -/
def least : List (String × Nat) → Option (String × Nat)
  | [] => none
  | e :: rest =>
    match least rest with
    | some best => if best.2 < e.2 then some best else some e
    | none => some e

/-- The plugin with the least traffic. -/
def leastUsed (candidates : List String) (usage : List InterfaceTraffic) : Option String :=
  (least (candidates.filterMap fun plugin =>
    (traffic? candidates usage plugin).map fun n => (plugin, n))).map (·.1)

/-! ### The report of the service -/

/-- Reads the part of a sample with the interfaces. -/
def network? (d : Json.Document) : Option (List InterfaceTraffic) := do
  let [interfaces] ← d.record? [["interfaces"]] | none
  Json.Document.withDefault [] (Json.Document.list? InterfaceTraffic.ofDocument?) interfaces

/-- Reads a sample. -/
def sample? (d : Json.Document) : Option (List InterfaceTraffic) := do
  let [network] ← d.record? [["network"]] | none
  Json.Document.withDefault [] network? network

/-- Reads the samples of a report. -/
def samples? (d : Json.Document) : Option (List (List InterfaceTraffic)) := do
  let [stats] ← d.record? [["stats"]] | none
  Json.Document.withDefault [] (Json.Document.list? sample?) stats

/-- The traffic that a report states: that of its last sample. -/
def ofReport? (b : Bytes) : Option (List InterfaceTraffic) :=
  ((Json.Document.read? b).bind samples?).map fun samples => samples.getLast?.getD []

end Usage

end PodNet
