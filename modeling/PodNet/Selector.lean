import PodNet.Directory
import PodNet.Http.Url
import PodNet.Json.Printer
import PodNet.Usage

/-!
# Selecting a plugin

A pod that asks for nothing is served by one plugin. Which one is configured, or it is the installed
plugin with the least traffic. A choice that may be different the next time is dynamic: it is noted
in the pod, so that the same plugin detaches it.
-/

namespace PodNet

/-- A choice of a plugin, and the requests that were made for it. -/
structure Choice where
  plugin : Except Failure String
  requests : List Http.Request
  deriving Repr

/-- A way to choose the plugin of pods that ask for nothing. -/
structure Selector where
  choose : Settings → Directory → FileSystem → Choice
  isDynamic : Bool

namespace Selector

/-- The configured plugin. -/
def configuredChoice (s : Settings) : Choice :=
  ⟨.ok s.pluginOrDefault, []⟩

/-- Chooses the configured plugin. -/
def configured : Selector where
  choose s _ _ := configuredChoice s
  isDynamic := false

/-- The number of samples that are asked for. -/
def samplesOr (samples : Nat) : Nat :=
  if samples = 0 then 10 else samples

/-- The address of the report, given that of the service. -/
def reportAddress (address : String) : String :=
  String.ofList (Text.dropEnd (· == '/') address.toList) ++ "/api/v1.3/containers/"

/-- The request for a report, if the address can be used. -/
def reportRequest? (address : String) (samples : Nat) : Option Http.Request :=
  (Http.Url.parse? (reportAddress address)).map fun destination =>
    { method := "POST"
      endpoint := some destination.endpoint
      target := destination.target
      contentType := some "application/json"
      body := Bytes.ofString (Json.compact (.obj [("num_stats", .nat (samplesOr samples))])) }

/-- The traffic that a service reports; an answer that signals an error counts for nothing. -/
def report? (service : Http.Service) (request : Http.Request) : Option (List InterfaceTraffic) :=
  (service request).bind fun answer =>
    if answer.isError then none else Usage.ofReport? answer.body

/-- The choice among installed plugins; the configured one if there is no reason for another. -/
def choiceAmong (service : Http.Service) (address : String) (samples : Nat) (s : Settings)
    (candidates : List String) : Choice :=
  if candidates.isEmpty then configuredChoice s
  else
    match reportRequest? address samples with
    | none => configuredChoice s
    | some request =>
      match (report? service request).bind (Usage.leastUsed candidates) with
      | some plugin => ⟨.ok plugin, [request]⟩
      | none => ⟨.ok s.pluginOrDefault, [request]⟩

/-- Chooses the installed plugin with the least traffic, as a service at an address reports it. -/
def leastUsed (service : Http.Service) (address : String) (samples : Nat) : Selector where
  choose s d fs :=
    match d.installedTypes fs with
    | .ok candidates => choiceAmong service address samples s candidates
    | .error _ => configuredChoice s
  isDynamic := true

/-- The selector that the settings ask for. -/
def ofSettings (service : Http.Service) (s : Settings) : Selector :=
  match s.usageService with
  | some address => leastUsed service address s.usageSamples
  | none => configured

end Selector

end PodNet
