import PodNet.Json.Basic

/-!
# Built-in configurations

Three plugins can be used although no configuration for them is installed: `bridge`, `macvlan` and
`sriov`. What they are configured with is fixed here. A configuration that is used for the first
time may be written to the directory of configurations, under the file name given here.
-/

namespace PodNet.Builtin

/-- The plugins with a built-in configuration. -/
def plugins : List String := ["bridge", "macvlan", "sriov"]

/-- Does the plugin have a built-in configuration? -/
def isBuiltin (plugin : String) : Bool :=
  plugins.contains plugin

/-- The name of the file that the configuration of a plugin is written to. -/
def fileName (plugin : String) : String :=
  "10-" ++ plugin ++ ".conf"

/-- The configuration of `bridge`. -/
def bridge : Object :=
  [("ipam", .obj [("subnet", .str "10.10.0.1/16"), ("type", .str "host-local")]),
   ("name", .str "mybridgenet"),
   ("type", .str "bridge")]

/-- The configuration of `macvlan`. -/
def macvlan : Object :=
  [("ipam", .obj [("subnet", .str "10.10.0.0/16"), ("type", .str "host-local")]),
   ("master", .str "eth0"),
   ("name", .str "macvlannet"),
   ("type", .str "macvlan")]

/-- The configuration of `sriov`. -/
def sriov : Object :=
  [("ipam", .obj [
     ("gateway", .str "10.55.206.1"),
     ("routes", .arr [.obj [("dst", .str "0.0.0.0/0")]]),
     ("subnet", .str "10.55.206.0/26"),
     ("type", .str "fixipam")]),
   ("master", .str "eth0"),
   ("name", .str "sriovnet"),
   ("type", .str "sriov")]

/-- The built-in configuration of a plugin. -/
def conf? (plugin : String) : Option Object :=
  if plugin = "bridge" then some bridge
  else if plugin = "macvlan" then some macvlan
  else if plugin = "sriov" then some sriov
  else none

end PodNet.Builtin
