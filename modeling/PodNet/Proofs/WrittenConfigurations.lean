import PodNet.Proofs.Json.RoundTrip
import PodNet.Proofs.Serving
import PodNet.Proofs.Writing

/-!
# Built-in configurations that were written

A built-in configuration that is written to the directory is a configuration file of it from then on,
with the name of the plugin in its own, and holds what was built in (`Directory.load_of_write`,
`Directory.mem_of_write`). So the plugin is served by it the next time, with the same list, as long
as no other file with the name comes before (`Resolver.Serves.again`). Writing can itself bring such
files about, where links lead to it.
-/

namespace PodNet

/-- The numbers and texts in a built-in configuration can be written. -/
theorem Builtin.exact_conf {plugin : String} {conf : Object} (h : conf? plugin = some conf) :
    (Json.obj conf).Exact :=
  forall_conf? (P := fun _ conf => (Json.obj conf).Exact)
    ⟨⟨trivial, trivial, trivial⟩, trivial, trivial, trivial⟩
    ⟨⟨trivial, trivial, trivial⟩, trivial, trivial, trivial, trivial⟩
    ⟨⟨trivial, ⟨⟨trivial, trivial⟩, trivial⟩, trivial, trivial, trivial⟩, trivial, trivial, trivial,
      trivial⟩ h

/-- A built-in configuration that was written is read as it was. -/
theorem Builtin.read?_pretty {plugin : String} {conf : Object} (h : conf? plugin = some conf) :
    Json.read? (Bytes.ofString (Json.obj conf).pretty) = some (.obj conf) := by
  rw [Json.read?, Json.Document.read?_pretty (exact_conf h)]
  exact forall_conf? (P := fun _ conf => (some (Json.Document.ofJson (.obj conf))).bind
    (Json.Document.toJson? Json.Document.maxDepth) = some (.obj conf)) (by rfl) (by rfl) (by rfl) h

/-- The file of a built-in configuration has a name that is taken for that of its plugin. -/
theorem Builtin.fileName_spec {plugin : String} {conf : Object} (h : conf? plugin = some conf) :
    Path.IsName (fileName plugin) ∧ Directory.isConfName (fileName plugin) = true ∧
      Directory.isListName (fileName plugin) = false ∧
      Directory.isFor plugin (fileName plugin) = true :=
  forall_conf? (P := fun plugin _ => Path.IsName (fileName plugin) ∧
    Directory.isConfName (fileName plugin) = true ∧ Directory.isListName (fileName plugin) = false ∧
    Directory.isFor plugin (fileName plugin) = true) (by decide) (by decide) (by decide) h

namespace Directory

variable {d : Directory} {fs left : FileSystem} {disk : Disk} {name : String} {conf : Object}

/-- Writing a configuration makes the directory and writes the file. -/
theorem of_write {v : Json} (h : d.write fs name disk v = (.ok (), left)) :
    ∃ made, fs.ensureDirectories disk d.networks = (.ok (), made) ∧
      made.writeFile disk (d.file name) (Bytes.ofString v.pretty) = (.ok (), left) := by
  unfold write at h
  split at h
  · cases h
  · rename_i made hmade
    rcases hwritten : made.writeFile disk (d.file name) (Bytes.ofString v.pretty) with ⟨e | _, left'⟩
    · rw [hwritten] at h
      cases h
    · rw [hwritten] at h
      cases h
      exact ⟨made, hmade, hwritten⟩

/-- **A configuration that is not written**, for a reason of the file system: the directory was not
made, or it was and the file was not written. -/
theorem of_write_error {v : Json} {f : Failure} (h : d.write fs name disk v = (.error f, left)) :
    ∃ e, f = .io e ∧ (left = (fs.ensureDirectories disk d.networks).2 ∨
      ∃ made, fs.ensureDirectories disk d.networks = (.ok (), made) ∧
        made.writeFile disk (d.file name) (Bytes.ofString v.pretty) = (.error e, left)) := by
  unfold write at h
  split at h
  · rename_i hmade
    cases h
    exact ⟨_, rfl, .inl (by rw [hmade])⟩
  · rename_i made hmade
    rcases hwritten : made.writeFile disk (d.file name) (Bytes.ofString v.pretty) with ⟨e | _, left'⟩
    · rw [hwritten] at h
      cases h
      exact ⟨e, rfl, .inr ⟨made, hmade, hwritten⟩⟩
    · rw [hwritten] at h
      cases h

/-- **What was written is loaded** as the list of the plugin. -/
theorem load_of_write (h : d.write fs name disk (.obj conf) = (.ok (), left)) (hname : Path.IsName name)
    (hsingle : isListName name = false)
    (hread : Json.read? (Bytes.ofString (Json.obj conf).pretty) = some (.obj conf)) {l : ConfList}
    (hlist : ConfList.ofConf conf = .ok l) : load left (d.file name) = .ok l := by
  obtain ⟨made, -, hwritten⟩ := of_write h
  have hfileName : Path.fileName? (d.file name) = some name := Path.fileName?_join hname
  have hparse : ConfList.parseConf (Bytes.ofString (Json.obj conf).pretty) = .ok l := by
    rw [ConfList.parseConf, hread]
    exact hlist
  rw [load, FileSystem.readFile_of_writeFile hwritten, hfileName]
  dsimp only
  rw [parseNamed, Option.any_some, hsingle, if_neg Bool.false_ne_true, hparse]
  rfl

/-- **What was written is a configuration file** of the directory, unless that has no path. -/
theorem mem_of_write {v : Json} (h : d.write fs name disk v = (.ok (), left))
    (hnetworks : d.networks ≠ "") (hname : Path.IsName name) (hconf : isConfName name = true) :
    ∃ names, d.confNames left = .ok names ∧ name ∈ names := by
  obtain ⟨made, -, hwritten⟩ := of_write h
  obtain ⟨all, hall, hmem⟩ := FileSystem.mem_of_writeFile hnetworks hname hwritten
  obtain ⟨names, hnames, hiff⟩ := exists_confNames hall
  exact ⟨names, hnames, (hiff name).mpr ⟨hmem, hconf, FileSystem.isFile_of_writeFile hwritten⟩⟩

end Directory

namespace Resolver

variable {r : Resolver} {files left : FileSystem} {plugin : String} {l : ConfList}

/-- **The plugin stays with its file**: it had one, or nothing is written, or the file that is written
is the only one with its name afterwards. -/
def Stays (r : Resolver) (files left : FileSystem) (plugin : String) : Prop :=
  r.persistBuiltins = false ∨
    (∃ path, r.directory.findConf files plugin = .ok (some path)) ∨
    r.directory.networks ≠ "" ∧ ∀ names, r.directory.confNames left = .ok names →
      ∀ n ∈ names, Directory.isFor plugin n = true → n = Builtin.fileName plugin

/-- **The plugin is served by the same list again.** -/
theorem Serves.again (h : r.Serves files plugin l left) (stays : r.Stays files left plugin) :
    ∃ later, r.Serves left plugin l later := by
  cases h with
  | found named loaded => exact ⟨files, .found named loaded⟩
  | builtin unnamed usable list persist => exact ⟨files, .builtin unnamed usable list persist⟩
  | written unnamed usable list persist writes =>
    rcases stays with hpersist | ⟨path, hnamed⟩ | ⟨hnetworks, honly⟩
    · rw [hpersist] at persist
      cases persist
    · rw [hnamed] at unnamed
      cases unnamed
    · obtain ⟨hconf?, -⟩ := builtinConf_eq_ok_iff.mp usable
      obtain ⟨hname, hconf, hsingle, hfor⟩ := Builtin.fileName_spec hconf?
      obtain ⟨names, hnames, hmem⟩ := Directory.mem_of_write writes hnetworks hname hconf
      have hfirst : Directory.IsFirst (fun m => Directory.isFor plugin m = true) names
          (Builtin.fileName plugin) :=
        ⟨hmem, hfor, fun m hm hmfor => honly names hnames m hm hmfor ▸ String.le_refl _⟩
      exact ⟨left, .found ((Directory.findConf_eq_some_iff hnames).mpr ⟨_, hfirst, rfl⟩)
        (Directory.load_of_write writes hname hsingle (Builtin.read?_pretty hconf?) list)⟩

end Resolver

end PodNet
