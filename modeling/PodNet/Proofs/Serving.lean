import PodNet.Proofs.ConfFiles
import PodNet.Proofs.NotedPlugin

/-!
# What serves a plugin

A plugin is served in one of three ways (`Resolver.Serves`): by what its configuration file holds, or
without such a file by its built-in configuration, which is written to the directory or not. That is
all that resolving a plugin comes to when it succeeds (`Resolver.runOn_pluginList_eq_ok_iff`). A
built-in configuration is always a list of just that plugin (`Builtin.exists_list`).
-/

namespace PodNet

/-- What is true of the three built-in configurations is true of whichever there is. -/
theorem Builtin.forall_conf? {P : String → Object → Prop} (hbridge : P "bridge" bridge)
    (hmacvlan : P "macvlan" macvlan) (hsriov : P "sriov" sriov) {plugin : String} {conf : Object}
    (h : conf? plugin = some conf) : P plugin conf := by
  unfold conf? at h
  split_ifs at h with hplugin hplugin hplugin <;> cases h <;> subst hplugin
  · exact hbridge
  · exact hmacvlan
  · exact hsriov

/-- The list of a built-in configuration has the plugin in it and no other. -/
theorem Builtin.exists_list {plugin : String} {conf : Object} (h : conf? plugin = some conf) :
    ∃ l, ConfList.ofConf conf = .ok l ∧ l.pluginTypes = [plugin] :=
  forall_conf? (P := fun plugin conf =>
    ∃ l, ConfList.ofConf conf = .ok l ∧ l.pluginTypes = [plugin])
    ⟨_, rfl, rfl⟩ ⟨_, rfl, rfl⟩ ⟨_, rfl, rfl⟩ h

@[simp] theorem Task.runOn_change (f : FileSystem → Except Failure Unit × FileSystem)
    (node : Node) :
    (Task.change f).runOn node = ((f node.files).1, { node with files := (f node.files).2 }) := rfl

namespace Resolver

variable {r : Resolver} {files left : FileSystem} {plugin : String} {l : ConfList}

/-- What a plugin's built-in configuration is, if it can be used. -/
theorem builtinConf_eq_ok_iff {d : Directory} {conf : Object} :
    builtinConf d files plugin = .ok conf ↔
      Builtin.conf? plugin = some conf ∧ (d.findBinary files plugin).isSome = true := by
  unfold builtinConf
  cases Builtin.conf? plugin with
  | none => simp
  | some own =>
    dsimp only
    split_ifs with hbinary <;> simp [hbinary]

/-- **The plugin is served by a list**, and files are left. -/
inductive Serves (r : Resolver) (files : FileSystem) (plugin : String) :
    ConfList → FileSystem → Prop
  /-- By what its configuration file holds. -/
  | found {path l} (named : r.directory.findConf files plugin = .ok (some path))
      (loaded : Directory.load files path = .ok l) : Serves r files plugin l files
  /-- By its built-in configuration. -/
  | builtin {conf l} (unnamed : r.directory.findConf files plugin = .ok none)
      (usable : builtinConf r.directory files plugin = .ok conf)
      (list : ConfList.ofConf conf = .ok l) (persist : r.persistBuiltins = false) :
      Serves r files plugin l files
  /-- By its built-in configuration, which is written to the directory. -/
  | written {conf l left} (unnamed : r.directory.findConf files plugin = .ok none)
      (usable : builtinConf r.directory files plugin = .ok conf)
      (list : ConfList.ofConf conf = .ok l) (persist : r.persistBuiltins = true)
      (writes : r.directory.write files (Builtin.fileName plugin) r.disk (.obj conf) = (.ok (), left)) :
      Serves r files plugin l left

/-- Resolving a plugin comes to nothing else. -/
theorem Serves.of_runOn {node last : Node} (h : (r.pluginList plugin).runOn node = (.ok l, last)) :
    r.Serves node.files plugin l last.files ∧ last.journal = node.journal := by
  unfold pluginList at h
  obtain ⟨found, n₁, hfound, h⟩ := Task.runOn_bind_eq_ok.mp h
  rw [Task.runOn_look, Prod.mk.injEq] at hfound
  obtain ⟨hfound, rfl⟩ := hfound
  cases found with
  | some path =>
    dsimp only at h
    rw [Task.runOn_look, Prod.mk.injEq] at h
    obtain ⟨hload, rfl⟩ := h
    exact ⟨.found hfound hload, rfl⟩
  | none =>
    obtain ⟨conf, n₂, hconf, h⟩ := Task.runOn_bind_eq_ok.mp h
    rw [Task.runOn_look, Prod.mk.injEq] at hconf
    obtain ⟨hconf, rfl⟩ := hconf
    cases hpersist : r.persistBuiltins with
    | false =>
      rw [hpersist, if_neg Bool.false_ne_true, Task.runOn_ofExcept, Prod.mk.injEq] at h
      obtain ⟨hlist, rfl⟩ := h
      exact ⟨.builtin hfound hconf hlist hpersist, rfl⟩
    | true =>
      rw [hpersist, if_pos rfl] at h
      obtain ⟨_, n₃, hchange, h⟩ := Task.runOn_bind_eq_ok.mp h
      rw [Task.runOn_change, Prod.mk.injEq] at hchange
      rw [Task.runOn_ofExcept, Prod.mk.injEq] at h
      obtain ⟨hwritten, rfl⟩ := hchange
      obtain ⟨hlist, rfl⟩ := h
      exact ⟨.written hfound hconf hlist hpersist (Prod.ext hwritten rfl), rfl⟩

/-- Whatever serves a plugin is what resolving it comes to. -/
theorem Serves.runOn (h : r.Serves files plugin l left) (journal : List Event) :
    (r.pluginList plugin).runOn ⟨files, journal⟩ = (.ok l, ⟨left, journal⟩) := by
  unfold pluginList
  cases h with
  | found named loaded =>
    rw [Task.runOn_bind_ok (by rw [Task.runOn_look, named]), Task.runOn_look, loaded]
  | builtin unnamed usable list persist =>
    rw [Task.runOn_bind_ok (by rw [Task.runOn_look, unnamed]),
      Task.runOn_bind_ok (by rw [Task.runOn_look, usable]), persist, if_neg Bool.false_ne_true,
      Task.runOn_ofExcept, list]
  | written unnamed usable list persist writes =>
    rw [Task.runOn_bind_ok (by rw [Task.runOn_look, unnamed]),
      Task.runOn_bind_ok (by rw [Task.runOn_look, usable]), persist, if_pos rfl,
      Task.runOn_bind_ok (by rw [Task.runOn_change, writes]), Task.runOn_ofExcept, list]

/-- **What resolving a plugin comes to** is what serves it. -/
theorem runOn_pluginList_eq_ok_iff {node last : Node} :
    (r.pluginList plugin).runOn node = (.ok l, last) ↔
      r.Serves node.files plugin l last.files ∧ last.journal = node.journal := by
  constructor
  · exact Serves.of_runOn
  · obtain ⟨files, journal⟩ := node
    obtain ⟨left, _⟩ := last
    rintro ⟨hserves, rfl⟩
    exact hserves.runOn _

end Resolver

end PodNet
