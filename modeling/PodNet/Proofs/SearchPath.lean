import PodNet.Delegation
import PodNet.PluginProcess
import PodNet.Proofs.Following
import PodNet.Proofs.Json.RoundTrip

/-!
# Which file is run

The binary of a plugin is looked for under its type in the directories of the search path, and the
first file there is run. A type is any text that is not blank. Where it is a name, the file is an
entry of the directory it was found in. Where slashes are in it, it is not: a relative type leads on
from the directory, up and down, and an absolute one stands for itself, so that the search path does
not matter at all (`launch_inside_iff`). Nothing between a configuration and the process looks at that;
the configuration may be one that a definition of a network carries (`launch_leaves_search_path`). And
a directory may be named by an empty text: a name that is found there is no path, and what is run is
what the machine itself finds under it.
-/

namespace PodNet

/-- The path that a plugin is found under. -/
theorem Directory.findBinary_eq_some_iff {d : Directory} {fs : FileSystem} {plugin path : String} :
    d.findBinary fs plugin = some path ↔
      ∃ before directory after, d.binaries = before ++ directory :: after ∧
        path = Path.join directory plugin ∧ fs.isFile path = true ∧
        ∀ b ∈ before, fs.isFile (Path.join b plugin) = false := by
  rw [findBinary, List.find?_eq_some_iff_append]
  constructor
  · rintro ⟨hfile, as, bs, hsplit, hbefore⟩
    obtain ⟨before, rest, hbinaries, rfl, hrest⟩ := List.map_eq_append_iff.mp hsplit
    obtain ⟨directory, after, rfl, rfl, rfl⟩ := List.map_eq_cons_iff.mp hrest
    refine ⟨before, directory, after, hbinaries, rfl, hfile, fun b hb => ?_⟩
    simpa using hbefore _ (List.mem_map_of_mem hb)
  · rintro ⟨before, directory, after, hbinaries, rfl, hfile, hbefore⟩
    refine ⟨hfile, before.map fun b => Path.join b plugin, after.map fun b => Path.join b plugin,
      by rw [hbinaries, List.map_append, List.map_cons], ?_⟩
    simpa using hbefore

theorem FileSystem.isFile_of_mayRun {fs : FileSystem} {path : String} (h : fs.mayRun path = true) :
    fs.isFile path = true := by
  unfold mayRun at h
  split at h
  · rename_i hresolve
    rw [isFile, hresolve]
  · cases h

/-- **A path that leads to a file does not end** with nothing, with one dot or with two. -/
theorem FileSystem.isStep_of_isFile {fs : FileSystem} {path last : String}
    (h : fs.isFile path = true) (hlast : (Path.parts path).getLast? = some last) : IsStep last := by
  unfold isFile at h
  split at h
  · rename_i hresolve
    exact (resolve_eq_ok_iff.mp hresolve).2.ends hlast
  · cases h

namespace PluginProcess

variable {d : Directory} {fs : FileSystem} {e : Execution} {l : Launch}

/-- What is run when an execution is started. -/
theorem launch_eq_ok_iff :
    launch d fs e = .ok l ↔ d.findBinary fs e.plugin = some l.path ∧
      (l.isPath = true → fs.mayRun l.path = true) ∧
      ((environment d e).any fun v => Text.hasChar (Char.ofNat 0) v.2) = false ∧
      l.environment = environment d e ∧ l.stdin = e.stdin := by
  unfold launch
  obtain ⟨path, env, stdin⟩ := l
  cases d.findBinary fs e.plugin with
  | none => simp
  | some found =>
    dsimp only
    split_ifs with hnul hruns
    · simp [hnul]
    · simp only [Except.ok.injEq, Launch.mk.injEq, Option.some.injEq]
      constructor
      · rintro ⟨rfl, rfl, rfl⟩
        exact ⟨rfl, hruns, by simpa using hnul, rfl, rfl⟩
      · rintro ⟨rfl, -, -, rfl, rfl⟩
        exact ⟨rfl, rfl, rfl⟩
    · simp only [Option.some.injEq, false_iff]
      rintro ⟨rfl, h, -⟩
      exact hruns h

/-- A type with which a file was found in a directory is a name unless slashes are in it. -/
theorem isName_iff_of_isFile {directory plugin : String}
    (h : fs.isFile (Path.join directory plugin) = true) :
    Path.IsName plugin ↔ Text.hasChar '/' plugin = false := by
  refine ⟨Path.IsName.slash, fun hslash => ?_⟩
  have hlast : (Path.parts (Path.join directory plugin)).getLast? = some plugin := by
    rw [Path.parts_join (Path.isAbsolute_of_hasChar hslash), Path.parts,
      Text.split_of_hasChar hslash, List.getLast?_concat]
  have hstep := FileSystem.isStep_of_isFile h hlast
  refine ⟨?_, ?_, hstep.down, hslash⟩
  · rintro rfl
    exact absurd hstep.moves (by decide)
  · rintro rfl
    exact absurd hstep.moves (by decide)

/-- **What is run** is the first file that the type of the plugin leads to from the directories of the
search path. It is an entry of the directory just if no slash is in the type; an absolute type is the
path itself, whatever the search path is. Only where the directory is named by an empty text and no
slash is in the type, there is no path, and the machine looks for the name. -/
theorem launch_inside_iff (d : Directory) (fs : FileSystem) (e : Execution) (l : Launch)
    (launched : launch d fs e = .ok l) :
    ∃ before directory after, d.binaries = before ++ directory :: after ∧
      (∀ b ∈ before, fs.isFile (Path.join b e.plugin) = false) ∧
      l.path = Path.join directory e.plugin ∧ fs.isFile l.path = true ∧
      (l.isPath = true → fs.mayRun l.path = true) ∧
      (Path.isAbsolute e.plugin = false →
        (Path.IsEntryOf directory l.path ↔ Text.hasChar '/' e.plugin = false)) ∧
      (Path.isAbsolute e.plugin = true → l.path = e.plugin) ∧
      (l.isPath = false ↔ directory = "" ∧ Text.hasChar '/' e.plugin = false) := by
  obtain ⟨hfound, hruns, -⟩ := launch_eq_ok_iff.mp launched
  obtain ⟨before, directory, after, hbinaries, hpath, hfile, hbefore⟩ :=
    Directory.findBinary_eq_some_iff.mp hfound
  refine ⟨before, directory, after, hbinaries, hbefore, hpath, hfile, hruns, fun hrelative => ?_,
    fun habsolute => hpath.trans (Path.join_absolute habsolute), ?_⟩
  · rw [hpath] at hfile ⊢
    rw [Path.isEntryOf_join_iff hrelative]
    exact isName_iff_of_isFile hfile
  · rw [Launch.isPath, hpath]
    exact Path.hasChar_join_eq_false_iff

/-! ### A type that leads out -/

/-- A search path of one directory. -/
def binDirectory : Directory := ⟨"/net.d", ["/bin"]⟩

/-- A plugin in that directory, and a file that may be run elsewhere. -/
def helperFiles : FileSystem :=
  ⟨[(["bin"], .directory), (["bin", "bridge"], .file [] 0o755), (["outside"], .directory),
    (["outside", "helper"], .file [] 0o755)], []⟩

/-- What the executions are for. -/
def helperParameters : Parameters := ⟨"c1", "/ns/c1", "eth0", [], [], none⟩

/-- An execution of the plugin in that directory. -/
def bridgeExecution : Execution := ⟨"bridge", .add, helperParameters, []⟩

theorem mayRun_of_leads {path : String} {place : Place} {content : Bytes} {mode : Nat}
    (hcheck : FileSystem.checkPath path = .ok ())
    (hleads : FileSystem.Leads fs FileSystem.maxLinks (fs.start path) (Path.parts path)
      (.entry place (.file content mode))) (hmode : FileSystem.isExecutable mode = true) :
    fs.mayRun path = true := by
  rw [FileSystem.mayRun, FileSystem.resolve_eq_ok_iff.mpr ⟨hcheck, hleads⟩]
  exact hmode

theorem launch_bridge : launch binDirectory helperFiles bridgeExecution =
    .ok ⟨"/bin/bridge", environment binDirectory bridgeExecution, []⟩ := by
  have hleads : FileSystem.Leads helperFiles FileSystem.maxLinks [] ["", "bin", "bridge"]
      (.entry ["bin", "bridge"] (.file [] 0o755)) :=
    .stay rfl <| .enter (by decide) rfl <| .file (by decide) rfl
  have hruns : helperFiles.mayRun "/bin/bridge" = true := mayRun_of_leads rfl hleads rfl
  exact launch_eq_ok_iff.mpr ⟨Directory.findBinary_eq_some_iff.mpr
    ⟨[], "/bin", [], rfl, rfl, FileSystem.isFile_of_mayRun hruns, by simp⟩, fun _ => hruns, rfl, rfl, rfl⟩

/-- A plugin with a name is run from the directory. -/
theorem launch_inside_bridge :
    launch binDirectory helperFiles bridgeExecution =
        .ok ⟨"/bin/bridge", environment binDirectory bridgeExecution, []⟩ ∧
      Path.IsEntryOf "/bin" "/bin/bridge" := by
  refine ⟨launch_bridge, ?_⟩
  obtain ⟨before, directory, after, hbinaries, -, hpath, -, -, hinside, -⟩ :=
    launch_inside_iff binDirectory helperFiles bridgeExecution _ launch_bridge
  cases before with
  | nil =>
    cases hbinaries
    exact (hinside (by rfl)).mpr (by rfl)
  | cons b before => exact absurd hbinaries (by simp [binDirectory])

/-- The configuration that a definition of a network carries. -/
def helperConf : Object := [("type", .str "../outside/helper")]

/-- **A configuration that a definition carries runs a file outside of the search path.** -/
theorem launch_leaves_search_path :
    ∃ conf plugin l,
      ConfList.parseAny (Bytes.ofString (Json.compact (.obj helperConf))) "net" = .ok conf ∧
      plugin ∈ Delegation.typed conf ∧
      launch binDirectory helperFiles (.ofPlugin .add helperParameters conf none plugin) = .ok l ∧
      helperFiles.resolve l.path = .ok (.entry ["outside", "helper"] (.file [] 0o755)) ∧
      ∀ directory ∈ binDirectory.binaries, ¬Path.IsEntryOf directory l.path := by
  have hparse : ConfList.parseAny (Bytes.ofString (Json.compact (.obj helperConf))) "net" =
      .ok ⟨"", "net", [helperConf], []⟩ := by
    have hexact : (Json.obj helperConf).Exact := ⟨trivial, trivial⟩
    rw [ConfList.parseAny, Json.read?, Json.Document.read?_compact hexact]
    rfl
  have hleads : FileSystem.Leads helperFiles FileSystem.maxLinks []
      ["", "bin", "..", "outside", "helper"]
      (.entry ["outside", "helper"] (.file [] 0o755)) :=
    .stay rfl <| .enter (by decide) rfl <| .up <|
      .enter (by decide) rfl <| .file (by decide) rfl
  have hruns : helperFiles.mayRun "/bin/../outside/helper" = true := mayRun_of_leads rfl hleads rfl
  refine ⟨_, ("../outside/helper", helperConf), ⟨"/bin/../outside/helper", _, _⟩, hparse,
    List.mem_singleton.mpr rfl, launch_eq_ok_iff.mpr ⟨Directory.findBinary_eq_some_iff.mpr
      ⟨[], "/bin", [], rfl, rfl, FileSystem.isFile_of_mayRun hruns, by simp⟩, fun _ => hruns, rfl, rfl, rfl⟩,
    FileSystem.resolve_eq_ok_iff.mpr ⟨rfl, hleads⟩, ?_⟩
  intro directory hdirectory hentry
  rw [List.mem_singleton.mp hdirectory] at hentry
  have hrelative : Path.isAbsolute "../outside/helper" = false := by rfl
  have hname : Path.IsName "../outside/helper" := (Path.isEntryOf_join_iff hrelative).mp hentry
  exact absurd hname.slash (by decide)

end PluginProcess

end PodNet
