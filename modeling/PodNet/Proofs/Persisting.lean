import PodNet.Proofs.MakingDirectories
import PodNet.Proofs.WrittenConfigurations

/-!
# Persisting built-in configurations

A built-in configuration is due when its plugin has no configuration file and its binary exists
(`Directory.Due`). When it is due it may be written to the directory, and `Directory.Persists` says all
that happens to the files then, whether that succeeds or not (`Directory.Due.persists`): the file is put
where the path with its name leads (`Directory.Destined`), unless it cannot be opened, and holds the
configuration, unless the disk spoils it. A directory that can be listed would list a file under the
same name, and such a file would be the plugin's. So nothing stands where the configuration is put, and
every configuration file keeps its place, its content and its mode (`Directory.Persists.stands`). A
directory that cannot be listed is missing, or has no path; a file that is reached once it was made is
replaced.
-/

namespace PodNet.Directory

variable {d : Directory} {fs made left : FileSystem} {plugin name : String} {conf : Object}
  {disk : Disk} {place : Place} {content : Bytes} {mode : Nat}

/-! ### Configuration files -/

/-- **The configuration file stands** in the directory: it is listed, and its path leads to a place
with that content and mode. -/
structure Stands (d : Directory) (fs : FileSystem) (name : String) (place : Place)
    (content : Bytes) (mode : Nat) : Prop where
  listed : ∃ names, d.confNames fs = .ok names ∧ name ∈ names
  leads : fs.resolve (d.file name) = .ok (.entry place (.file content mode))

/-- A directory with configuration files can be listed. -/
theorem exists_readDirectory {names : List String} (h : d.confNames fs = .ok names)
    (hmem : name ∈ names) : ∃ all, fs.readDirectory d.networks = .ok all := by
  unfold confNames at h
  split at h
  · exact ⟨_, ‹_›⟩
  · cases h
    cases hmem
  · cases h

/-- Every configuration file stands somewhere. -/
theorem exists_stands {names : List String} (h : d.confNames fs = .ok names)
    (hmem : name ∈ names) : ∃ place content mode, d.Stands fs name place content mode := by
  obtain ⟨all, hall⟩ := exists_readDirectory h hmem
  obtain ⟨-, -, hfile⟩ := (mem_confNames_iff hall h).mp hmem
  unfold FileSystem.isFile at hfile
  split at hfile
  · exact ⟨_, _, _, ⟨_, h, hmem⟩, ‹_›⟩
  · cases hfile

/-- **A configuration file stands as it did** after a file was put where nothing stood. -/
theorem Stands.put (h : d.Stands fs name place content mode) {p : Place}
    (vacant : fs.at? p = none) (other : Bytes) (otherMode : Nat) :
    d.Stands (fs.put p (.file other otherMode)) name place content mode := by
  have hleads := FileSystem.resolve_put_of_vacant vacant other otherMode h.leads
  obtain ⟨names, hnames, hmem⟩ := h.listed
  obtain ⟨all, hall⟩ := exists_readDirectory hnames hmem
  obtain ⟨inside, hinside, rfl⟩ := FileSystem.of_readDirectory hall
  obtain ⟨hmem, hconf, -⟩ := (mem_confNames_iff hall hnames).mp hmem
  have hafter : (fs.put p (.file other otherMode)).readDirectory d.networks =
      .ok ((fs.put p (.file other otherMode)).namesAt inside) := by
    rw [FileSystem.readDirectory, FileSystem.resolve_put_of_vacant vacant _ _ hinside]
  obtain ⟨namesAfter, hnamesAfter, hiff⟩ := exists_confNames hafter
  refine ⟨⟨namesAfter, hnamesAfter, (hiff name).mpr ⟨?_, hconf, ?_⟩⟩, hleads⟩
  · exact FileSystem.mem_namesAt_put hmem
  · rw [FileSystem.isFile, hleads]

/-- Which files configure depends on the directory of the networks, not on that of the binaries. -/
theorem Stands.congr {other : Directory} (h : d.Stands fs name place content mode)
    (hnetworks : other.networks = d.networks) : other.Stands fs name place content mode := by
  obtain ⟨names, hnames, hmem⟩ := h.listed
  have hfile : other.file = d.file := by
    funext n
    rw [file, file, hnetworks]
  refine ⟨⟨names, ?_, hmem⟩, hfile ▸ h.leads⟩
  rw [← hnames]
  unfold confNames confNamesOf
  rw [hnetworks, hfile]

/-! ### Persisting -/

/-- **A built-in configuration is due**: its plugin has no configuration file, and its binary exists.
-/
structure Due (d : Directory) (fs : FileSystem) (plugin : String) (conf : Object) : Prop where
  builtin : Builtin.conf? plugin = some conf
  unnamed : d.findConf fs plugin = .ok none
  binary : (d.findBinary fs plugin).isSome = true

/-- The text of a built-in configuration. -/
def builtinText (conf : Object) : Bytes :=
  Bytes.ofString (Json.obj conf).pretty

/-- What is written for a built-in configuration: its text, in a file that all may read and its owner
may write. -/
def builtinFile (conf : Object) : Entry :=
  .file (builtinText conf) 0o644

/-- **The built-in configuration of a plugin goes to a place**: the one that the path with its file name
leads to once the directory is there. What is missing of the directory is made. Where the directory
can be listed nothing is made, and nothing stood at the place. -/
structure Destined (d : Directory) (fs made : FileSystem) (plugin : String) (place : Place) :
    Prop where
  adds : fs.AddsDirectories made
  leads : ∃ target : FileSystem.Target, target.Takes place ∧
    made.resolve (d.file (Builtin.fileName plugin)) = .ok target
  there : ∀ all, fs.readDirectory d.networks = .ok all → made = fs ∧ fs.at? place = none

/-- **The disk spoils a file** that was opened at a place to be written: it holds a beginning of what was
to be written. A file that was there keeps its mode, and a new one has what it may have of 0644. -/
structure Spoils (disk : Disk) (made : FileSystem) (place : Place) (e : IoFault) (content held : Bytes)
    (mode : Nat) : Prop where
  mishap : ∃ length, disk.spoils made place = some ⟨length, e⟩ ∧ held = content.take length
  kept : ∀ old own, made.at? place = some (.file old own) → mode = own
  fresh : made.at? place = none → mode = Nat.land 0o644 disk.permits

/-- **A built-in configuration that is due is put at a place.** -/
inductive Puts (d : Directory) (disk : Disk) (fs made : FileSystem) (place : Place) : Entry → Prop
  | written {plugin : String} {conf : Object} (due : d.Due fs plugin conf)
      (destined : d.Destined fs made plugin place) : Puts d disk fs made place (builtinFile conf)
  | spoiled {plugin : String} {conf : Object} {e : IoFault} {held : Bytes} {mode : Nat}
      (due : d.Due fs plugin conf) (destined : d.Destined fs made plugin place)
      (spoils : Spoils disk made place e (builtinText conf) held mode) :
      Puts d disk fs made place (.file held mode)

/-- **A built-in configuration is persisted** where it is due: it is put at a place, or the directory
cannot be made, or the file cannot be opened. -/
inductive Persists (d : Directory) (disk : Disk) (fs : FileSystem) : FileSystem → Prop
  | refused {plugin : String} {conf : Object} {left : FileSystem} (due : d.Due fs plugin conf)
      (adds : fs.AddsDirectories left)
      (there : ∀ all, fs.readDirectory d.networks = .ok all → left = fs) : Persists d disk fs left
  | put {made : FileSystem} {place : Place} {entry : Entry} (puts : d.Puts disk fs made place entry) :
      Persists d disk fs (made.put place entry)

/-- Nothing stands where a configuration that is due is written. -/
theorem Due.vacant (due : d.Due fs plugin conf) {all : List String}
    (hall : fs.readDirectory d.networks = .ok all) {target : FileSystem.Target}
    (htakes : target.Takes place)
    (hresolve : fs.resolve (d.file (Builtin.fileName plugin)) = .ok target) :
    fs.at? place = none := by
  cases htakes with
  | vacant => exact (FileSystem.resolve_eq_ok_iff.mp hresolve).2.at?_of_vacant
  | file _ content mode =>
    -- a file there would be the configuration file of the plugin
    obtain ⟨hname, hconf, -, hfor⟩ := Builtin.fileName_spec due.builtin
    have hfile : fs.isFile (d.file (Builtin.fileName plugin)) = true := by
      rw [FileSystem.isFile, hresolve]
    obtain ⟨names, hnames, hiff⟩ := exists_confNames hall
    have hmem := (hiff _).mpr ⟨FileSystem.mem_of_isFile hname hall hfile, hconf, hfile⟩
    have hother := (findConf_eq_none_iff hnames).mp due.unnamed _ hmem
    rw [hfor] at hother
    cases hother

/-- Where the directory can be listed nothing is made. -/
theorem ensureDirectories_of_listed {all : List String}
    (hall : fs.readDirectory d.networks = .ok all) :
    fs.ensureDirectories disk d.networks = (.ok (), fs) := by
  obtain ⟨inside, hinside, -⟩ := FileSystem.of_readDirectory hall
  exact FileSystem.ensureDirectories_of_resolve hinside

/-- There writing a configuration is writing the file. -/
theorem write_of_listed {all : List String} (hall : fs.readDirectory d.networks = .ok all)
    (v : Json) :
    d.write fs name disk v =
      ((fs.writeFile disk (d.file name) (Bytes.ofString v.pretty)).1.mapError .io,
        (fs.writeFile disk (d.file name) (Bytes.ofString v.pretty)).2) := by
  rw [write, ensureDirectories_of_listed hall]

/-- A configuration that is due goes where its path leads. -/
theorem Due.destined (due : d.Due fs plugin conf) {outcome : Except IoFault Unit}
    (hmade : fs.ensureDirectories disk d.networks = (outcome, made)) {target : FileSystem.Target}
    (htakes : target.Takes place)
    (hresolve : made.resolve (d.file (Builtin.fileName plugin)) = .ok target) :
    d.Destined fs made plugin place where
  adds := by
    have hadds := FileSystem.addsDirectories_ensureDirectories fs disk d.networks
    rwa [hmade] at hadds
  leads := ⟨target, htakes, hresolve⟩
  there all hall := by
    rw [ensureDirectories_of_listed hall] at hmade
    cases hmade
    exact ⟨rfl, due.vacant hall htakes hresolve⟩

/-- **Where a configuration that is due was written.** -/
theorem Due.exists_written (due : d.Due fs plugin conf)
    (writes : d.write fs (Builtin.fileName plugin) disk (.obj conf) = (.ok (), left)) :
    ∃ made place, d.Destined fs made plugin place ∧ left = made.put place (builtinFile conf) ∧
      left.resolve (d.file (Builtin.fileName plugin)) = .ok (.entry place (builtinFile conf)) := by
  obtain ⟨made, hmade, hwritten⟩ := of_write writes
  obtain ⟨place, target, htakes, hcheck, hleads, rfl, hafter⟩ :=
    FileSystem.leads_of_writeFile hwritten
  exact ⟨made, place,
    due.destined hmade htakes (FileSystem.resolve_eq_ok_iff.mpr ⟨hcheck, hleads⟩), rfl, hafter⟩

/-- **Where a configuration that is due was not written**, for a reason of the file system: directories
were made at most, or the file was opened and spoiled. -/
theorem Due.of_write_error (due : d.Due fs plugin conf) {f : Failure}
    (writes : d.write fs (Builtin.fileName plugin) disk (.obj conf) = (.error f, left)) :
    ∃ e, f = .io e ∧
      ((fs.AddsDirectories left ∧ ∀ all, fs.readDirectory d.networks = .ok all → left = fs) ∨
        ∃ made place held mode, d.Destined fs made plugin place ∧
          Spoils disk made place e (builtinText conf) held mode ∧
          left = made.put place (.file held mode)) := by
  have hmakes : fs.AddsDirectories (fs.ensureDirectories disk d.networks).2 ∧
      ∀ all, fs.readDirectory d.networks = .ok all →
        (fs.ensureDirectories disk d.networks).2 = fs :=
    ⟨FileSystem.addsDirectories_ensureDirectories fs disk d.networks, fun all hall => by
      rw [ensureDirectories_of_listed hall]⟩
  obtain ⟨e, rfl, rfl | ⟨made, hmade, hwritten⟩⟩ := Directory.of_write_error writes
  · exact ⟨e, rfl, .inl hmakes⟩
  · refine ⟨e, rfl, ?_⟩
    rw [hmade] at hmakes
    obtain rfl | ⟨place, target, length, htakes, hresolve, hspoils, rfl⟩ :=
      FileSystem.of_writeFile_error hwritten
    · exact .inl hmakes
    · refine .inr ⟨made, place, _, _, due.destined hmade htakes hresolve, ?_, rfl⟩
      refine ⟨⟨length, hspoils, rfl⟩, fun old own h => ?_, fun h => ?_⟩
      · rw [FileSystem.openedMode, h]
      · rw [FileSystem.openedMode, h]
        rfl

/-- **Writing a configuration that is due persists it**, whatever comes of it. -/
theorem Due.persists (due : d.Due fs plugin conf) (disk : Disk) :
    d.Persists disk fs (d.write fs (Builtin.fileName plugin) disk (.obj conf)).2 := by
  rcases hwrite : d.write fs (Builtin.fileName plugin) disk (.obj conf) with ⟨f | _, left⟩
  · obtain ⟨e, -, ⟨adds, there⟩ | ⟨made, place, held, mode, destined, spoils, rfl⟩⟩ :=
      due.of_write_error hwrite
    · exact .refused due adds there
    · exact .put (.spoiled due destined spoils)
  · obtain ⟨made, place, destined, rfl, -⟩ := due.exists_written hwrite
    exact .put (.written due destined)

/-! ### What persisting leaves -/

/-- What is put somewhere is what is due, spoiled or not. -/
theorem Puts.exists_destined {entry : Entry} (h : d.Puts disk fs made place entry) :
    ∃ plugin conf, d.Due fs plugin conf ∧ d.Destined fs made plugin place := by
  cases h with
  | written due destined => exact ⟨_, _, due, destined⟩
  | spoiled due destined _ => exact ⟨_, _, due, destined⟩

theorem Puts.adds {entry : Entry} (h : d.Puts disk fs made place entry) :
    fs.AddsDirectories made := by
  obtain ⟨_, _, -, destined⟩ := h.exists_destined
  exact destined.adds

/-- Where the directory can be listed, nothing is made and nothing stood at the place. -/
theorem Puts.there {entry : Entry} (h : d.Puts disk fs made place entry) {all : List String}
    (hall : fs.readDirectory d.networks = .ok all) : made = fs ∧ fs.at? place = none := by
  obtain ⟨_, _, -, destined⟩ := h.exists_destined
  exact destined.there all hall

/-- What is put somewhere is a file. -/
theorem Puts.exists_file {entry : Entry} (h : d.Puts disk fs made place entry) :
    ∃ content mode, entry = .file content mode := by
  cases h with
  | written => exact ⟨_, _, rfl⟩
  | spoiled => exact ⟨_, _, rfl⟩

/-- What is put somewhere is put below the root. -/
theorem Puts.ne_nil {entry : Entry} (h : d.Puts disk fs made place entry) : place ≠ [] := by
  obtain ⟨_, _, -, destined⟩ := h.exists_destined
  obtain ⟨target, htakes, hresolve⟩ := destined.leads
  exact (htakes.isFree (FileSystem.resolve_eq_ok_iff.mp hresolve).2).ne_nil

/-- **What persisting does to what stands at a place**: nothing, or a directory is made there, or a
built-in configuration is put there. -/
theorem Persists.at? (h : d.Persists disk fs left) (p : Place) :
    left.at? p = fs.at? p ∨ (fs.at? p = none ∧ left.at? p = some .directory) ∨
      ∃ made entry, d.Puts disk fs made p entry ∧ left = made.put p entry := by
  cases h with
  | refused _ adds => exact (adds.adds p).imp_right .inl
  | @put made place entry puts =>
    by_cases heq : p = place
    · subst heq
      exact .inr (.inr ⟨made, entry, puts, rfl⟩)
    · rw [FileSystem.at?_put_of_ne puts.ne_nil entry heq]
      exact (puts.adds.adds p).imp_right .inl

/-- **Persisting changes no configuration file**: each stands as it did. -/
theorem Persists.stands (h : d.Persists disk fs left)
    (hstands : d.Stands fs name place content mode) : d.Stands left name place content mode := by
  obtain ⟨names, hnames, hmem⟩ := hstands.listed
  obtain ⟨all, hall⟩ := exists_readDirectory hnames hmem
  cases h with
  | refused _ _ there =>
    rw [there all hall]
    exact hstands
  | put puts =>
    obtain ⟨rfl, vacant⟩ := puts.there hall
    obtain ⟨other, otherMode, rfl⟩ := puts.exists_file
    exact hstands.put vacant other otherMode

end PodNet.Directory
