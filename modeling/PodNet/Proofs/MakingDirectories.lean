import PodNet.Proofs.Writing

/-!
# Directories that are made

Making directories adds directories where nothing stood and changes nothing else, also where it fails
in the end (`addsDirectories_ensureDirectories`). Where a directory is already, nothing is made
(`ensureDirectories_of_resolve`). Such a directory lists every file that is in it under some name
(`mem_of_isFile`), so a file written under a name that is not listed cannot replace one.
-/

namespace PodNet.FileSystem

variable {fs made : FileSystem} {disk : Disk} {path : String}

/-- **Directories were added** where nothing stood, and nothing else was changed. -/
structure AddsDirectories (fs made : FileSystem) : Prop where
  workingDirectory_eq : made.workingDirectory = fs.workingDirectory
  adds : ∀ place, made.at? place = fs.at? place ∨
    fs.at? place = none ∧ made.at? place = some .directory

theorem AddsDirectories.refl (fs : FileSystem) : AddsDirectories fs fs :=
  ⟨rfl, fun _ => .inl rfl⟩

theorem AddsDirectories.trans {mid : FileSystem} (h : AddsDirectories fs mid)
    (h' : AddsDirectories mid made) : AddsDirectories fs made := by
  refine ⟨h'.workingDirectory_eq.trans h.workingDirectory_eq, fun place => ?_⟩
  rcases h'.adds place with heq | ⟨hnone, hdirectory⟩
  · rw [heq]
    exact h.adds place
  · rcases h.adds place with heq | ⟨-, hstands⟩
    · exact .inr ⟨heq ▸ hnone, hdirectory⟩
    · rw [hstands] at hnone
      cases hnone

/-- What is made is a directory where nothing stood. -/
theorem of_makeDirectory (h : fs.makeDirectory disk path = .ok made) :
    ∃ place, fs.at? place = none ∧ made = fs.put place .directory := by
  unfold makeDirectory at h
  cases hcheck : checkPath path with
  | error e =>
    rw [hcheck] at h
    cases h
  | ok _ =>
    rw [hcheck] at h
    dsimp only [bind, Except.bind] at h
    split at h
    · cases h
    · rename_i name _
      split at h
      · cases h
      · split at h
        · cases h
        · cases h
        · rename_i place _
          split_ifs at h with hlong hthere
          split at h
          · cases h
          · cases h
            refine ⟨_, ?_, rfl⟩
            rw [not_or, not_or, Bool.not_eq_true, Option.isSome_eq_false_iff,
              Option.isNone_iff_eq_none] at hthere
            exact hthere.2.2
        · cases h

theorem addsDirectories_of_makeDirectory (h : fs.makeDirectory disk path = .ok made) :
    AddsDirectories fs made := by
  obtain ⟨place, hnone, rfl⟩ := of_makeDirectory h
  have hplace : place ≠ [] := by
    rintro rfl
    cases hnone
  refine ⟨workingDirectory_put fs place _, fun p => ?_⟩
  rw [at?_put hplace]
  split_ifs with heq
  · exact .inr ⟨heq ▸ hnone, rfl⟩
  · exact .inl rfl

theorem addsDirectories_of_ensureDirectory (h : fs.ensureDirectory disk path = .ok made) :
    AddsDirectories fs made := by
  unfold ensureDirectory at h
  split at h
  · split_ifs at h
    cases h
    exact .refl fs
  · exact addsDirectories_of_makeDirectory h

/-- **Making directories only adds directories**, also where it fails in the end. -/
theorem addsDirectories_ensureAmong (fs : FileSystem) (disk : Disk) (paths : List String) :
    AddsDirectories fs (fs.ensureAmong disk paths).2 := by
  induction paths with
  | nil => exact .refl fs
  | cons path around ih =>
    rw [ensureAmong]
    split
    · exact addsDirectories_of_ensureDirectory ‹_›
    · rename_i hnone
      split
      · rename_i made haround
        rw [haround] at ih
        split
        · exact ih.trans (addsDirectories_of_ensureDirectory ‹_›)
        · exact ih
      · exact ih
    · exact .refl fs

theorem addsDirectories_ensureDirectories (fs : FileSystem) (disk : Disk) (path : String) :
    AddsDirectories fs (fs.ensureDirectories disk path).2 :=
  addsDirectories_ensureAmong fs disk _

/-! ### Directories that are there -/

theorem of_readDirectory {names : List String} (h : fs.readDirectory path = .ok names) :
    ∃ place, fs.resolve path = .ok (.entry place .directory) ∧ names = fs.namesAt place := by
  unfold readDirectory at h
  split at h <;> cases h
  exact ⟨_, ‹_›, rfl⟩

/-- A part of a path to a directory leads somewhere. -/
theorem Leads.there {links : Nat} {inside place : Place} {name : String} {rest : List String}
    (hname : name ≠ "") (h : Leads fs links inside (name :: rest) (.entry place .directory)) :
    name.utf8ByteSize ≤ maxNameLength ∧
      (name = "." ∨ name = ".." ∨ (fs.at? (inside ++ [name])).isSome = true) := by
  cases h with
  | stay stays =>
    obtain rfl : name = "." := by simpa [Path.isStay, hname] using stays
    exact ⟨by decide, .inl rfl⟩
  | up => exact ⟨by decide, .inr (.inl rfl)⟩
  | enter step entry => exact ⟨step.short, .inr (.inr (by rw [entry]; rfl))⟩
  | link step entry => exact ⟨step.short, .inr (.inr (by rw [entry]; rfl))⟩

/-- Where a directory is, none can be made. -/
theorem makeDirectory_of_resolve {place : Place}
    (h : fs.resolve path = .ok (.entry place .directory)) :
    fs.makeDirectory disk path = .error .fileExists := by
  obtain ⟨hcheck, hleads⟩ := resolve_eq_ok_iff.mp h
  unfold makeDirectory
  rw [hcheck]
  dsimp only [bind, Except.bind]
  -- without the slashes at its end the path has a last name, or is that of the root
  obtain ⟨slashes, hslashes⟩ := List.rdropWhile_prefix (· == "") (Path.parts path)
  have hlast : ∀ name ∈ ((Path.parts path).rdropWhile (· == "")).getLast?, name ≠ "" := by
    intro name hname
    obtain ⟨hne, rfl⟩ := List.mem_getLast?_eq_getLast hname
    simpa using List.rdropWhile_last_not (· == "") (Path.parts path) hne
  rw [List.rdropWhile] at hslashes hlast
  generalize ((Path.parts path).reverse.dropWhile (· == "")).reverse = kept at hslashes hlast ⊢
  split
  · rfl
  · rename_i name hname
    obtain ⟨first, rfl⟩ := List.getLast?_eq_some_iff.mp hname
    rw [List.dropLast_concat]
    rw [← hslashes, List.append_assoc, List.singleton_append] at hleads
    obtain ⟨left, inside, hfirst, hon⟩ := hleads.split (hlast name hname)
    rw [follow_eq_ok_iff.mpr hfirst]
    obtain ⟨hshort, hthere⟩ := hon.there (hlast name hname)
    exact (if_neg (Nat.not_lt.mpr hshort)).trans (if_pos hthere)

/-- **Where a directory is, nothing is made.** -/
theorem ensureDirectories_of_resolve {place : Place}
    (h : fs.resolve path = .ok (.entry place .directory)) :
    fs.ensureDirectories disk path = (.ok (), fs) := by
  have hensure : fs.ensureDirectory disk path = .ok fs := by
    have hdirectory : fs.isDirectory path = true := by rw [isDirectory, h]
    rw [ensureDirectory, makeDirectory_of_resolve h]
    exact if_pos hdirectory
  have hancestors : Path.ancestors path = [] ∨ ∃ around, Path.ancestors path = path :: around := by
    unfold Path.ancestors
    cases path.length with
    | zero => exact .inl rfl
    | succ n =>
      rw [Path.ancestorsUpTo]
      split
      · exact .inl rfl
      · exact .inr ⟨_, rfl⟩
  rcases hancestors with hnone | ⟨around, hsome⟩
  · rw [ensureDirectories, hnone, ensureAmong]
  · rw [ensureDirectories, hsome, ensureAmong, hensure]

/-! ### Names in a directory that is there -/

/-- **A file in a directory is listed.** -/
theorem mem_of_isFile {directory name : String} {names : List String} (hname : Path.IsName name)
    (hall : fs.readDirectory directory = .ok names)
    (hfile : fs.isFile (Path.join directory name) = true) : name ∈ names := by
  obtain ⟨place, hplace, rfl⟩ := of_readDirectory hall
  have hdirectory : directory ≠ "" := by
    rintro rfl
    cases hplace
  unfold isFile at hfile
  split at hfile
  · rename_i hresolve
    obtain ⟨left, inside, hinside, hlast⟩ := resolve_of_join hdirectory hname hresolve
    rw [hplace] at hinside
    cases hinside
    obtain ⟨entry, hentry⟩ := hlast.exists_entry hname
    exact mem_namesAt hentry
  · cases hfile

/-- Names that are listed stay, whatever is put somewhere. -/
theorem mem_namesAt_put {place p : Place} {entry : Entry} {name : String}
    (h : name ∈ fs.namesAt place) : name ∈ (fs.put p entry).namesAt place := by
  obtain ⟨e, he, hname⟩ := List.mem_filterMap.mp h
  have hkey : ∃ e' ∈ (fs.put p entry).entries, e'.1 = e.1 := by
    unfold put
    by_cases hany : fs.entries.any (·.1 == p) = true
    · rw [if_pos hany]
      refine ⟨_, List.mem_map_of_mem he, ?_⟩
      split_ifs with heq
      · exact (beq_iff_eq.mp heq).symm
      · rfl
    · rw [if_neg hany]
      exact ⟨e, List.mem_append_left _ he, rfl⟩
  obtain ⟨e', he', heq⟩ := hkey
  refine List.mem_filterMap.mpr ⟨e', he', ?_⟩
  rw [heq]
  exact hname

end PodNet.FileSystem
