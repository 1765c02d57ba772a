import PodNet.Proofs.Following

/-!
# Files that were written

A file is written where nothing or a file stands, and nothing else changes. So what a path led to
before it leads to afterwards, but for the file that was written (`FileSystem.Leads.put`), and what
leads elsewhere afterwards led there before (`FileSystem.Leads.of_put`). In particular the file that was
written is read back (`readFile_of_writeFile`), and the directory that its name was joined with lists
it (`mem_of_writeFile`). Where writing fails, nothing changes, or the file was opened and is left with a
beginning of what was to be written (`of_writeFile_error`).
-/

namespace PodNet.FileSystem

variable {fs written : FileSystem} {disk : Disk} {place : Place}

/-! ### Entries -/

theorem at?_nil (fs : FileSystem) : fs.at? [] = some .directory := rfl

theorem at?_of_ne_nil {p : Place} (h : p ≠ []) : fs.at? p = fs.entries.lookup p := by
  have hempty : p.isEmpty = false := by simpa using h
  rw [at?, hempty, if_neg Bool.false_ne_true]

/-- Looking up where the values of one key were replaced. -/
theorem lookup_replace (entries : List (Place × Entry)) (place p : Place) (entry : Entry) :
    (entries.map fun e => if e.1 == place then (place, entry) else e).lookup p =
      if p = place ∧ entries.any (·.1 == place) then some entry else entries.lookup p := by
  induction entries with
  | nil => simp
  | cons e entries ih =>
    obtain ⟨key, value⟩ := e
    by_cases hkey : key = place
    · subst hkey
      by_cases hp : p = key
      · simp [hp]
      · have hne : (p == key) = false := beq_eq_false_iff_ne.mpr hp
        simp only [List.map_cons, beq_self_eq_true, if_true, List.lookup_cons, hne, ih, hp,
          false_and, if_false]
    · have hne : (key == place) = false := beq_eq_false_iff_ne.mpr hkey
      simp only [List.map_cons, List.any_cons, hne, Bool.false_eq_true, if_false, Bool.false_or,
        List.lookup_cons, ih]
      by_cases hp : p = key
      · subst hp
        simp [hkey]
      · have hpkey : (p == key) = false := beq_eq_false_iff_ne.mpr hp
        simp only [hpkey]

/-- What stands at places after an entry was put at one. -/
theorem at?_put (hplace : place ≠ []) (entry : Entry) (p : Place) :
    (fs.put place entry).at? p = if p = place then some entry else fs.at? p := by
  by_cases hp : p = []
  · subst hp
    rw [if_neg (Ne.symm hplace), at?_nil, at?_nil]
  · rw [at?_of_ne_nil hp, at?_of_ne_nil hp, put]
    by_cases hany : fs.entries.any (·.1 == place) = true
    · rw [if_pos hany, lookup_replace]
      simp only [hany, and_true]
    · rw [if_neg hany, List.lookup_append]
      by_cases heq : p = place
      · subst heq
        have hnone : fs.entries.lookup p = none := by
          rw [List.lookup_eq_none_iff]
          intro e he
          have hne : ¬e.1 = p := fun h => hany (List.any_eq_true.mpr ⟨e, he, beq_iff_eq.mpr h⟩)
          simpa using fun h => hne h.symm
        simp [hnone]
      · have hne : (p == place) = false := beq_eq_false_iff_ne.mpr heq
        rw [List.lookup_cons, hne, List.lookup_nil, Option.or_none, if_neg heq]

theorem at?_put_self (hplace : place ≠ []) (entry : Entry) :
    (fs.put place entry).at? place = some entry := by
  rw [at?_put hplace, if_pos rfl]

theorem at?_put_of_ne (hplace : place ≠ []) (entry : Entry) {p : Place} (hp : p ≠ place) :
    (fs.put place entry).at? p = fs.at? p := by
  rw [at?_put hplace, if_neg hp]

@[simp] theorem workingDirectory_put (fs : FileSystem) (place : Place) (entry : Entry) :
    (fs.put place entry).workingDirectory = fs.workingDirectory := by
  unfold put
  split <;> rfl

@[simp] theorem start_put (fs : FileSystem) (place : Place) (entry : Entry) (path : String) :
    (fs.put place entry).start path = fs.start path := by
  rw [start, start, workingDirectory_put]

/-- What stands in a directory, it lists. -/
theorem mem_namesAt {name : String} {entry : Entry} (h : fs.at? (place ++ [name]) = some entry) :
    name ∈ fs.namesAt place := by
  rw [at?_of_ne_nil (by simp)] at h
  have hmem : (place ++ [name], entry) ∈ fs.entries := by
    obtain ⟨before, after, heq, -⟩ := List.lookup_eq_some_iff.mp h
    rw [heq]
    simp
  rw [namesAt, List.mem_filterMap]
  exact ⟨_, hmem, by simp⟩

/-! ### Paths -/

/-- Nothing or a file stands at the place. -/
def IsFree (fs : FileSystem) (place : Place) : Prop :=
  fs.at? place = none ∨ ∃ content mode, fs.at? place = some (.file content mode)

theorem IsFree.ne_nil (h : fs.IsFree place) : place ≠ [] := by
  rintro rfl
  rcases h with h | ⟨content, mode, h⟩ <;> cases h

/-- The target after a file was written at a place. -/
def Target.overwritten (place : Place) (content : Bytes) (mode : Nat) : Target → Target
  | .entry p (.file c m) =>
    if p = place then .entry place (.file content mode) else .entry p (.file c m)
  | .vacant p => if p = place then .entry place (.file content mode) else .vacant p
  | target => target

/-- **Where paths lead after a file was written at a place**: to the file if they led to that place,
and to where they led before if not. Paths that end in slashes and should not are left aside: what
is wrong with them may be something else now. -/
theorem Leads.put (free : fs.IsFree place) (content : Bytes) (mode : Nat) {links : Nat}
    {directory : Place} {parts : List String} {target : Target}
    (h : Leads fs links directory parts target) (hslash : ∀ fault, target ≠ .noDirectory fault) :
    Leads (fs.put place (.file content mode)) links directory parts
      (target.overwritten place content mode) := by
  have hat : ∀ p, (fs.put place (.file content mode)).at? p =
      if p = place then some (.file content mode) else fs.at? p :=
    at?_put free.ne_nil (.file content mode)
  have hother : ∀ p entry, fs.at? p = some entry → (∀ c m, entry ≠ .file c m) →
      (fs.put place (.file content mode)).at? p = some entry := by
    intro p entry hentry hnot
    rw [hat, if_neg, hentry]
    rintro rfl
    rcases free with hnone | ⟨c, m, hfile⟩
    · rw [hnone] at hentry
      cases hentry
    · rw [hfile] at hentry
      exact hnot c m (Option.some.inj hentry).symm
  induction h with
  | here => exact .here
  | stay stays _ ih => exact .stay stays (ih hslash)
  | up _ ih => exact .up (ih hslash)
  | enter step entry _ ih => exact .enter step (hother _ _ entry (by simp)) (ih hslash)
  | @file links directory part c m step entry =>
    by_cases heq : directory ++ [part] = place
    · rw [Target.overwritten, if_pos heq, ← heq]
      exact .file step (by rw [heq, hat, if_pos rfl])
    · rw [Target.overwritten, if_neg heq]
      exact .file step (by rw [hat, if_neg heq, entry])
  | @vacant links directory part step entry =>
    by_cases heq : directory ++ [part] = place
    · rw [Target.overwritten, if_pos heq, ← heq]
      exact .file step (by rw [heq, hat, if_pos rfl])
    · rw [Target.overwritten, if_neg heq]
      exact .vacant step (by rw [hat, if_neg heq, entry])
  | slashes => exact absurd rfl (hslash _)
  | link step entry _ ih => exact .link step (hother _ _ entry (by simp)) (ih hslash)

/-- A file at the end of a path stands there. -/
theorem Leads.at?_of_file {links : Nat} {directory p : Place} {parts : List String}
    {content : Bytes} {mode : Nat}
    (h : Leads fs links directory parts (.entry p (.file content mode))) :
    fs.at? p = some (.file content mode) := by
  generalize htarget : Target.entry p (.file content mode) = target at h
  induction h with
  | here => cases htarget
  | file _ entry => cases htarget; exact entry
  | vacant => cases htarget
  | slashes => cases htarget
  | stay _ _ ih | up _ ih | enter _ _ _ ih | link _ _ _ ih => exact ih htarget

/-- Nothing stands at a vacant end of a path. -/
theorem Leads.at?_of_vacant {links : Nat} {directory p : Place} {parts : List String}
    (h : Leads fs links directory parts (.vacant p)) : fs.at? p = none := by
  generalize htarget : Target.vacant p = target at h
  induction h with
  | here => cases htarget
  | file => cases htarget
  | vacant _ entry => cases htarget; exact entry
  | slashes => cases htarget
  | stay _ _ ih | up _ ih | enter _ _ _ ih | link _ _ _ ih => exact ih htarget

/-- The target is a place where a file can be written. -/
inductive Target.Takes : Target → Place → Prop
  | vacant (place : Place) : Takes (.vacant place) place
  | file (place : Place) (content : Bytes) (mode : Nat) :
      Takes (.entry place (.file content mode)) place

theorem Target.Takes.overwritten {target : Target} (h : target.Takes place) (content : Bytes)
    (mode : Nat) : target.overwritten place content mode = .entry place (.file content mode) := by
  cases h <;> simp [Target.overwritten]

theorem Target.Takes.isFree {links : Nat} {directory : Place} {parts : List String}
    {target : Target} (h : target.Takes place) (hleads : Leads fs links directory parts target) :
    fs.IsFree place := by
  cases h with
  | vacant => exact .inl hleads.at?_of_vacant
  | file _ content mode => exact .inr ⟨content, mode, hleads.at?_of_file⟩

/-- A file is written where its path leads. -/
theorem of_writePlace {path : String} (h : fs.writePlace path = .ok place) :
    ∃ target, target.Takes place ∧ fs.resolve path = .ok target := by
  unfold writePlace at h
  rw [resolve]
  split at h
  · cases h
  · rename_i hcheck
    rw [hcheck]
    split_ifs at h with hslash
    · split at h <;> cases h
    · dsimp only
      split at h
      · rename_i content mode hfollow
        split_ifs at h
        cases h
        exact ⟨_, .file _ _ _, hfollow⟩
      · cases h
      · rename_i hfollow
        cases h
        exact ⟨_, .vacant _, hfollow⟩
      · cases h
      · cases h

/-- **Writing a file puts it where its path leads.** -/
theorem of_writeFile {path : String} {content : Bytes}
    (h : fs.writeFile disk path content = (.ok (), written)) :
    ∃ place target, target.Takes place ∧ fs.resolve path = .ok target ∧
      written = fs.put place (.file content writtenMode) := by
  unfold writeFile at h
  split at h
  · cases h
  · rename_i place hplace
    split at h
    · cases h
    · split at h
      · cases h
      · cases h
        obtain ⟨target, htakes, hresolve⟩ := of_writePlace hplace
        exact ⟨place, target, htakes, hresolve, rfl⟩

/-- **A file that is not written** was not opened, and nothing changes, or it was: then a beginning of
the content is left where its path leads, with the mode that it was opened with. -/
theorem of_writeFile_error {path : String} {content : Bytes} {e : IoFault}
    (h : fs.writeFile disk path content = (.error e, written)) :
    written = fs ∨ ∃ place target length, target.Takes place ∧ fs.resolve path = .ok target ∧
      disk.spoils fs place = some ⟨length, e⟩ ∧
      written = fs.put place (.file (content.take length) (fs.openedMode disk place)) := by
  unfold writeFile at h
  split at h
  · cases h
    exact .inl rfl
  · rename_i place hplace
    split at h
    · cases h
      exact .inl rfl
    · split at h
      · rename_i mishap hspoils
        cases h
        obtain ⟨target, htakes, hresolve⟩ := of_writePlace hplace
        exact .inr ⟨place, target, mishap.written, htakes, hresolve, hspoils, rfl⟩
      · cases h

/-- **A file that is put where nothing stood changes no path that led somewhere.** -/
theorem resolve_put_of_vacant {path : String} {p : Place} {entry : Entry}
    (vacant : fs.at? place = none) (content : Bytes) (mode : Nat)
    (h : fs.resolve path = .ok (.entry p entry)) :
    (fs.put place (.file content mode)).resolve path = .ok (.entry p entry) := by
  obtain ⟨hcheck, hleads⟩ := resolve_eq_ok_iff.mp h
  have hput := hleads.put (.inl vacant) content mode (by simp)
  have hsame : (Target.entry p entry).overwritten place content mode = .entry p entry := by
    cases entry with
    | file c m =>
      refine if_neg ?_
      rintro rfl
      rw [hleads.at?_of_file] at vacant
      cases vacant
    | directory => rfl
    | link _ => rfl
  rw [hsame] at hput
  exact resolve_eq_ok_iff.mpr ⟨hcheck, (start_put fs place _ path).symm ▸ hput⟩

/-- The file that was written stands where its path leads, and where paths led otherwise they still
lead. -/
theorem leads_of_writeFile {path : String} {content : Bytes}
    (h : fs.writeFile disk path content = (.ok (), written)) :
    ∃ place target, target.Takes place ∧ checkPath path = .ok () ∧
      Leads fs maxLinks (fs.start path) (Path.parts path) target ∧
      written = fs.put place (.file content writtenMode) ∧
      written.resolve path = .ok (.entry place (.file content writtenMode)) := by
  obtain ⟨place, target, htakes, hresolve, rfl⟩ := of_writeFile h
  obtain ⟨hcheck, hleads⟩ := resolve_eq_ok_iff.mp hresolve
  have hafter := hleads.put (htakes.isFree hleads) content writtenMode (by cases htakes <;> simp)
  rw [htakes.overwritten] at hafter
  exact ⟨place, target, htakes, hcheck, hleads, rfl,
    resolve_eq_ok_iff.mpr ⟨hcheck, start_put fs place _ path ▸ hafter⟩⟩

/-- **What was written is read back.** -/
theorem readFile_of_writeFile {path : String} {content : Bytes}
    (h : fs.writeFile disk path content = (.ok (), written)) : written.readFile path = .ok content := by
  obtain ⟨place, target, -, -, -, -, hresolve⟩ := leads_of_writeFile h
  rw [readFile, hresolve]
  rfl

/-- What was written is a file. -/
theorem isFile_of_writeFile {path : String} {content : Bytes}
    (h : fs.writeFile disk path content = (.ok (), written)) : written.isFile path = true := by
  obtain ⟨place, target, -, -, -, -, hresolve⟩ := leads_of_writeFile h
  rw [isFile, hresolve]

/-- A path in a directory can be one only if that of the directory can. -/
theorem checkPath_of_join {directory name : String} (hdirectory : directory ≠ "")
    (hname : Path.isAbsolute name = false) (h : checkPath (Path.join directory name) = .ok ()) :
    checkPath directory = .ok () := by
  obtain ⟨more, hmore⟩ := Path.join_eq_append hdirectory hname
  rw [hmore] at h
  unfold checkPath at h ⊢
  split_ifs at h with hnul hlong hempty
  have hdirectoryNul : ¬Text.hasChar (Char.ofNat 0) directory = true := by
    intro hchar
    rw [Text.hasChar, String.toList_append, List.any_append, Bool.or_eq_true] at hnul
    exact hnul (.inl hchar)
  have hdirectoryLong : ¬maxPathLength < directory.utf8ByteSize := by
    rw [String.utf8ByteSize_append] at hlong
    omega
  rw [if_neg hdirectoryNul, if_neg hdirectoryLong, if_neg hdirectory]

/-- A directory is looked at where paths in it start. -/
theorem start_join {directory name : String} (hdirectory : directory ≠ "")
    (hname : Path.isAbsolute name = false) :
    fs.start (Path.join directory name) = fs.start directory := by
  rw [start, start, Path.isAbsolute_join hdirectory hname]

/-- **A path in a directory leads through the directory**, and from there on with its name. -/
theorem resolve_of_join {directory name : String} {target : Target} (hdirectory : directory ≠ "")
    (hname : Path.IsName name) (h : fs.resolve (Path.join directory name) = .ok target) :
    ∃ left inside, fs.resolve directory = .ok (.entry inside .directory) ∧
      Leads fs left inside [name] target := by
  obtain ⟨hcheck, hleads⟩ := resolve_eq_ok_iff.mp h
  rw [Path.parts_join hname.relative, hname.parts_eq, start_join hdirectory hname.relative] at hleads
  obtain ⟨left, inside, hbase, hlast⟩ := hleads.split hname.nonempty
  have hcheckDirectory := checkPath_of_join hdirectory hname.relative hcheck
  refine ⟨left, inside, resolve_eq_ok_iff.mpr ⟨hcheckDirectory, ?_⟩, hlast⟩
  rcases Path.parts_eq_base hdirectory with hparts | hparts
  · exact hparts ▸ hbase
  · obtain ⟨_, hon⟩ := hbase.append
    rw [hparts]
    exact hon [""] _ (.stay rfl .here)

/-- **Where a name leads to a file**, the file or a link stands under that name. -/
theorem Leads.of_name {links : Nat} {inside p : Place} {name : String} {content : Bytes} {mode : Nat}
    (hname : Path.IsName name)
    (h : Leads fs links inside [name] (.entry p (.file content mode))) :
    p = inside ++ [name] ∨ ∃ path, fs.at? (inside ++ [name]) = some (.link path) := by
  cases h with
  | stay stays =>
    rw [Path.isStay_eq_false hname.nonempty hname.not_dot] at stays
    cases stays
  | up => exact absurd rfl hname.not_dots
  | enter _ _ on => cases on
  | file => exact .inl rfl
  | link _ entry => exact .inr ⟨_, entry⟩

/-- Where a name leads to a file, something stands under that name. -/
theorem Leads.exists_entry {links : Nat} {inside p : Place} {name : String} {content : Bytes}
    {mode : Nat} (hname : Path.IsName name)
    (h : Leads fs links inside [name] (.entry p (.file content mode))) :
    ∃ entry, fs.at? (inside ++ [name]) = some entry := by
  rcases h.of_name hname with rfl | ⟨path, hlink⟩
  · exact ⟨_, h.at?_of_file⟩
  · exact ⟨_, hlink⟩

/-- **The directory lists the file that was written in it.** -/
theorem mem_of_writeFile {directory name : String} {content : Bytes} (hdirectory : directory ≠ "")
    (hname : Path.IsName name)
    (h : fs.writeFile disk (Path.join directory name) content = (.ok (), written)) :
    ∃ names, written.readDirectory directory = .ok names ∧ name ∈ names := by
  obtain ⟨place, target, -, -, -, -, hresolve⟩ := leads_of_writeFile h
  obtain ⟨left, inside, hinside, hlast⟩ := resolve_of_join hdirectory hname hresolve
  obtain ⟨entry, hentry⟩ := hlast.exists_entry hname
  refine ⟨_, ?_, mem_namesAt hentry⟩
  rw [readDirectory, hinside]

/-- In the root a file is written where its name leads. -/
theorem writePlace_root {name : String} (hname : Path.IsName name)
    (hcheck : checkPath (Path.join "/" name) = .ok ())
    (hend : (Path.join "/" name).toList.getLast? ≠ some '/')
    (vacant : Leads fs maxLinks [] [name] (.vacant place)) :
    fs.writePlace (Path.join "/" name) = .ok place := by
  have hresolve : fs.resolve (Path.join "/" name) = .ok (.vacant place) :=
    (resolve_root_iff hname hcheck).mpr vacant
  rw [resolve, hcheck] at hresolve
  dsimp only at hresolve
  rw [writePlace, hcheck, if_neg hend, hresolve]

/-- A name that is free leads to where it would stand. -/
theorem Leads.of_free {links : Nat} {directory : Place} {name : String} (hname : Path.IsName name)
    (hshort : name.utf8ByteSize ≤ maxNameLength) (vacant : fs.at? (directory ++ [name]) = none) :
    Leads fs links directory [name] (.vacant (directory ++ [name])) :=
  .vacant ⟨Path.isStay_eq_false hname.nonempty hname.not_dot, hname.not_dots, hshort⟩ vacant

end PodNet.FileSystem
