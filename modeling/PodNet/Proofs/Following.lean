import PodNet.FileSystem.Basic
import PodNet.Proofs.Paths

/-!
# Where paths lead

`FileSystem.Leads` says where the parts of a path lead from a directory, one way to go for each
constructor: to stay, to go up, to enter a directory, to end at a file or where nothing is, to go on
where a link points. It is what `FileSystem.follow` does when it succeeds (`follow_eq_ok_iff`). A path
leads on from where its first parts lead (`Leads.append`, `Leads.split`), and one that ends with
nothing, with a dot or with two never leads to a file (`Leads.ends`).
-/

namespace PodNet.FileSystem

/-- The part of a path goes down, and is short enough to be looked up. -/
structure IsStep (part : String) : Prop where
  moves : Path.isStay part = false
  down : part ≠ ".."
  short : part.utf8ByteSize ≤ maxNameLength

theorem IsStep.of_not {part : String} (hstay : ¬Path.isStay part = true) (hdown : ¬part = "..")
    (hlong : ¬maxNameLength < part.utf8ByteSize) : IsStep part :=
  ⟨eq_false_of_ne_true hstay, hdown, Nat.not_lt.mp hlong⟩

theorem isStep_iff {part : String} :
    IsStep part ↔ Path.isStay part = false ∧ part ≠ ".." ∧ part.utf8ByteSize ≤ maxNameLength :=
  ⟨fun h => ⟨h.moves, h.down, h.short⟩, fun ⟨moves, down, short⟩ => ⟨moves, down, short⟩⟩

instance (part : String) : Decidable (IsStep part) :=
  decidable_of_iff _ isStep_iff.symm

/-- Nothing can be looked up below the entry, as the fault says. -/
inductive Closed : Option Entry → IoFault → Prop
  | none : Closed none .notFound
  | file (content : Bytes) (mode : Nat) : Closed (some (.file content mode)) .notADirectory

variable {fs : FileSystem}

/-- **The parts of a path lead** from a directory to a target, through at most so many links. -/
inductive Leads (fs : FileSystem) : Nat → Place → List String → Target → Prop
  | here {links directory} : Leads fs links directory [] (.entry directory .directory)
  | stay {links directory part rest target} (stays : Path.isStay part = true)
      (on : Leads fs links directory rest target) : Leads fs links directory (part :: rest) target
  | up {links directory rest target} (on : Leads fs links (parent directory) rest target) :
      Leads fs links directory (".." :: rest) target
  | enter {links directory part rest target} (step : IsStep part)
      (entry : fs.at? (directory ++ [part]) = some .directory)
      (on : Leads fs links (directory ++ [part]) rest target) :
      Leads fs links directory (part :: rest) target
  | file {links directory part content mode} (step : IsStep part)
      (entry : fs.at? (directory ++ [part]) = some (.file content mode)) :
      Leads fs links directory [part] (.entry (directory ++ [part]) (.file content mode))
  | vacant {links directory part} (step : IsStep part)
      (entry : fs.at? (directory ++ [part]) = none) :
      Leads fs links directory [part] (.vacant (directory ++ [part]))
  /-- Only slashes follow where no directory is. -/
  | slashes {links directory part rest fault} (step : IsStep part)
      (closed : Closed (fs.at? (directory ++ [part])) fault) (nonempty : rest ≠ [])
      (empty : rest.all (· == "") = true) :
      Leads fs links directory (part :: rest) (.noDirectory fault)
  | link {links directory part rest path target} (step : IsStep part)
      (entry : fs.at? (directory ++ [part]) = some (.link path))
      (on : Leads fs links (linkStart directory path) (Path.parts path ++ rest) target) :
      Leads fs (links + 1) directory (part :: rest) target

/-! ### Following -/

theorem follow_stay {links : Nat} {directory : Place} {part : String} {rest : List String}
    (h : Path.isStay part = true) :
    fs.follow links directory (part :: rest) = fs.follow links directory rest := by
  rw [follow, if_pos h]

theorem follow_up {links : Nat} {directory : Place} {rest : List String} :
    fs.follow links directory (".." :: rest) = fs.follow links (parent directory) rest := by
  have hmoves : Path.isStay ".." = false := by rfl
  rw [follow, hmoves, if_neg Bool.false_ne_true, if_pos rfl]

/-- Following a part that goes down depends on what stands there. -/
theorem follow_step {links : Nat} {directory : Place} {part : String} {rest : List String}
    (h : IsStep part) :
    fs.follow links directory (part :: rest) =
      match fs.at? (directory ++ [part]) with
      | none =>
        if rest.isEmpty then .ok (.vacant (directory ++ [part])) else noDirectory rest .notFound
      | some .directory => fs.follow links (directory ++ [part]) rest
      | some (.file content mode) =>
        if rest.isEmpty then .ok (.entry (directory ++ [part]) (.file content mode))
        else noDirectory rest .notADirectory
      | some (.link target) =>
        match links with
        | 0 => .error .tooManyLinks
        | links + 1 => fs.follow links (linkStart directory target) (Path.parts target ++ rest) := by
  rw [follow, h.moves, if_neg Bool.false_ne_true]
  exact (if_neg h.down).trans (if_neg (Nat.not_lt.mpr h.short))

/-- Where no directory is, only slashes can follow. -/
theorem leads_of_noDirectory {links : Nat} {directory : Place} {part : String} {rest : List String}
    {fault : IoFault} {target : Target} (step : IsStep part)
    (closed : Closed (fs.at? (directory ++ [part])) fault) (hrest : ¬rest.isEmpty = true)
    (h : noDirectory rest fault = .ok target) :
    Leads fs links directory (part :: rest) target := by
  unfold noDirectory at h
  split_ifs at h with hempty
  cases h
  exact .slashes step closed (fun hnil => hrest (List.isEmpty_iff.mpr hnil)) hempty

/-- What is followed leads there. -/
theorem leads_of_follow {links : Nat} {directory : Place} {parts : List String} {target : Target}
    (h : fs.follow links directory parts = .ok target) : Leads fs links directory parts target := by
  induction links, directory, parts using follow.induct fs with
  | case1 links directory =>
    rw [follow] at h
    cases h
    exact .here
  | case2 links directory part rest hstay ih =>
    rw [follow_stay hstay] at h
    exact .stay hstay (ih h)
  | case3 links directory rest _ ih =>
    rw [follow_up] at h
    exact .up (ih h)
  | case4 links directory part rest hstay hdown hlong =>
    rw [follow, if_neg hstay, if_neg hdown, if_pos hlong] at h
    cases h
  | case5 links directory part rest hstay hdown hshort hnone hrest =>
    have hstep : IsStep part := .of_not hstay hdown hshort
    rw [follow_step hstep, hnone] at h
    dsimp only at h
    rw [if_pos hrest] at h
    cases h
    rw [List.isEmpty_iff.mp hrest]
    exact .vacant hstep hnone
  | case6 links directory part rest hstay hdown hshort hnone hrest =>
    have hstep : IsStep part := .of_not hstay hdown hshort
    rw [follow_step hstep, hnone] at h
    dsimp only at h
    rw [if_neg hrest] at h
    exact leads_of_noDirectory hstep (hnone ▸ .none) hrest h
  | case7 links directory part rest hstay hdown hshort hentry ih =>
    have hstep : IsStep part := .of_not hstay hdown hshort
    rw [follow_step hstep, hentry] at h
    exact .enter hstep hentry (ih h)
  | case8 links directory part rest hstay hdown hshort content mode hentry hrest =>
    have hstep : IsStep part := .of_not hstay hdown hshort
    rw [follow_step hstep, hentry] at h
    dsimp only at h
    rw [if_pos hrest] at h
    cases h
    rw [List.isEmpty_iff.mp hrest]
    exact .file hstep hentry
  | case9 links directory part rest hstay hdown hshort content mode hentry hrest =>
    have hstep : IsStep part := .of_not hstay hdown hshort
    rw [follow_step hstep, hentry] at h
    dsimp only at h
    rw [if_neg hrest] at h
    exact leads_of_noDirectory hstep (hentry ▸ .file content mode) hrest h
  | case10 directory part rest hstay hdown hshort target hentry =>
    have hstep : IsStep part := .of_not hstay hdown hshort
    rw [follow_step hstep, hentry] at h
    cases h
  | case11 directory part rest hstay hdown hshort target hentry links ih =>
    have hstep : IsStep part := .of_not hstay hdown hshort
    rw [follow_step hstep, hentry] at h
    exact .link hstep hentry (ih h)

/-- **Following is going where the path leads.** -/
theorem follow_eq_ok_iff {links : Nat} {directory : Place} {parts : List String}
    {target : Target} :
    fs.follow links directory parts = .ok target ↔ Leads fs links directory parts target := by
  refine ⟨leads_of_follow, fun h => ?_⟩
  induction h with
  | here => rw [follow]
  | stay stays _ ih => rw [follow_stay stays, ih]
  | up _ ih => rw [follow_up, ih]
  | enter step entry _ ih => rw [follow_step step, entry]; exact ih
  | file step entry => rw [follow_step step, entry]; rfl
  | vacant step entry => rw [follow_step step, entry]; rfl
  | slashes step closed nonempty empty =>
    rename_i rest fault
    have hrest : rest.isEmpty = false := by simpa using nonempty
    rw [follow_step step]
    generalize fs.at? _ = entry at closed ⊢
    cases closed <;> simp only [hrest, Bool.false_eq_true, if_false, noDirectory, empty, if_true]
  | link step entry _ ih => rw [follow_step step, entry]; exact ih

theorem resolve_eq_ok_iff {path : String} {target : Target} :
    fs.resolve path = .ok target ↔ checkPath path = .ok () ∧
      Leads fs maxLinks (fs.start path) (Path.parts path) target := by
  rw [← follow_eq_ok_iff, resolve]
  cases checkPath path <;> simp

/-! ### Part by part -/

/-- **A path leads on from where its first parts lead.** -/
theorem Leads.append {links : Nat} {directory place : Place} {first : List String}
    (h : Leads fs links directory first (.entry place .directory)) :
    ∃ left, ∀ rest target, Leads fs left place rest target →
      Leads fs links directory (first ++ rest) target := by
  generalize htarget : Target.entry place .directory = reached at h
  induction h with
  | here => cases htarget; exact ⟨_, fun _ _ h => h⟩
  | stay stays _ ih =>
    obtain ⟨left, hleft⟩ := ih htarget
    exact ⟨left, fun rest target h => .stay stays (hleft rest target h)⟩
  | up _ ih =>
    obtain ⟨left, hleft⟩ := ih htarget
    exact ⟨left, fun rest target h => .up (hleft rest target h)⟩
  | enter step entry _ ih =>
    obtain ⟨left, hleft⟩ := ih htarget
    exact ⟨left, fun rest target h => .enter step entry (hleft rest target h)⟩
  | file => cases htarget
  | vacant => cases htarget
  | slashes => cases htarget
  | link step entry _ ih =>
    obtain ⟨left, hleft⟩ := ih htarget
    refine ⟨left, fun rest target h => .link step entry ?_⟩
    exact List.append_assoc _ _ rest ▸ hleft rest target h

/-- **What stands before more than slashes leads to a directory**, and the path leads on from
there. -/
theorem Leads.split {links : Nat} {directory : Place} {first rest : List String} {part : String}
    {target : Target} (h : Leads fs links directory (first ++ part :: rest) target)
    (hpart : part ≠ "") :
    ∃ left place, Leads fs links directory first (.entry place .directory) ∧
      Leads fs left place (part :: rest) target := by
  generalize hparts : first ++ part :: rest = parts at h
  induction h generalizing first with
  | here => exact absurd hparts (by simp)
  | @stay links _ _ _ _ stays on ih =>
    cases first with
    | nil => cases hparts; exact ⟨links, _, .here, .stay stays on⟩
    | cons _ first =>
      cases hparts
      obtain ⟨left, place, hfirst, hrest⟩ := ih rfl
      exact ⟨left, place, .stay stays hfirst, hrest⟩
  | @up links _ _ _ on ih =>
    cases first with
    | nil => cases hparts; exact ⟨links, _, .here, .up on⟩
    | cons _ first =>
      cases hparts
      obtain ⟨left, place, hfirst, hrest⟩ := ih rfl
      exact ⟨left, place, .up hfirst, hrest⟩
  | @enter links _ _ _ _ step entry on ih =>
    cases first with
    | nil => cases hparts; exact ⟨links, _, .here, .enter step entry on⟩
    | cons _ first =>
      cases hparts
      obtain ⟨left, place, hfirst, hrest⟩ := ih rfl
      exact ⟨left, place, .enter step entry hfirst, hrest⟩
  | @file links _ _ _ _ step entry =>
    cases first with
    | nil => cases hparts; exact ⟨links, _, .here, .file step entry⟩
    | cons _ first => exact absurd hparts (by simp)
  | @vacant links _ _ step entry =>
    cases first with
    | nil => cases hparts; exact ⟨links, _, .here, .vacant step entry⟩
    | cons _ first => exact absurd hparts (by simp)
  | @slashes links _ _ _ _ step closed nonempty empty =>
    cases first with
    | nil => cases hparts; exact ⟨links, _, .here, .slashes step closed nonempty empty⟩
    | cons _ first =>
      cases hparts
      exact absurd (List.all_eq_true.mp empty part (by simp)) (by simpa using hpart)
  | @link links _ _ _ _ _ step entry on ih =>
    cases first with
    | nil => cases hparts; exact ⟨links + 1, _, .here, .link step entry on⟩
    | cons _ first =>
      cases hparts
      obtain ⟨left, place, hfirst, hrest⟩ := ih (List.append_assoc _ _ _)
      exact ⟨left, place, .link step entry hfirst, hrest⟩

/-- **A path to a file ends with its name**, or with that of a link: not with nothing, and not with
one dot or two. -/
theorem Leads.ends {links : Nat} {directory place : Place} {parts : List String} {last : String}
    {content : Bytes} {mode : Nat}
    (h : Leads fs links directory parts (.entry place (.file content mode)))
    (hlast : parts.getLast? = some last) : IsStep last := by
  generalize htarget : Target.entry place (.file content mode) = reached at h
  induction h with
  | here => cases htarget
  | @stay _ _ _ rest _ _ on ih =>
    cases rest with
    | nil => cases on; cases htarget
    | cons => exact ih hlast htarget
  | @up _ _ rest _ on ih =>
    cases rest with
    | nil => cases on; cases htarget
    | cons => exact ih hlast htarget
  | @enter _ _ _ rest _ _ _ on ih =>
    cases rest with
    | nil => cases on; cases htarget
    | cons => exact ih hlast htarget
  | file step => exact Option.some.inj hlast ▸ step
  | vacant => cases htarget
  | slashes => cases htarget
  | @link _ _ _ rest _ _ step _ _ ih =>
    cases rest with
    | nil => exact Option.some.inj hlast ▸ step
    | cons => exact ih (by rwa [List.getLast?_append_of_ne_nil _ (List.cons_ne_nil _ _)]) htarget

/-! ### Files in the root -/

variable {name : String}

/-- A name in the root leads where it leads from there. -/
theorem resolve_root_iff {target : Target} (hname : Path.IsName name)
    (hcheck : checkPath (Path.join "/" name) = .ok ()) :
    fs.resolve (Path.join "/" name) = .ok target ↔ Leads fs maxLinks [] [name] target := by
  have hstart : fs.start (Path.join "/" name) = [] := by
    rw [start, Path.isAbsolute_join (by decide) hname.relative]
    rfl
  rw [resolve_eq_ok_iff, hstart, Path.parts_join hname.relative, hname.parts_eq, ← follow_eq_ok_iff,
    ← follow_eq_ok_iff, Path.base, if_neg (by decide), if_pos (by rfl)]
  show _ ∧ fs.follow maxLinks [] ("" :: [name]) = _ ↔ _
  rw [follow_stay (by rfl), hcheck]
  exact and_iff_right rfl

/-- A name in the root leads to the file that stands there. -/
theorem resolve_root {content : Bytes} {mode : Nat} (hname : Path.IsName name)
    (hshort : name.utf8ByteSize ≤ maxNameLength)
    (hcheck : checkPath (Path.join "/" name) = .ok ())
    (hat : fs.at? [name] = some (.file content mode)) :
    fs.resolve (Path.join "/" name) = .ok (.entry [name] (.file content mode)) := by
  have hstep : IsStep name :=
    ⟨Path.isStay_eq_false hname.nonempty hname.not_dot, hname.not_dots, hshort⟩
  exact (resolve_root_iff hname hcheck).mpr (.file hstep hat)

/-- The root is a directory, and can be listed. -/
theorem resolve_slash (fs : FileSystem) : fs.resolve "/" = .ok (.entry [] .directory) :=
  resolve_eq_ok_iff.mpr ⟨rfl, .stay rfl (.stay rfl .here)⟩

theorem readDirectory_slash (fs : FileSystem) : fs.readDirectory "/" = .ok (fs.namesAt []) := by
  rw [readDirectory, resolve_slash]

/-- A file system with nothing but a file in the root. -/
def single (name : String) (content : Bytes) : FileSystem :=
  ⟨[([name], .file content 0o644)], []⟩

theorem resolve_single (content : Bytes) (hname : Path.IsName name)
    (hshort : name.utf8ByteSize ≤ maxNameLength)
    (hcheck : checkPath (Path.join "/" name) = .ok ()) :
    (single name content).resolve (Path.join "/" name) =
      .ok (.entry [name] (.file content 0o644)) := by
  have hat : (single name content).at? [name] = some (.file content 0o644) := by
    simp [FileSystem.at?, single]
  exact resolve_root hname hshort hcheck hat

theorem readDirectory_single (name : String) (content : Bytes) :
    (single name content).readDirectory "/" = .ok [name] := by
  rw [readDirectory_slash]
  simp [namesAt, single]

end PodNet.FileSystem
