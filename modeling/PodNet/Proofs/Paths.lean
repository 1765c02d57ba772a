import PodNet.FileSystem.Path
import PodNet.Proofs.Pieces

/-!
# Names in directories

A directory has entries under names: a name is not empty, is neither one dot nor two, and holds no
slash (`Path.IsName`). Joined with a directory it gives the path of an entry (`Path.IsEntryOf`).
What is joined need not be a name. An absolute path stands for itself, and a relative one adds its
parts to those of the directory (`Path.parts_join`), so that with a slash in it the path is not that
of an entry (`Path.isEntryOf_join_iff`).
-/

namespace PodNet

/-- The pieces of texts with a separator between them. -/
theorem Text.pieces_append (sep : Char) (s t : List Char) :
    pieces sep (s ++ sep :: t) = pieces sep s ++ pieces sep t := by
  simp only [pieces_eq_splitOn]
  exact List.splitOnP_append_cons s t (beq_self_eq_true sep)

namespace Path

/-- **The text is a name** that an entry of a directory can have. -/
structure IsName (name : String) : Prop where
  nonempty : name ≠ ""
  not_dot : name ≠ "."
  not_dots : name ≠ ".."
  slash : Text.hasChar '/' name = false

theorem isName_iff {name : String} :
    IsName name ↔ name ≠ "" ∧ name ≠ "." ∧ name ≠ ".." ∧ Text.hasChar '/' name = false :=
  ⟨fun h => ⟨h.nonempty, h.not_dot, h.not_dots, h.slash⟩,
    fun ⟨nonempty, notDot, notDots, slash⟩ => ⟨nonempty, notDot, notDots, slash⟩⟩

instance (name : String) : Decidable (IsName name) :=
  decidable_of_iff _ isName_iff.symm

/-- **The path is that of an entry of the directory**: the directory and one name. -/
def IsEntryOf (directory path : String) : Prop :=
  ∃ name, IsName name ∧ path = join directory name

variable {directory p q name : String}

theorem isStay_eq_false (hempty : name ≠ "") (hdot : name ≠ ".") : isStay name = false := by
  rw [isStay, beq_eq_false_iff_ne.mpr hempty, beq_eq_false_iff_ne.mpr hdot, Bool.or_false]

/-- A text without slashes is not absolute. -/
theorem isAbsolute_of_hasChar (h : Text.hasChar '/' p = false) : isAbsolute p = false := by
  rw [isAbsolute, beq_eq_false_iff_ne]
  intro hhead
  exact Text.not_mem_of_hasChar h (List.mem_of_mem_head? hhead)

theorem IsName.relative (h : IsName name) : isAbsolute name = false :=
  isAbsolute_of_hasChar h.slash

/-- A name is all there is in its path. -/
theorem IsName.parts_eq (h : IsName name) : parts name = [name] :=
  Text.split_of_hasChar h.slash

/-! ### Joining -/

theorem join_absolute (h : isAbsolute p = true) : join directory p = p := by
  rw [join, h, Bool.true_or, if_pos rfl]

theorem join_relative (h : isAbsolute p = false) :
    join directory p =
      if directory = "" then p
      else if directory.toList.getLast? = some '/' then directory ++ p
      else directory ++ "/" ++ p := by
  simp [join, h]

/-- A relative path is put after the directory, unless there is none. -/
theorem join_eq_append (hdirectory : directory ≠ "") (h : isAbsolute p = false) :
    ∃ more, join directory p = directory ++ more := by
  rw [join_relative h, if_neg hdirectory]
  split_ifs
  · exact ⟨p, rfl⟩
  · exact ⟨"/" ++ p, String.append_assoc⟩

/-- A path in a directory starts where the directory does. -/
theorem isAbsolute_join (hdirectory : directory ≠ "") (h : isAbsolute p = false) :
    isAbsolute (join directory p) = isAbsolute directory := by
  obtain ⟨more, hmore⟩ := join_eq_append hdirectory h
  have hne : directory.toList ≠ [] := by simpa using hdirectory
  rw [hmore, isAbsolute, isAbsolute, String.toList_append, List.head?_append_of_ne_nil _ hne]

/-- The parts that a directory adds in front of those of a path in it. -/
def base (directory : String) : List String :=
  if directory = "" then []
  else if directory.toList.getLast? = some '/' then (parts directory).dropLast
  else parts directory

/-- **Joining puts parts after parts.** -/
theorem parts_join (h : isAbsolute p = false) :
    parts (join directory p) = base directory ++ parts p := by
  rw [join_relative h, base]
  split_ifs with hempty hslash
  · rw [List.nil_append]
  · obtain ⟨front, hfront⟩ := List.getLast?_eq_some_iff.mp hslash
    have hnil : Text.pieces '/' [] = [[]] := rfl
    rw [parts, parts, parts, Text.split, Text.split, Text.split, String.toList_append, hfront,
      List.append_assoc, List.singleton_append, Text.pieces_append, Text.pieces_append, hnil,
      List.map_append, List.map_append, List.map_singleton, List.dropLast_concat]
  · have hslash : "/".toList = ['/'] := rfl
    rw [parts, parts, parts, Text.split, Text.split, Text.split, String.toList_append,
      String.toList_append, hslash, List.append_assoc, List.singleton_append, Text.pieces_append,
      List.map_append]

/-- The parts of a directory are those that it adds, and at most an empty one after them. -/
theorem parts_eq_base (h : directory ≠ "") :
    parts directory = base directory ∨ parts directory = base directory ++ [""] := by
  rw [base, if_neg h]
  split_ifs with hslash
  · right
    obtain ⟨front, hfront⟩ := List.getLast?_eq_some_iff.mp hslash
    have hnil : Text.pieces '/' [] = [[]] := rfl
    rw [parts, Text.split, hfront, Text.pieces_append, hnil, List.map_append, List.map_singleton,
      List.dropLast_concat]
  · exact .inl rfl

/-- The path of an entry leads to its name. -/
theorem fileName?_join (h : IsName name) : fileName? (join directory name) = some name := by
  have hmoves : isStay name = false := isStay_eq_false h.nonempty h.not_dot
  rw [fileName?, parts_join h.relative, h.parts_eq, List.filter_append, List.filter_singleton, hmoves,
    Bool.not_false, cond_true, List.getLast?_concat]
  exact if_neg h.not_dots

theorem join_inj (hp : isAbsolute p = false) (hq : isAbsolute q = false)
    (h : join directory p = join directory q) : p = q := by
  rw [join_relative hp, join_relative hq] at h
  split_ifs at h with hempty hslash
  · exact h
  · exact (String.append_right_inj directory).mp h
  · exact (String.append_right_inj _).mp h

/-- A name has an extension if it ends with that after a dot, and does not begin with the dot. -/
theorem extension?_eq_some_iff {name extension : String} (h : Text.hasChar '.' extension = false) :
    extension? name = some extension ↔ ∃ stem, stem ≠ "" ∧ name = stem ++ "." ++ extension := by
  have hreverse : '.' ∉ extension.toList.reverse := by
    rw [List.mem_reverse]
    exact Text.not_mem_of_hasChar h
  constructor
  · intro hname
    obtain ⟨chars, hchars, rfl⟩ := Option.map_eq_some_iff.mp hname
    unfold extensionChars? at hchars
    split at hchars
    · rename_i after before hcut
      split_ifs at hchars with hempty
      cases hchars
      have hsplit := (Text.of_cutChars hcut).1
      refine ⟨String.ofList before.reverse, fun hnil => hempty ?_, ?_⟩
      · rw [← String.toList_inj, String.toList_ofList] at hnil
        simpa using hnil
      · rw [List.reverse_eq_iff] at hsplit
        rw [← String.toList_inj, hsplit]
        simp
    · cases hchars
  · rintro ⟨stem, hstem, rfl⟩
    have hcut : Text.cutChars '.' (stem ++ "." ++ extension).toList.reverse =
        some (extension.toList.reverse, stem.toList.reverse) := by
      rw [← Text.cutChars_append hreverse]
      simp
    have hempty : stem.toList.reverse.isEmpty = false := by simpa using hstem
    rw [extension?, extensionChars?, hcut]
    dsimp only
    rw [hempty, if_neg Bool.false_ne_true, Option.map_some, List.reverse_reverse, String.ofList_toList]

/-- A joined path has no slash just if nothing was put before a path without one. -/
theorem hasChar_join_eq_false_iff :
    Text.hasChar '/' (join directory p) = false ↔ directory = "" ∧ Text.hasChar '/' p = false := by
  by_cases hrelative : isAbsolute p = false
  · rw [join_relative hrelative]
    split_ifs with hempty hslash
    · exact ⟨fun h => ⟨hempty, h⟩, And.right⟩
    · refine iff_of_false (fun h => ?_) fun h => hempty h.1
      rw [Text.hasChar_append, Bool.or_eq_false_iff] at h
      exact Text.not_mem_of_hasChar h.1 (List.mem_of_getLast? hslash)
    · refine iff_of_false (fun h => ?_) fun h => hempty h.1
      rw [Text.hasChar_append, Text.hasChar_append, Bool.or_eq_false_iff, Bool.or_eq_false_iff] at h
      exact absurd h.1.2 (by decide)
  · have habsolute : isAbsolute p = true := by simpa using hrelative
    have hslash : Text.hasChar '/' p ≠ false := fun h => hrelative (isAbsolute_of_hasChar h)
    rw [join_absolute habsolute]
    exact iff_of_false hslash fun h => hslash h.2

/-- **Joining with a relative path gives an entry just if that is a name.** -/
theorem isEntryOf_join_iff (h : isAbsolute p = false) :
    IsEntryOf directory (join directory p) ↔ IsName p := by
  constructor
  · rintro ⟨name, hname, heq⟩
    rwa [join_inj h hname.relative heq]
  · intro hp
    exact ⟨p, hp, rfl⟩

end Path

end PodNet
