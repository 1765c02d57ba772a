import PodNet.Proofs.ConfFiles
import PodNet.Proofs.MakingDirectories
import Mathlib.Tactic.SplitIfs

/-!
# What lookups in the directory find

The default network of the cluster and a network with a name are looked up among the configuration
files of the directory. Both lookups fail only where the directory itself cannot be listed. Otherwise
they find what the byte-wise first suitable file gives, or nothing if no file is suitable: a file that
cannot be read or holds no configuration is passed over (`Directory.lookups_find_first`). That does not
depend on the order in which the directory is listed (`FileSystem.SameContent`): names are compared as
texts, which is to compare their bytes (`Bytes.ofString_le_iff`).
-/

namespace PodNet

/-! ### Names as bytes -/

namespace Bytes

/-- A lesser character has lesser bytes, whatever comes after it. -/
theorem encodeChar_append_lt {c d : Char} (h : c < d) (s t : Bytes) :
    String.utf8EncodeChar c ++ s < String.utf8EncodeChar d ++ t := by
  have hval : c.val.toNat < d.val.toNat := h
  have hbound : d.val.toNat < 0x110000 := by
    rcases d.valid with hd | ⟨-, hd⟩
    · exact Nat.lt_trans hd (by decide)
    · exact hd
  rw [String.utf8EncodeChar.eq_1, String.utf8EncodeChar.eq_1]
  generalize c.val.toNat = v at hval ⊢
  generalize d.val.toNat = w at hval hbound ⊢
  -- bytes are digits in base 64: what is left of a number after two digits, in one division
  have hdigits : ∀ n, n / 64 / 64 = n / 4096 ∧ n / 4096 / 64 = n / 262144 := fun n =>
    ⟨Nat.div_div_eq_div_mul n 64 64, Nat.div_div_eq_div_mul n 4096 64⟩
  obtain ⟨hv, hv'⟩ := hdigits v
  obtain ⟨hw, hw'⟩ := hdigits w
  split_ifs <;>
    simp (disch := omega) only [List.cons_append, List.nil_append, List.cons_lt_cons_iff,
      UInt8.lt_iff_toNat_lt, ← UInt8.toNat_inj, UInt8.toNat_ofNat', Nat.mod_eq_of_lt] <;>
    omega

theorem ofChars_lt {s t : List Char} (h : s < t) : ofChars s < ofChars t := by
  induction h with
  | nil =>
    rename_i c t
    rw [ofChars_nil, ofChars_cons]
    cases hbytes : String.utf8EncodeChar c with
    | nil => exact absurd hbytes (by simp)
    | cons b bytes => exact List.nil_lt_cons _ _
  | rel h => exact encodeChar_append_lt h _ _
  | cons _ ih => exact List.append_left_lt ih

/-- **Texts are in the order of their bytes.** -/
theorem ofString_le_iff {a b : String} : ofString a ≤ ofString b ↔ a ≤ b := by
  have hlt : ∀ {a b : String}, a < b → ofString a < ofString b := fun h =>
    ofChars_lt (String.lt_iff.mp h)
  constructor
  · intro h
    rw [← String.not_lt]
    exact fun hba => List.not_lt.mpr h (hlt hba)
  · intro h
    rw [← List.not_lt]
    intro hba
    by_cases hge : b ≤ a
    · rw [String.le_antisymm h hge] at hba
      exact List.lt_irrefl _ hba
    · exact List.lt_asymm (hlt (String.not_le.mp hge)) hba

end Bytes

/-! ### The order of listing -/

namespace FileSystem

variable {fs other : FileSystem} {place : Place} {name path : String}

/-- **The same stands everywhere** in both file systems. They differ at most in the order in which
their entries are listed. -/
structure SameContent (fs other : FileSystem) : Prop where
  places : ∀ place, other.at? place = fs.at? place
  workingDirectory : other.workingDirectory = fs.workingDirectory

theorem lookup_of_perm {entries others : List (Place × Entry)} (h : others.Perm entries)
    (distinct : (entries.map (·.1)).Nodup) (place : Place) :
    others.lookup place = entries.lookup place := by
  induction h with
  | nil => rfl
  | cons e _ ih =>
    rw [List.lookup_cons, List.lookup_cons, ih (List.nodup_cons.mp distinct).2]
  | swap e e' rest =>
    have hne : e.1 ≠ e'.1 := fun heq =>
      (List.nodup_cons.mp distinct).1 (List.mem_cons.mpr (.inl heq))
    rw [List.lookup_cons, List.lookup_cons, List.lookup_cons, List.lookup_cons]
    by_cases hplace : place = e.1
    · have hother : (place == e'.1) = false := beq_eq_false_iff_ne.mpr (hplace ▸ hne)
      rw [hother]
    · have hother : (place == e.1) = false := beq_eq_false_iff_ne.mpr hplace
      rw [hother]
  | trans _ h' ih ih' =>
    rw [ih ((h'.map _).nodup_iff.mpr distinct), ih' distinct]

/-- **Listing the entries in another order** leaves the content as it is. -/
theorem sameContent_of_perm {entries : List (Place × Entry)} (h : entries.Perm fs.entries)
    (distinct : (fs.entries.map (·.1)).Nodup) :
    SameContent fs ⟨entries, fs.workingDirectory⟩ := by
  refine ⟨fun place => ?_, rfl⟩
  rw [at?, at?, lookup_of_perm h distinct]

/-- A directory lists just what stands in it. -/
theorem mem_namesAt_iff : name ∈ fs.namesAt place ↔ (fs.at? (place ++ [name])).isSome = true := by
  constructor
  · intro h
    obtain ⟨e, he, hname⟩ := List.mem_filterMap.mp h
    split_ifs at hname with hbelow
    rw [Bool.and_eq_true, decide_eq_true_eq, List.isPrefixOf_iff_prefix] at hbelow
    obtain ⟨hlength, rest, hrest⟩ := hbelow
    obtain ⟨before, hbefore⟩ := List.getLast?_eq_some_iff.mp hname
    have hsame : before = place := by
      refine (List.append_inj_left (hbefore.symm.trans hrest.symm) ?_)
      rw [hbefore, List.length_append] at hlength
      exact Nat.succ.inj hlength
    rw [at?_of_ne_nil (by simp), List.lookup_isSome_iff]
    exact ⟨e, he, beq_iff_eq.mpr (hsame ▸ hbefore.symm)⟩
  · intro h
    obtain ⟨entry, hentry⟩ := Option.isSome_iff_exists.mp h
    exact mem_namesAt hentry

namespace SameContent

/-- Paths are followed alike. -/
theorem follow_eq (h : SameContent fs other) (links : Nat) (directory : Place)
    (parts : List String) : other.follow links directory parts = fs.follow links directory parts := by
  induction links, directory, parts using follow.induct fs with
  | case1 => rw [follow, follow]
  | case2 _ _ _ _ hstay ih => rw [follow_stay hstay, follow_stay hstay, ih]
  | case3 _ _ _ _ ih => rw [follow_up, follow_up, ih]
  | case4 _ _ _ _ hstay hdown hlong =>
    rw [follow, follow, if_neg hstay, if_neg hstay, if_neg hdown, if_neg hdown, if_pos hlong,
      if_pos hlong]
  | case5 _ _ _ _ hstay hdown hshort hentry | case6 _ _ _ _ hstay hdown hshort hentry
  | case8 _ _ _ _ hstay hdown hshort _ _ hentry | case9 _ _ _ _ hstay hdown hshort _ _ hentry
  | case10 _ _ _ hstay hdown hshort _ hentry =>
    have hstep : IsStep _ := .of_not hstay hdown hshort
    rw [follow_step hstep, follow_step hstep, h.places, hentry]
  | case7 _ _ _ _ hstay hdown hshort hentry ih | case11 _ _ _ hstay hdown hshort _ hentry _ ih =>
    have hstep : IsStep _ := .of_not hstay hdown hshort
    rw [follow_step hstep, follow_step hstep, h.places, hentry]
    exact ih

/-- Paths lead to the same. -/
theorem resolve_eq (h : SameContent fs other) (path : String) :
    other.resolve path = fs.resolve path := by
  rw [resolve, resolve, h.follow_eq, start, start, h.workingDirectory]

/-- A directory lists the same names, in whatever order. -/
theorem exists_readDirectory (h : SameContent fs other) {all : List String}
    (hall : fs.readDirectory path = .ok all) :
    ∃ others, other.readDirectory path = .ok others ∧ ∀ n, n ∈ others ↔ n ∈ all := by
  obtain ⟨place, hplace, rfl⟩ := of_readDirectory hall
  refine ⟨other.namesAt place, by rw [readDirectory, h.resolve_eq, hplace], fun n => ?_⟩
  rw [mem_namesAt_iff, mem_namesAt_iff, h.places]

/-- A directory cannot be listed for the same reason. -/
theorem readDirectory_error (h : SameContent fs other) {e : IoFault}
    (hall : fs.readDirectory path = .error e) : other.readDirectory path = .error e := by
  rw [readDirectory, h.resolve_eq]
  rw [readDirectory] at hall
  generalize fs.resolve path = target at hall ⊢
  rcases target with _ | ⟨_, _ | _ | _⟩ | _ | _
  case ok.entry.directory => cases hall
  all_goals exact hall

end SameContent

end FileSystem

/-! ### What is found -/

namespace Directory

variable {d : Directory} {fs other : FileSystem} {all others : List String} {n name : String}
  {l : ConfList}

/-- The name, of those in the directory, is that of a configuration file. -/
structure IsConf (d : Directory) (fs : FileSystem) (all : List String) (n : String) : Prop where
  listed : n ∈ all
  named : ∃ stem, stem ≠ "" ∧ (n = stem ++ ".conf" ∨ n = stem ++ ".conflist")
  isFile : fs.isFile (d.file n) = true

/-- The name is that of a file that holds a list of plugins. -/
def IsList (n : String) : Prop :=
  ∃ stem, stem ≠ "" ∧ n = stem ++ ".conflist"

/-- **The file gives a default network**: it is not the program's own file, and holds a list whose
first plugin is not the program itself. -/
structure GivesDefault (d : Directory) (fs : FileSystem) (all : List String) (n : String)
    (l : ConfList) : Prop where
  conf : d.IsConf fs all n
  foreign : n ≠ ownFile
  loads : load fs (d.file n) = .ok l
  delegates : l.primaryType ≠ ownType

/-- **The file gives a network with the name.** -/
structure GivesNamed (d : Directory) (fs : FileSystem) (all : List String) (name n : String)
    (l : ConfList) : Prop where
  conf : d.IsConf fs all n
  loads : load fs (d.file n) = .ok l
  named : l.name = name

/-- **The file is taken in its turn**: files with lists come before those with single plugins, which
are taken only where no list gives anything. -/
def InTurn (gives : String → ConfList → Prop) (n : String) (l : ConfList) : Prop :=
  gives n l ∧ (IsList n ∨ ∀ m k, gives m k → ¬IsList m)

/-- **What the byte-wise first file gives**, of all files that give something, or nothing if none does.
-/
def FirstGiven (gives : String → ConfList → Prop) : Option ConfList → Prop
  | some l => ∃ n, gives n l ∧ ∀ m k, gives m k → Bytes.ofString n ≤ Bytes.ofString m
  | none => ∀ n l, ¬gives n l

/-- What can be listed has configuration files, if only none at all. -/
theorem exists_isConf (hall : fs.readDirectory d.networks = .ok all) :
    ∃ names, d.confNames fs = .ok names ∧ ∀ n, n ∈ names ↔ d.IsConf fs all n := by
  obtain ⟨names, hnames, hmem⟩ := exists_confNames hall
  refine ⟨names, hnames, fun n => (hmem n).trans ?_⟩
  rw [isConfName_iff]
  exact ⟨fun h => ⟨h.1, h.2.1, h.2.2⟩, fun h => ⟨h.listed, h.named, h.isFile⟩⟩

/-- **The configuration files are listed** in the order of the bytes of their names. -/
theorem exists_confFiles (hall : fs.readDirectory d.networks = .ok all) :
    ∃ names : List String, d.confFiles fs = .ok (names.map d.file) ∧
      (∀ n, n ∈ names ↔ d.IsConf fs all n) ∧
      names.Pairwise fun n m => Bytes.ofString n ≤ Bytes.ofString m := by
  obtain ⟨names, hnames, hmem⟩ := exists_isConf hall
  refine ⟨names, by rw [confFiles, hnames]; rfl, hmem, ?_⟩
  exact (ascending_confNames hnames).imp Bytes.ofString_le_iff.mpr

theorem GivesDefault.eq {k : ConfList} (h : d.GivesDefault fs all n l)
    (h' : d.GivesDefault fs all n k) : l = k :=
  Except.ok.inj (h.loads.symm.trans h'.loads)

theorem GivesNamed.eq {k : ConfList} (h : d.GivesNamed fs all name n l)
    (h' : d.GivesNamed fs all name n k) : l = k :=
  Except.ok.inj (h.loads.symm.trans h'.loads)

/-- There is one answer, where a file gives one thing. -/
theorem FirstGiven.unique {gives : String → ConfList → Prop}
    (single : ∀ n l k, gives n l → gives n k → l = k) {r r' : Option ConfList}
    (h : FirstGiven gives r) (h' : FirstGiven gives r') : r = r' := by
  cases r with
  | none =>
    cases r' with
    | none => rfl
    | some k =>
      obtain ⟨m, hm, -⟩ := h'
      exact absurd hm (h m k)
  | some l =>
    obtain ⟨n, hn, hleast⟩ := h
    cases r' with
    | none => exact absurd hn (h' n l)
    | some k =>
      obtain ⟨m, hm, hleast'⟩ := h'
      have hsame : n = m := String.le_antisymm (Bytes.ofString_le_iff.mp (hleast m k hm))
        (Bytes.ofString_le_iff.mp (hleast' n l hn))
      subst hsame
      rw [single n l k hn hm]

/-- **The default network is what the first file gives.** -/
theorem defaultNetwork_firstGiven (hall : fs.readDirectory d.networks = .ok all) :
    ∃ r, d.defaultNetwork fs = .ok r ∧ FirstGiven (d.GivesDefault fs all) r := by
  obtain ⟨names, hnames, hmem⟩ := exists_isConf hall
  have gives_iff : ∀ n l, d.GivesDefault fs all n l ↔ n ∈ names.filter (· != ownFile) ∧
      load fs (d.file n) = .ok l ∧ (l.primaryType != ownType) = true := by
    intro n l
    rw [List.mem_filter, hmem, bne_iff_ne, bne_iff_ne]
    exact ⟨fun h => ⟨⟨h.conf, h.foreign⟩, h.loads, h.delegates⟩,
      fun h => ⟨h.1.1, h.1.2, h.2.1, h.2.2⟩⟩
  obtain ⟨r, hr⟩ : ∃ r, d.defaultNetwork fs = .ok r := by
    rw [defaultNetwork, hnames]
    exact ⟨_, rfl⟩
  refine ⟨r, hr, ?_⟩
  cases r with
  | none =>
    intro n l h
    obtain ⟨hn, hload, htype⟩ := (gives_iff n l).mp h
    obtain ⟨hn, hown⟩ := List.mem_filter.mp hn
    exact (defaultNetwork_eq_none_iff hnames).mp hr n hn (bne_iff_ne.mp hown) ⟨l, hload, htype⟩
  | some l =>
    obtain ⟨n, hload, hfirst⟩ := (defaultNetwork_eq_some_iff hnames).mp hr
    refine ⟨n, (gives_iff n l).mpr ⟨hfirst.mem, hload, hfirst.holds.of_load hload⟩, fun m k h => ?_⟩
    obtain ⟨hm, hloadm, htype⟩ := (gives_iff m k).mp h
    exact Bytes.ofString_le_iff.mpr (hfirst.least m hm ⟨k, hloadm, htype⟩)

/-- **A network with a name is what the first file gives**, lists before single plugins. -/
theorem networkNamed_firstGiven (hall : fs.readDirectory d.networks = .ok all) (name : String) :
    ∃ r, d.networkNamed fs name = .ok r ∧ FirstGiven (InTurn (d.GivesNamed fs all name)) r := by
  obtain ⟨names, hnames, hmem⟩ := exists_isConf hall
  have gives_iff : ∀ n l, d.GivesNamed fs all name n l ↔
      n ∈ names ∧ load fs (d.file n) = .ok l ∧ l.name = name := by
    intro n l
    rw [hmem]
    exact ⟨fun h => ⟨h.conf, h.loads, h.named⟩, fun h => ⟨h.1, h.2.1, h.2.2⟩⟩
  obtain ⟨r, hr⟩ : ∃ r, d.networkNamed fs name = .ok r := by
    rw [networkNamed, hnames]
    exact ⟨_, rfl⟩
  refine ⟨r, hr, ?_⟩
  cases r with
  | none =>
    intro n l h
    obtain ⟨hn, hload, hname⟩ := (gives_iff n l).mp h.1
    exact (networkNamed_eq_none_iff hnames).mp hr n hn ⟨l, hload, hname⟩
  | some l =>
    obtain ⟨n, hn, hload, hname, hbest⟩ := (networkNamed_eq_some_iff hnames).mp hr
    have hgives : d.GivesNamed fs all name n l := (gives_iff n l).mpr ⟨hn, hload, hname⟩
    have hbest : ∀ m k, d.GivesNamed fs all name m k →
        (isListName m = true → isListName n = true) ∧ (isListName m = isListName n → n ≤ m) := by
      intro m k h
      obtain ⟨hm, hloadm, hnamem⟩ := (gives_iff m k).mp h
      exact hbest m hm ⟨k, hloadm, hnamem⟩
    refine ⟨n, ⟨hgives, ?_⟩, fun m k h => Bytes.ofString_le_iff.mpr ?_⟩
    · by_cases hlist : IsList n
      · exact .inl hlist
      · refine .inr fun m k h hm => hlist ?_
        exact isListName_iff.mp ((hbest m k h).1 (isListName_iff.mpr hm))
    · obtain ⟨h, hturn⟩ := h
      refine (hbest m k h).2 ?_
      rcases hturn with hlist | hsingle
      · have hm := isListName_iff.mpr hlist
        rw [hm, (hbest m k h).1 hm]
      · have hm := mt isListName_iff.mp (hsingle m k h)
        have hn := mt isListName_iff.mp (hsingle n l hgives)
        rw [eq_false_of_ne_true hm, eq_false_of_ne_true hn]

/-- Both lookups in a directory that cannot be listed: one that does not exist has no networks. -/
def unlisted (e : IoFault) : Except Failure (Option ConfList) :=
  if e = .notFound then .ok none else .error (.io e)

theorem lookups_of_error {e : IoFault} (hall : fs.readDirectory d.networks = .error e)
    (name : String) :
    d.defaultNetwork fs = unlisted e ∧ d.networkNamed fs name = unlisted e := by
  rw [defaultNetwork, networkNamed, confNames, hall, unlisted]
  split_ifs with hmissing
  · rw [hmissing]
    exact ⟨rfl, rfl⟩
  · cases e with
    | notFound => exact absurd rfl hmissing
    | _ => exact ⟨rfl, rfl⟩

/-! ### In any order -/

theorem isConf_congr (h : FileSystem.SameContent fs other) (hmem : ∀ n, n ∈ others ↔ n ∈ all) :
    d.IsConf other others n ↔ d.IsConf fs all n := by
  have hfile : other.isFile (d.file n) = fs.isFile (d.file n) := by
    rw [FileSystem.isFile, FileSystem.isFile, h.resolve_eq]
  exact ⟨fun h => ⟨(hmem n).mp h.listed, h.named, hfile ▸ h.isFile⟩,
    fun h => ⟨(hmem n).mpr h.listed, h.named, hfile.symm ▸ h.isFile⟩⟩

theorem givesDefault_congr (h : FileSystem.SameContent fs other)
    (hmem : ∀ n, n ∈ others ↔ n ∈ all) : d.GivesDefault other others = d.GivesDefault fs all := by
  funext n l
  have hload := load_congr (h.resolve_eq (d.file n))
  exact propext ⟨
    fun g => ⟨(isConf_congr h hmem).mp g.conf, g.foreign, hload ▸ g.loads, g.delegates⟩,
    fun g => ⟨(isConf_congr h hmem).mpr g.conf, g.foreign, hload.symm ▸ g.loads, g.delegates⟩⟩

theorem givesNamed_congr (h : FileSystem.SameContent fs other)
    (hmem : ∀ n, n ∈ others ↔ n ∈ all) (name : String) :
    d.GivesNamed other others name = d.GivesNamed fs all name := by
  funext n l
  have hload := load_congr (h.resolve_eq (d.file n))
  exact propext ⟨fun g => ⟨(isConf_congr h hmem).mp g.conf, hload ▸ g.loads, g.named⟩,
    fun g => ⟨(isConf_congr h hmem).mpr g.conf, hload.symm ▸ g.loads, g.named⟩⟩

/-- **The order of listing does not matter.** -/
theorem lookups_of_sameContent (h : FileSystem.SameContent fs other) (name : String) :
    d.defaultNetwork other = d.defaultNetwork fs ∧
      d.networkNamed other name = d.networkNamed fs name := by
  cases hall : fs.readDirectory d.networks with
  | error e =>
    obtain ⟨hdefault, hnamed⟩ := lookups_of_error hall name
    obtain ⟨hdefault', hnamed'⟩ := lookups_of_error (h.readDirectory_error hall) name
    exact ⟨hdefault'.trans hdefault.symm, hnamed'.trans hnamed.symm⟩
  | ok all =>
    obtain ⟨others, hothers, hmem⟩ := h.exists_readDirectory hall
    constructor
    · obtain ⟨r, hr, hfirst⟩ := defaultNetwork_firstGiven hall
      obtain ⟨r', hr', hfirst'⟩ := defaultNetwork_firstGiven hothers
      rw [givesDefault_congr h hmem] at hfirst'
      rw [hr, hr', hfirst'.unique (fun _ _ _ g g' => g.eq g') hfirst]
    · obtain ⟨r, hr, hfirst⟩ := networkNamed_firstGiven hall name
      obtain ⟨r', hr', hfirst'⟩ := networkNamed_firstGiven hothers name
      rw [givesNamed_congr h hmem] at hfirst'
      rw [hr, hr', hfirst'.unique (fun _ _ _ g g' => g.1.eq g'.1) hfirst]

/-- **What both lookups find.** They fail just where the directory cannot be listed, and a missing one
has no networks. In a directory that can be listed the configuration files are taken in the order of
the bytes of their names: the default network is what the first file gives that is not the program's
own and holds a network of another plugin; a network with a name is what the first list with the name
gives, or else the first single plugin with it. No other file matters, nor the order in which the
directory is listed. -/
theorem lookups_find_first (d : Directory) (fs : FileSystem) (name : String) :
    (∀ e, fs.readDirectory d.networks = .error e →
      d.defaultNetwork fs = unlisted e ∧ d.networkNamed fs name = unlisted e) ∧
    (∀ all, fs.readDirectory d.networks = .ok all →
      (∃ names : List String, d.confFiles fs = .ok (names.map d.file) ∧
        (∀ n, n ∈ names ↔ d.IsConf fs all n) ∧
        names.Pairwise fun n m => Bytes.ofString n ≤ Bytes.ofString m) ∧
      (∃ r, d.defaultNetwork fs = .ok r ∧ FirstGiven (d.GivesDefault fs all) r) ∧
      ∃ r, d.networkNamed fs name = .ok r ∧ FirstGiven (InTurn (d.GivesNamed fs all name)) r) ∧
    ∀ other, FileSystem.SameContent fs other →
      d.defaultNetwork other = d.defaultNetwork fs ∧
        d.networkNamed other name = d.networkNamed fs name :=
  ⟨fun _ hall => lookups_of_error hall name,
    fun _ hall => ⟨exists_confFiles hall, defaultNetwork_firstGiven hall,
      networkNamed_firstGiven hall name⟩,
    fun _ h => lookups_of_sameContent h name⟩

/-- A network of `weave-net`. -/
def weaveNetConf : Object :=
  [("cniVersion", .str "0.3.0"), ("name", .str "weave"), ("type", .str "weave-net")]

/-- A network of the same name, with a list of plugins. -/
def weaveNetList : Json :=
  .obj [("cniVersion", .str "0.4.0"), ("name", .str "weave"),
    ("plugins", .arr [.obj [("type", .str "weave-net")], .obj [("type", .str "portmap")]])]

/-- A directory with both networks, with an empty configuration and with one that must not be read,
whose names come first. -/
def cluttered : FileSystem :=
  ⟨[(["30-weave.conflist"], .file (Bytes.ofString weaveNetList.compact) 0o644),
    (["20-weave.conf"], .file (Bytes.ofString (Json.compact (.obj weaveNetConf))) 0o644),
    (["10-empty.conf"], .file (Bytes.ofString (Json.compact (.obj []))) 0o644),
    (["05-locked.conflist"], .file [] 0)], []⟩

/-- The same directory, listed in another order. -/
def clutteredReversed : FileSystem :=
  ⟨cluttered.entries.reverse, []⟩

/-- What the file with one plugin gives. -/
def weaveNetSingle : ConfList := ⟨"0.3.0", "weave", [weaveNetConf], []⟩

/-- What the file with the list gives. -/
def weaveNetLoaded : ConfList :=
  ⟨"0.4.0", "weave", [[("type", .str "weave-net")], [("type", .str "portmap")]], []⟩

theorem resolve_cluttered {n : String} {content : Bytes} {mode : Nat} (hname : Path.IsName n)
    (hshort : n.utf8ByteSize ≤ FileSystem.maxNameLength)
    (hcheck : FileSystem.checkPath (Path.join "/" n) = .ok ())
    (hat : cluttered.at? [n] = some (.file content mode)) :
    cluttered.resolve (file ⟨"/", []⟩ n) = .ok (.entry [n] (.file content mode)) :=
  FileSystem.resolve_root hname hshort hcheck hat

theorem load_single_cluttered :
    load cluttered (file ⟨"/", []⟩ "20-weave.conf") = .ok weaveNetSingle := by
  refine load_of_resolve (resolve_cluttered (by decide) (by decide) (by decide) (by rfl)) (by rfl) ?_
  exact parseNamed_compact (by rfl) ⟨trivial, trivial, trivial, trivial⟩ (by rfl) (by rfl)

theorem load_list_cluttered :
    load cluttered (file ⟨"/", []⟩ "30-weave.conflist") = .ok weaveNetLoaded := by
  have hfileName : Path.fileName? (file ⟨"/", []⟩ "30-weave.conflist") = some "30-weave.conflist" :=
    Path.fileName?_join (by decide)
  have hexact : weaveNetList.Exact :=
    ⟨trivial, trivial, ⟨⟨trivial, trivial⟩, ⟨trivial, trivial⟩, trivial⟩, trivial⟩
  refine load_of_resolve (resolve_cluttered (by decide) (by decide) (by decide) (by rfl)) (by rfl) ?_
  rw [hfileName, parseNamed, Option.any_some, if_pos (by decide), ConfList.parse,
    Json.Document.read?_compact hexact]
  rfl

/-- The two other files cannot be loaded. -/
theorem load_cluttered {n : String} {l : ConfList} (hn : n ∈ cluttered.namesAt [])
    (hload : load cluttered (file ⟨"/", []⟩ n) = .ok l) :
    n = "20-weave.conf" ∨ n = "30-weave.conflist" := by
  have hall : cluttered.namesAt [] =
      ["30-weave.conflist", "20-weave.conf", "10-empty.conf", "05-locked.conflist"] := by rfl
  simp only [hall, List.mem_cons, List.not_mem_nil, or_false] at hn
  rcases hn with rfl | rfl | rfl | rfl
  · exact .inr rfl
  · exact .inl rfl
  · have hfileName : Path.fileName? (file ⟨"/", []⟩ "10-empty.conf") = some "10-empty.conf" :=
      Path.fileName?_join (by decide)
    have hjson : Json.read? (Bytes.ofString (Json.compact (.obj []))) = some (.obj []) := by
      rw [Json.read?, Json.Document.read?_compact (v := .obj []) trivial]
      rfl
    obtain ⟨f, hf⟩ : ∃ f, parseNamed (some "10-empty.conf")
        (Bytes.ofString (Json.compact (.obj []))) = .error f := by
      rw [parseNamed, Option.any_some, if_neg (by decide), ConfList.parseConf, hjson]
      exact ⟨_, rfl⟩
    rw [load, FileSystem.readFile,
      resolve_cluttered (by decide) (by decide) (by decide) (by rfl), hfileName] at hload
    dsimp only at hload
    rw [if_pos (by rfl)] at hload
    dsimp only at hload
    rw [hf] at hload
    cases hload
  · rw [load, FileSystem.readFile,
      resolve_cluttered (by decide) (by decide) (by decide) (by rfl)] at hload
    cases hload

/-- Both networks are found past the other two files, in whichever order the directory is listed: the
first one as the default network, and the list by the name of both. -/
theorem lookups_find_first_cluttered :
    defaultNetwork ⟨"/", []⟩ cluttered = .ok (some weaveNetSingle) ∧
      networkNamed ⟨"/", []⟩ cluttered "weave" = .ok (some weaveNetLoaded) ∧
      defaultNetwork ⟨"/", []⟩ clutteredReversed = .ok (some weaveNetSingle) ∧
      networkNamed ⟨"/", []⟩ clutteredReversed "weave" = .ok (some weaveNetLoaded) := by
  obtain ⟨-, hfound, horder⟩ := lookups_find_first ⟨"/", []⟩ cluttered "weave"
  obtain ⟨-, ⟨r, hr, hdefault⟩, r', hr', hnamed⟩ := hfound _ (FileSystem.readDirectory_slash _)
  have isConfSingle : IsConf ⟨"/", []⟩ cluttered (cluttered.namesAt []) "20-weave.conf" := by
    refine ⟨by decide, ⟨"20-weave", by decide, .inl rfl⟩, ?_⟩
    rw [FileSystem.isFile, resolve_cluttered (by decide) (by decide) (by decide) (by rfl)]
  have isConfList : IsConf ⟨"/", []⟩ cluttered (cluttered.namesAt []) "30-weave.conflist" := by
    refine ⟨by decide, ⟨"30-weave", by decide, .inr rfl⟩, ?_⟩
    rw [FileSystem.isFile, resolve_cluttered (by decide) (by decide) (by decide) (by rfl)]
  have isDefault : FirstGiven (GivesDefault ⟨"/", []⟩ cluttered (cluttered.namesAt []))
      (some weaveNetSingle) := by
    refine ⟨_, ⟨isConfSingle, by decide, load_single_cluttered, by decide⟩, fun m k g => ?_⟩
    rcases load_cluttered g.conf.listed g.loads with rfl | rfl <;> decide
  have isNamed : FirstGiven (InTurn (GivesNamed ⟨"/", []⟩ cluttered (cluttered.namesAt []) "weave"))
      (some weaveNetLoaded) := by
    have hlist : IsList "30-weave.conflist" := ⟨"30-weave", by decide, rfl⟩
    have hgives : GivesNamed ⟨"/", []⟩ cluttered (cluttered.namesAt []) "weave" "30-weave.conflist"
        weaveNetLoaded := ⟨isConfList, load_list_cluttered, rfl⟩
    refine ⟨_, ⟨hgives, .inl hlist⟩, fun m k g => ?_⟩
    rcases load_cluttered g.1.conf.listed g.1.loads with rfl | rfl
    · rcases g.2 with hsingle | hnone
      · exact absurd (isListName_iff.mpr hsingle) (by decide)
      · exact absurd hlist (hnone _ _ hgives)
    · exact List.le_refl _
  obtain ⟨hsameDefault, hsameNamed⟩ := horder clutteredReversed
    (FileSystem.sameContent_of_perm (List.reverse_perm _) (by decide))
  rw [hdefault.unique (fun _ _ _ g g' => g.eq g') isDefault] at hr
  rw [hnamed.unique (fun _ _ _ g g' => g.1.eq g'.1) isNamed] at hr'
  exact ⟨hr, hr', hsameDefault.trans hr, hsameNamed.trans hr'⟩

end Directory

end PodNet
