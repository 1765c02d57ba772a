import Mathlib.Data.List.Nodup
import PodNet.Proofs.Pieces
import PodNet.Usage

/-!
# The plugin with the least traffic

An interface belongs to a plugin whose name stands in its own, and a plugin carried what its interfaces
received and sent (`Usage.carried`). Among the candidates with an interface, one with the least
traffic is chosen, and of several the earliest candidate (`Usage.IsLeastUsed`). In what order the
interfaces are reported makes no difference (`Usage.leastUsed_minimal`).
-/

namespace PodNet.Usage

/-! ### What plugins carried -/

/-- The interface belongs to the plugin. -/
def Belongs (plugin : String) (i : InterfaceTraffic) : Prop :=
  plugin.toList <:+: i.name.toList

instance (plugin : String) (i : InterfaceTraffic) : Decidable (Belongs plugin i) :=
  inferInstanceAs (Decidable (plugin.toList <:+: i.name.toList))

/-- An interface belongs to the plugin. -/
def IsRanked (usage : List InterfaceTraffic) (plugin : String) : Prop :=
  ∃ i ∈ usage, Belongs plugin i

instance (usage : List InterfaceTraffic) (plugin : String) : Decidable (IsRanked usage plugin) :=
  inferInstanceAs (Decidable (∃ i ∈ usage, Belongs plugin i))

/-- The bytes that the interfaces of a plugin carried, in both directions. -/
def carried (plugin : String) : List InterfaceTraffic → Nat
  | [] => 0
  | i :: usage =>
    if Belongs plugin i then i.received + i.sent + carried plugin usage else carried plugin usage

/-- The same, counted in a word of 64 bits. -/
def counted (plugin : String) : List InterfaceTraffic → UInt64
  | [] => 0
  | i :: usage =>
    if Belongs plugin i then .ofNat (i.received + i.sent) + counted plugin usage
    else counted plugin usage

variable {candidates : List String} {usage reordered : List InterfaceTraffic} {plugin : String}

theorem isRanked_of_perm (h : usage.Perm reordered) :
    IsRanked usage plugin ↔ IsRanked reordered plugin :=
  exists_congr fun _ => and_congr_left' h.mem_iff

theorem carried_of_perm (h : usage.Perm reordered) :
    carried plugin usage = carried plugin reordered := by
  induction h with
  | nil => rfl
  | cons i _ ih => simp only [carried, ih]
  | swap i j usage =>
    simp only [carried]
    split_ifs <;> omega
  | trans _ _ ih ih' => exact ih.trans ih'

/-- A word counts what plugins carried, as long as that fits it. -/
theorem toNat_counted (fits : carried plugin usage < UInt64.size) :
    (counted plugin usage).toNat = carried plugin usage := by
  have hword : counted plugin usage = .ofNat (carried plugin usage) := by
    clear fits
    induction usage with
    | nil => rfl
    | cons i usage ih =>
      by_cases hbelongs : Belongs plugin i
      · rw [counted, carried, if_pos hbelongs, if_pos hbelongs, ih,
          UInt64.ofNat_add (i.received + i.sent)]
      · rw [counted, carried, if_neg hbelongs, if_neg hbelongs, ih]
  rw [hword, UInt64.toNat_ofNat_of_lt' fits]

/-- Where candidates are not repeated, an interface is charged once to each that it belongs to. -/
theorem filter_charge (distinct : candidates.Nodup) (hplugin : plugin ∈ candidates)
    (i : InterfaceTraffic) :
    ((candidates.filter fun p => Text.occurs p i.name).map fun p => (p, i.total)).filter
        (·.1 == plugin) =
      if Belongs plugin i then [(plugin, i.total)] else [] := by
  have honly : candidates.filter (· == plugin) = [plugin] := by
    rw [List.filter_beq, List.count_eq_one_of_mem distinct hplugin, List.replicate_one]
  have hown : (candidates.filter fun p => Text.occurs p i.name).filter (· == plugin) =
      if Belongs plugin i then [plugin] else [] := by
    rw [List.filter_comm, honly]
    by_cases hbelongs : Belongs plugin i
    · simp [hbelongs, Text.occurs_iff.mpr hbelongs]
    · simp [hbelongs, mt Text.occurs_iff.mp hbelongs]
  rw [List.filter_map]
  show List.map _ ((candidates.filter fun p => Text.occurs p i.name).filter (· == plugin)) = _
  rw [hown]
  split_ifs <;> rfl

/-- The charges of a candidate are those for its interfaces. -/
theorem filter_charges (distinct : candidates.Nodup) (hplugin : plugin ∈ candidates)
    (usage : List InterfaceTraffic) :
    (charges candidates usage).filter (·.1 == plugin) =
      (usage.filter (Belongs plugin ·)).map fun i => (plugin, i.total) := by
  induction usage with
  | nil => rfl
  | cons i usage ih =>
    rw [charges, List.flatMap_cons, List.filter_append, filter_charge distinct hplugin, ← charges, ih]
    by_cases hbelongs : Belongs plugin i <;> simp [hbelongs]

/-- What is charged to a plugin adds up to what it carried. -/
theorem foldr_charges (fits : ∀ i ∈ usage, i.received + i.sent < UInt64.size) :
    ((usage.filter (Belongs plugin ·)).map fun i => (plugin, i.total)).foldr (fun e n => e.2 + n) 0 =
      carried plugin usage := by
  induction usage with
  | nil => rfl
  | cons i usage ih =>
    rw [List.forall_mem_cons] at fits
    have htotal : i.total = i.received + i.sent := Nat.min_eq_left (Nat.le_sub_one_of_lt fits.1)
    by_cases hbelongs : Belongs plugin i <;> simp [carried, hbelongs, htotal, ← ih fits.2]

/-- **The traffic of a candidate** is what it carried, if an interface belongs to it. -/
theorem traffic?_eq_some_iff (distinct : candidates.Nodup)
    (fits : ∀ i ∈ usage, i.received + i.sent < UInt64.size) (hplugin : plugin ∈ candidates)
    {n : Nat} :
    traffic? candidates usage plugin = some n ↔ IsRanked usage plugin ∧ n = carried plugin usage := by
  have hempty : ((usage.filter (Belongs plugin ·)).map fun i => (plugin, i.total)).isEmpty = true ↔
      ¬IsRanked usage plugin := by
    simp [IsRanked, List.filter_eq_nil_iff]
  unfold traffic?
  dsimp only
  rw [filter_charges distinct hplugin, foldr_charges fits]
  by_cases hranked : IsRanked usage plugin
  · rw [if_neg (fun h => hempty.mp h hranked), Option.some.injEq, eq_comm]
    exact (and_iff_right hranked).symm
  · rw [if_pos (hempty.mpr hranked)]
    exact ⟨fun h => absurd h (by simp), fun h => absurd h.1 hranked⟩

/-! ### The least of them -/

/-- **The plugin is the least used** of the candidates: it has an interface, those with one before it
carried more, and those after it no less. -/
structure IsLeastUsed (candidates : List String) (usage : List InterfaceTraffic) (plugin : String) :
    Prop where
  ranked : IsRanked usage plugin
  first : ∃ before after, candidates = before ++ plugin :: after ∧
    (∀ p ∈ before, IsRanked usage p → carried plugin usage < carried p usage) ∧
    ∀ p ∈ after, IsRanked usage p → carried plugin usage ≤ carried p usage

theorem least_eq_none_iff {entries : List (String × Nat)} :
    least entries = none ↔ entries = [] := by
  cases entries with
  | nil => simp [least]
  | cons first rest =>
    rw [least]
    cases least rest with
    | none => simp
    | some best =>
      dsimp only
      split_ifs <;> simp

/-- The least entry stands after greater ones and before none that is less. -/
theorem exists_of_least {entries : List (String × Nat)} {e : String × Nat}
    (h : least entries = some e) : ∃ before after, entries = before ++ e :: after ∧
      (∀ b ∈ before, e.2 < b.2) ∧ ∀ a ∈ after, e.2 ≤ a.2 := by
  induction entries generalizing e with
  | nil => cases h
  | cons first rest ih =>
    rw [least] at h
    split at h
    · rename_i best hbest
      obtain ⟨before, after, rfl, hbefore, hafter⟩ := ih hbest
      split_ifs at h with hless <;> cases h
      · exact ⟨first :: before, after, rfl, List.forall_mem_cons.mpr ⟨hless, hbefore⟩, hafter⟩
      · have hfirst : first.2 ≤ best.2 := Nat.not_lt.mp hless
        refine ⟨[], _, rfl, by simp, ?_⟩
        rw [List.forall_mem_append, List.forall_mem_cons]
        exact ⟨fun b hb => hfirst.trans (hbefore b hb).le, hfirst,
          fun a ha => hfirst.trans (hafter a ha)⟩
    · rename_i hnone
      cases h
      exact ⟨[], [], by rw [least_eq_none_iff.mp hnone]; rfl, by simp, by simp⟩

/-- **The least entry** is the one that stands so. -/
theorem least_eq_some_iff {entries : List (String × Nat)} {e : String × Nat} :
    least entries = some e ↔ ∃ before after, entries = before ++ e :: after ∧
      (∀ b ∈ before, e.2 < b.2) ∧ ∀ a ∈ after, e.2 ≤ a.2 := by
  refine ⟨exists_of_least, ?_⟩
  rintro ⟨before, after, rfl, hbefore, hafter⟩
  induction before with
  | nil =>
    rw [List.nil_append, least]
    split
    · rename_i best hbest
      obtain ⟨_, _, rfl, -⟩ := exists_of_least hbest
      exact if_neg (Nat.not_lt.mpr (hafter best (by simp)))
    · rfl
  | cons first before ih =>
    rw [List.forall_mem_cons] at hbefore
    rw [List.cons_append, least, ih hbefore.2]
    exact if_pos hbefore.1

/-! ### The choice -/

/-- The candidates with an interface, each with what it carried. -/
theorem mem_entries_iff (distinct : candidates.Nodup)
    (fits : ∀ i ∈ usage, i.received + i.sent < UInt64.size) {ps : List String}
    (hps : ps ⊆ candidates) {e : String × Nat} :
    (e ∈ ps.filterMap fun p => (traffic? candidates usage p).map fun n => (p, n)) ↔
      e.1 ∈ ps ∧ IsRanked usage e.1 ∧ e.2 = carried e.1 usage := by
  simp only [List.mem_filterMap, Option.map_eq_some_iff]
  constructor
  · rintro ⟨p, hp, n, hn, rfl⟩
    exact ⟨hp, (traffic?_eq_some_iff distinct fits (hps hp)).mp hn⟩
  · rintro ⟨hp, htraffic⟩
    exact ⟨e.1, hp, e.2, (traffic?_eq_some_iff distinct fits (hps hp)).mpr htraffic, rfl⟩

/-- What is chosen is the least used of the candidates. -/
theorem leastUsed_eq_some_iff (distinct : candidates.Nodup)
    (fits : ∀ i ∈ usage, i.received + i.sent < UInt64.size) :
    leastUsed candidates usage = some plugin ↔ IsLeastUsed candidates usage plugin := by
  have hmem {ps : List String} (hps : ps ⊆ candidates) {e : String × Nat} :=
    mem_entries_iff distinct fits hps (e := e)
  unfold leastUsed
  constructor
  · intro h
    obtain ⟨⟨p, n⟩, hleast, rfl⟩ := Option.map_eq_some_iff.mp h
    obtain ⟨_, _, hentries, hless, hleq⟩ := exists_of_least hleast
    obtain ⟨front, back, hfront, rfl, hback⟩ := List.filterMap_eq_append_iff.mp hentries
    obtain ⟨between, q, after, rfl, hnone, hq, rfl⟩ := List.filterMap_eq_cons_iff.mp hback
    obtain ⟨_, htraffic, heq⟩ := Option.map_eq_some_iff.mp hq
    cases heq
    -- those between have no entry, so they are as good as those in front
    have hbetween := List.filterMap_eq_nil_iff.mpr hnone
    rw [← List.append_nil (List.filterMap _ front), ← hbetween, ← List.filterMap_append] at hless
    rw [← List.append_assoc] at hfront
    have hbefore : front ++ between ⊆ candidates := by
      rw [hfront]
      exact List.subset_append_left _ _
    have hafter : after ⊆ candidates := by
      rw [hfront]
      exact fun x hx => List.mem_append_right _ (List.mem_cons_of_mem _ hx)
    obtain ⟨hranked, rfl⟩ :=
      (traffic?_eq_some_iff distinct fits (by rw [hfront]; simp)).mp htraffic
    refine ⟨hranked, front ++ between, after, hfront, fun x hx h => ?_, fun x hx h => ?_⟩
    · exact hless (x, carried x usage) ((hmem hbefore).mpr ⟨hx, h, rfl⟩)
    · exact hleq (x, carried x usage) ((hmem hafter).mpr ⟨hx, h, rfl⟩)
  · rintro ⟨hranked, before, after, rfl, hless, hleq⟩
    have htraffic := (traffic?_eq_some_iff distinct fits (by simp)).mpr ⟨hranked, rfl⟩
    refine Option.map_eq_some_iff.mpr ⟨(plugin, carried plugin usage), ?_, rfl⟩
    rw [List.filterMap_append, List.filterMap_cons_some (by rw [htraffic]; rfl)]
    refine least_eq_some_iff.mpr ⟨_, _, rfl, fun b hb => ?_, fun a ha => ?_⟩
    · obtain ⟨hmem, hrank, heq⟩ := (hmem (List.subset_append_left _ _)).mp hb
      rw [heq]
      exact hless b.1 hmem hrank
    · obtain ⟨hmem, hrank, heq⟩ :=
        (hmem fun x hx => List.mem_append_right _ (List.mem_cons_of_mem _ hx)).mp ha
      rw [heq]
      exact hleq a.1 hmem hrank

theorem leastUsed_eq_none_iff (distinct : candidates.Nodup)
    (fits : ∀ i ∈ usage, i.received + i.sent < UInt64.size) :
    leastUsed candidates usage = none ↔ ∀ p ∈ candidates, ¬IsRanked usage p := by
  have hmem {e : String × Nat} :=
    mem_entries_iff distinct fits (List.Subset.refl candidates) (e := e)
  rw [leastUsed, Option.map_eq_none_iff, least_eq_none_iff, List.eq_nil_iff_forall_not_mem]
  constructor
  · intro h p hp hranked
    exact h (p, carried p usage) (hmem.mpr ⟨hp, hranked, rfl⟩)
  · intro h e he
    obtain ⟨hp, hranked, -⟩ := hmem.mp he
    exact h e.1 hp hranked

theorem IsLeastUsed.perm (h : IsLeastUsed candidates usage plugin) (hperm : usage.Perm reordered) :
    IsLeastUsed candidates reordered plugin := by
  have hranked (p : String) : IsRanked usage p = IsRanked reordered p :=
    propext (isRanked_of_perm hperm)
  have hcarried (p : String) : carried p usage = carried p reordered := carried_of_perm hperm
  obtain ⟨ranked, first⟩ := h
  simp only [hranked, hcarried] at ranked first
  exact ⟨ranked, first⟩

/-- **The choice is the least used candidate.** No plugin is chosen just if no interface belongs to a
candidate. Otherwise it is the earliest of those with an interface that carried the least, whatever
the order in which interfaces are reported. What one interface carried must fit a counter of 64 bits,
as more than that is not charged; and where all that a plugin carried fits one, that counter has it. -/
theorem leastUsed_minimal (distinct : candidates.Nodup)
    (fits : ∀ i ∈ usage, i.received + i.sent < UInt64.size) :
    (leastUsed candidates usage = none ↔
        ∀ p ∈ candidates, ∀ i ∈ usage, ¬p.toList <:+: i.name.toList) ∧
      (∀ plugin, leastUsed candidates usage = some plugin ↔
        IsLeastUsed candidates usage plugin) ∧
      (∀ reordered, usage.Perm reordered →
        leastUsed candidates reordered = leastUsed candidates usage) ∧
      ∀ plugin, carried plugin usage < UInt64.size →
        (counted plugin usage).toNat = carried plugin usage := by
  refine ⟨?_, fun _ => leastUsed_eq_some_iff distinct fits, fun reordered h => ?_,
    fun _ => toNat_counted⟩
  · rw [leastUsed_eq_none_iff distinct fits]
    exact forall₂_congr fun p _ => ⟨fun h i hi hb => h ⟨i, hi, hb⟩, fun h ⟨i, hi, hb⟩ => h i hi hb⟩
  · have hfits : ∀ i ∈ reordered, i.received + i.sent < UInt64.size :=
      fun i hi => fits i (h.mem_iff.mpr hi)
    refine Option.ext fun plugin => ?_
    rw [leastUsed_eq_some_iff distinct hfits, leastUsed_eq_some_iff distinct fits]
    exact ⟨fun hleast => hleast.perm h.symm, fun hleast => hleast.perm h⟩

/-- Of three candidates one has two interfaces, another only one with the same sum, and the third none:
the earlier of the two is chosen. -/
theorem leastUsed_minimal_weave :
    ["calico", "weave", "flannel"].Nodup ∧
      leastUsed ["calico", "weave", "flannel"]
        [⟨"flannel.1", 300, 200⟩, ⟨"weave", 100, 150⟩, ⟨"vethweplabc", 1, 1⟩,
          ⟨"vethweave0", 250, 0⟩] = some "weave" ∧
      leastUsed ["calico", "weave", "flannel"]
        [⟨"vethweave0", 250, 0⟩, ⟨"vethweplabc", 1, 1⟩, ⟨"weave", 100, 150⟩,
          ⟨"flannel.1", 300, 200⟩] = some "weave" := by
  have distinct : ["calico", "weave", "flannel"].Nodup := by decide
  have fits : ∀ i ∈ [⟨"flannel.1", 300, 200⟩, ⟨"weave", 100, 150⟩, ⟨"vethweplabc", 1, 1⟩,
      (⟨"vethweave0", 250, 0⟩ : InterfaceTraffic)], i.received + i.sent < UInt64.size := by decide
  obtain ⟨-, hchosen, hreordered, -⟩ := leastUsed_minimal distinct fits
  have hweave := (hchosen "weave").mpr ⟨⟨⟨"weave", 100, 150⟩, by simp, by decide⟩,
    ["calico"], ["flannel"], rfl, by decide, by decide⟩
  exact ⟨distinct, hweave, (hreordered _ (List.reverse_perm _).symm).trans hweave⟩

end PodNet.Usage
