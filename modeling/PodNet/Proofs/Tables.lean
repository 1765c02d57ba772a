import Mathlib.Data.List.Perm.Subperm
import PodNet.Table

/-!
# Looking up and erasing what was written

A lookup in a table after an insertion finds the new value under the key of the insertion and the
old ones elsewhere, whether or not the table is in order. Merging is insertion again and again, so
below it the lookup finds what the entries of the second table say, if these say one thing, and the
keys of both tables are there (`has_merge`). Writing keeps the order of the keys (`Ordered`), and
entries under different keys are all kept, in whatever order (`ofList_perm`), and under no others
(`length_merge_eq_iff`). Erasing a key undoes writing under it, also when something was written under
a greater key afterwards. Picking entries by their keys can be done before or after writing them
(`keep_ofList`).
-/

namespace PodNet.Table

variable {α : Type}

theorem get?_insert (k k' : String) (v : α) (t : Table α) :
    get? k (insert k' v t) = if k = k' then some v else get? k t := by
  induction t with
  | nil => rw [insert, get?_cons]
  | cons e t ih =>
    rw [insert]
    split
    · rw [get?_cons]
    · split
      · rename_i hkey
        subst hkey
        rw [get?_cons, get?_cons]
        by_cases h : k = e.1
        · rw [if_pos h, if_pos h]
        · rw [if_neg h, if_neg h, if_neg h]
      · rename_i hkey
        rw [get?_cons, get?_cons, ih]
        by_cases h : k = e.1
        · rw [if_pos h, if_pos h, if_neg (fun hk => hkey (hk.symm.trans h))]
        · rw [if_neg h, if_neg h]

@[simp] theorem get?_insert_self (k : String) (v : α) (t : Table α) :
    get? k (insert k v t) = some v := by
  rw [get?_insert, if_pos rfl]

theorem get?_insert_of_ne {k k' : String} (h : k ≠ k') (v : α) (t : Table α) :
    get? k (insert k' v t) = get? k t := by
  rw [get?_insert, if_neg h]

theorem mem_insert_self (k : String) (v : α) (t : Table α) : (k, v) ∈ insert k v t := by
  induction t with
  | nil => exact List.mem_cons_self
  | cons e t ih =>
    rw [insert]
    split
    · exact List.mem_cons_self
    · split
      · exact List.mem_cons_self
      · exact List.mem_cons_of_mem _ ih

theorem eq_or_mem_of_mem_insert {k : String} {v : α} {t : Table α} {e : String × α}
    (h : e ∈ insert k v t) : e = (k, v) ∨ e ∈ t := by
  induction t with
  | nil => exact .inl (List.mem_singleton.mp h)
  | cons d t ih =>
    rw [insert] at h
    split at h
    · exact List.mem_cons.mp h
    · split at h
      · rcases List.mem_cons.mp h with h | h
        · exact .inl h
        · exact .inr (List.mem_cons_of_mem _ h)
      · rcases List.mem_cons.mp h with rfl | h
        · exact .inr List.mem_cons_self
        · exact (ih h).imp_right (List.mem_cons_of_mem _)

theorem merge_cons (t : Table α) (e : String × α) (u : Table α) :
    merge t (e :: u) = merge (insert e.1 e.2 t) u := rfl

/-- A key that the second table does not have keeps its value. -/
theorem get?_merge_of_forall_ne {k : String} {u : Table α} (h : ∀ e ∈ u, e.1 ≠ k) (t : Table α) :
    get? k (merge t u) = get? k t := by
  induction u generalizing t with
  | nil => rfl
  | cons e u ih =>
    rw [merge_cons, ih fun d hd => h d (List.mem_cons_of_mem _ hd),
      get?_insert_of_ne (h e List.mem_cons_self).symm]

/-- A key for which the second table has one value gets that. -/
theorem get?_merge_of_mem {k : String} {v : α} {u : Table α} (hmem : (k, v) ∈ u)
    (h : ∀ e ∈ u, e.1 = k → e.2 = v) (t : Table α) : get? k (merge t u) = some v := by
  induction u generalizing t with
  | nil => cases hmem
  | cons e u ih =>
    have hrest : ∀ d ∈ u, d.1 = k → d.2 = v := fun d hd => h d (List.mem_cons_of_mem _ hd)
    rw [merge_cons]
    by_cases hagain : (k, v) ∈ u
    · exact ih hagain hrest _
    · -- the entry at hand is the last one with the key
      have he : e = (k, v) := ((List.mem_cons.mp hmem).resolve_right hagain).symm
      have hnone : ∀ d ∈ u, d.1 ≠ k := by
        intro d hd hkey
        have hsame : d = (k, v) := Prod.ext hkey (hrest d hd hkey)
        rw [hsame] at hd
        exact hagain hd
      rw [get?_merge_of_forall_ne hnone, he, get?_insert_self]

/-! ### Keys that are there -/

theorem has_iff (k : String) (t : Table α) : has k t = true ↔ k ∈ t.map Prod.fst := by
  induction t with
  | nil => simp [has]
  | cons e t ih =>
    rw [has, get?_cons, List.map_cons, List.mem_cons, ← ih]
    by_cases h : k = e.1
    · simp [h]
    · simp [h, has]

/-- The keys after an insertion. -/
theorem has_insert (k k' : String) (v : α) (t : Table α) :
    has k (insert k' v t) = true ↔ k = k' ∨ has k t = true := by
  rw [has, get?_insert, has]
  by_cases h : k = k' <;> simp [h]

/-- The keys of both tables are there after merging. -/
theorem has_merge (k : String) (t u : Table α) :
    has k (merge t u) = true ↔ has k t = true ∨ has k u = true := by
  induction u generalizing t with
  | nil => simp [merge, has]
  | cons e u ih =>
    rw [merge_cons, ih, has_insert, has_iff k (e :: u), List.map_cons,
      List.mem_cons, ← has_iff, or_assoc, or_left_comm]

/-- The keys of a table of entries are those of the entries. -/
theorem has_ofList (k : String) (entries : List (String × α)) :
    has k (ofList entries) = true ↔ k ∈ entries.map Prod.fst := by
  rw [← has_iff, ofList, ← merge, has_merge]
  simp [has]

/-! ### Keys in order -/

/-- The keys of the table ascend. -/
def Ordered (t : Table α) : Prop :=
  (t.map Prod.fst).Pairwise (· < ·)

/-- Writing keeps the order. -/
theorem Ordered.insert {t : Table α} (h : Ordered t) (k : String) (v : α) :
    Ordered (Table.insert k v t) := by
  unfold Ordered at h ⊢
  induction t with
  | nil => exact List.pairwise_singleton _ _
  | cons e t ih =>
    rw [List.map_cons, List.pairwise_cons] at h
    obtain ⟨hfirst, hrest⟩ := h
    rw [Table.insert]
    split
    · rename_i hlt
      refine List.pairwise_cons.mpr ⟨fun key hkey => ?_, List.pairwise_cons.mpr ⟨hfirst, hrest⟩⟩
      rcases List.mem_cons.mp hkey with rfl | hkey
      · exact hlt
      · exact String.lt_trans hlt (hfirst key hkey)
    · split
      · rename_i hkey
        subst hkey
        exact List.pairwise_cons.mpr ⟨hfirst, hrest⟩
      · rename_i hge hne
        refine List.pairwise_cons.mpr ⟨fun key hkey => ?_, ih hrest⟩
        obtain ⟨d, hd, rfl⟩ := List.mem_map.mp hkey
        rcases eq_or_mem_of_mem_insert hd with rfl | hd
        · exact Classical.byContradiction fun hle =>
            hne (String.le_antisymm (String.not_lt.mp hle) (String.not_lt.mp hge))
        · exact hfirst d.1 (List.mem_map_of_mem hd)

/-! ### Tables that are in order -/

theorem insert_of_forall_lt {t : Table α} {k : String} (h : ∀ e ∈ t, e.1 < k) (v : α) :
    insert k v t = t ++ [(k, v)] := by
  induction t with
  | nil => rfl
  | cons e t ih =>
    obtain ⟨hlt, hrest⟩ := List.forall_mem_cons.mp h
    have hne : k ≠ e.1 := fun heq => String.lt_irrefl e.1 (heq ▸ hlt)
    rw [insert, if_neg (String.lt_asymm hlt), if_neg hne, ih hrest, List.cons_append]

/-- Entries with ascending keys are put behind each other. -/
theorem merge_of_ordered {t u : Table α} (h : Ordered (t ++ u)) : merge t u = t ++ u := by
  induction u generalizing t with
  | nil => simp [merge]
  | cons e u ih =>
    have hlt : ∀ d ∈ t, d.1 < e.1 := by
      intro d hd
      rw [Ordered, List.map_append, List.pairwise_append] at h
      exact h.2.2 d.1 (List.mem_map_of_mem hd) e.1 (by simp)
    rw [merge_cons, insert_of_forall_lt hlt, ih (by simpa using h)]
    simp

/-- A list of entries in order is its own table. -/
theorem ofList_eq_self {t : Table α} (h : Ordered t) : ofList t = t :=
  merge_of_ordered (t := []) h

/-- A table of entries is in order and has no others. -/
theorem ordered_merge {t : Table α} (h : Ordered t) (u : Table α) :
    Ordered (merge t u) ∧ ∀ e ∈ merge t u, e ∈ t ∨ e ∈ u := by
  induction u generalizing t with
  | nil => exact ⟨h, fun e he => .inl he⟩
  | cons d u ih =>
    obtain ⟨hordered, hmem⟩ := ih (h.insert d.1 d.2)
    refine ⟨hordered, fun e he => ?_⟩
    rcases hmem e he with he | he
    · rcases eq_or_mem_of_mem_insert he with rfl | he
      · exact .inr List.mem_cons_self
      · exact .inl he
    · exact .inr (List.mem_cons_of_mem d he)

theorem ordered_ofList (entries : List (String × α)) : Ordered (ofList entries) :=
  (ordered_merge (t := []) .nil entries).1

theorem mem_of_mem_ofList {entries : List (String × α)} {e : String × α} (h : e ∈ ofList entries) :
    e ∈ entries :=
  ((ordered_merge (t := []) .nil entries).2 e h).resolve_left List.not_mem_nil

theorem mem_of_get? {t : Table α} {k : String} {v : α} (h : get? k t = some v) : (k, v) ∈ t := by
  obtain ⟨before, after, rfl, -⟩ := List.lookup_eq_some_iff.mp h
  simp

theorem Ordered.nodup {t : Table α} (h : Ordered t) : (t.map Prod.fst).Nodup := by
  refine List.Pairwise.imp (fun {k l} hlt => ?_) h
  rintro rfl
  exact String.lt_irrefl k hlt

/-! ### Keys that differ -/

/-- A new key is added somewhere. -/
theorem insert_perm {k : String} {t : Table α} (h : k ∉ t.map Prod.fst) (v : α) :
    (insert k v t).Perm ((k, v) :: t) := by
  induction t with
  | nil => rfl
  | cons e t ih =>
    rw [List.map_cons, List.mem_cons, not_or] at h
    rw [insert]
    split
    · rfl
    · rw [if_neg h.1]
      exact ((ih h.2).cons e).trans (.swap _ _ t)

/-- Entries under different keys are all kept. -/
theorem merge_perm {t u : Table α} (h : ((t ++ u).map Prod.fst).Nodup) :
    (merge t u).Perm (t ++ u) := by
  induction u generalizing t with
  | nil => rw [merge, List.foldl_nil, List.append_nil]
  | cons e u ih =>
    have hnew : e.1 ∉ t.map Prod.fst := by
      rw [List.map_append, List.nodup_append] at h
      exact fun hmem => h.2.2 e.1 hmem e.1 List.mem_cons_self rfl
    have hstep : (insert e.1 e.2 t ++ u).Perm (t ++ e :: u) :=
      ((insert_perm hnew e.2).append_right u).trans List.perm_middle.symm
    have hnodup : ((insert e.1 e.2 t ++ u).map Prod.fst).Nodup :=
      (hstep.map Prod.fst).nodup_iff.mpr h
    rw [merge_cons]
    exact (ih hnodup).trans hstep

/-- Merging keeps the number of entries just if no key is written twice. -/
theorem length_merge_eq_iff {t : Table α} (h : Ordered t) (u : Table α) :
    (merge t u).length = t.length + u.length ↔ ((t ++ u).map Prod.fst).Nodup := by
  constructor
  · intro hlength
    have hnodup : ((merge t u).map Prod.fst).Nodup := (ordered_merge h u).1.nodup
    have hsubset : (merge t u).map Prod.fst ⊆ (t ++ u).map Prod.fst := by
      intro k hk
      rw [List.map_append, List.mem_append, ← has_iff, ← has_iff, ← has_merge]
      exact (has_iff k _).mpr hk
    have hperm := (hnodup.subperm hsubset).perm_of_length_le (by simp [hlength])
    exact hperm.nodup_iff.mp hnodup
  · intro hnodup
    rw [(merge_perm hnodup).length_eq, List.length_append]

/-- The table of entries under different keys has these entries. -/
theorem ofList_perm {entries : List (String × α)} (h : (entries.map Prod.fst).Nodup) :
    (ofList entries).Perm entries :=
  merge_perm h

/-! ### All but one key -/

theorem erase_cons (k : String) (e : String × α) (t : Table α) :
    erase k (e :: t) = if e.1 = k then erase k t else e :: erase k t := by
  by_cases h : e.1 = k
  · rw [if_pos h, erase, List.filter_cons_of_neg (by simp [h]), ← erase]
  · rw [if_neg h, erase, List.filter_cons_of_pos (by simp [h]), ← erase]

/-- What was written is erased. -/
theorem erase_insert_self (k : String) (v : α) (t : Table α) :
    erase k (insert k v t) = erase k t := by
  induction t with
  | nil => rw [insert, erase_cons, if_pos rfl]
  | cons e t ih =>
    rw [insert]
    split
    · rw [erase_cons, if_pos rfl]
    · split
      · rename_i hkey
        rw [erase_cons, erase_cons, if_pos rfl, if_pos hkey.symm]
      · rw [erase_cons, erase_cons, ih]

/-- An entry under a smaller key is passed over on the way to the place of the new one. -/
theorem erase_insert_of_lt {k k' : String} (h : k < k') (v : α) (t : Table α) :
    erase k (insert k' v t) = insert k' v (erase k t) := by
  have hne : k' ≠ k := fun heq => String.lt_irrefl k (heq ▸ h)
  induction t with
  | nil => rw [insert, erase_cons, if_neg hne]; rfl
  | cons e t ih =>
    by_cases hkey : e.1 = k
    · have hgreater : ¬ k' < e.1 := fun hlt => String.lt_irrefl k (String.lt_trans h (hkey ▸ hlt))
      rw [insert, if_neg hgreater, if_neg (hkey ▸ hne), erase_cons, if_pos hkey, erase_cons,
        if_pos hkey, ih]
    · rw [erase_cons, if_neg hkey, insert, insert]
      split
      · rw [erase_cons, if_neg hne, erase_cons, if_neg hkey]
      · split
        · rw [erase_cons, if_neg hne]
        · rw [erase_cons, if_neg hkey, ih]

/-! ### Some of the keys -/

/-- The entries with the keys that are wanted. -/
def keep (wanted : String → Bool) (t : Table α) : Table α :=
  t.filter fun e => wanted e.1

variable {wanted : String → Bool}

theorem keep_cons (wanted : String → Bool) (e : String × α) (t : Table α) :
    keep wanted (e :: t) = if wanted e.1 = true then e :: keep wanted t else keep wanted t :=
  List.filter_cons

theorem insert_of_forall_gt {k : String} {t : Table α} (h : ∀ e ∈ t, k < e.1) (v : α) :
    insert k v t = (k, v) :: t := by
  cases t with
  | nil => rfl
  | cons e t => rw [insert, if_pos (h e List.mem_cons_self)]

/-- Whether an entry is kept does not depend on when it is written. -/
theorem keep_insert {t : Table α} (h : Ordered t) (k : String) (v : α) :
    keep wanted (insert k v t) =
      if wanted k = true then insert k v (keep wanted t) else keep wanted t := by
  induction t with
  | nil => rw [insert, keep_cons]; rfl
  | cons e t ih =>
    obtain ⟨hfirst, hrest⟩ := List.pairwise_cons.mp h
    rw [insert]
    split
    · rename_i hlt
      have hless : ∀ d ∈ keep wanted (e :: t), k < d.1 := by
        intro d hd
        rcases List.mem_cons.mp (List.mem_filter.mp hd).1 with heq | hd
        · rw [heq]
          exact hlt
        · exact String.lt_trans hlt (hfirst d.1 (List.mem_map_of_mem hd))
      rw [keep_cons, insert_of_forall_gt hless]
    · rename_i hge
      split
      · rename_i hkey
        subst hkey
        rw [keep_cons, keep_cons]
        split
        · rw [insert, if_neg hge, if_pos rfl]
        · rfl
      · rename_i hne
        rw [keep_cons, keep_cons, ih hrest]
        by_cases he : wanted e.1 = true
        · rw [if_pos he, if_pos he, insert, if_neg hge, if_neg hne]
          split <;> rfl
        · rw [if_neg he, if_neg he]

theorem keep_merge {t : Table α} (h : Ordered t) (u : Table α) :
    keep wanted (merge t u) = merge (keep wanted t) (keep wanted u) := by
  induction u generalizing t with
  | nil => rfl
  | cons e u ih =>
    rw [merge_cons, ih (h.insert e.1 e.2), keep_insert h, keep_cons]
    split
    · rw [merge_cons]
    · rfl

/-- The kept entries of a table of entries are the table of those that are to be kept. -/
theorem keep_ofList (wanted : String → Bool) (entries : List (String × α)) :
    keep wanted (ofList entries) = ofList (keep wanted entries) :=
  keep_merge (t := []) .nil entries

/-- A key is looked up among the entries that have it. -/
theorem get?_keep_self (k : String) (t : Table α) : get? k (keep (· == k) t) = get? k t := by
  induction t with
  | nil => rfl
  | cons e t ih =>
    rw [keep_cons, get?_cons]
    by_cases h : e.1 = k
    · rw [if_pos (beq_iff_eq.mpr h), get?_cons, ih]
    · rw [if_neg (fun hb => h (beq_iff_eq.mp hb)), if_neg (Ne.symm h), ih]

end PodNet.Table
