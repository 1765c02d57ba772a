import PodNet.Proofs.Json.Values
import PodNet.Proofs.ResultRecords
import PodNet.Proofs.Results

/-!
# Results that are printed are read back

A result that was read, whether it came with the blocks of version 0.2.0 or without, is read back from
what it prints (`AddResult.codec_roundTrip`): there are no such blocks any more, positions are small
enough to be read, and records nest three levels deep at most. What is printed for another version of
the plugin interface is read as the same result but for that version and what the addresses state of
theirs (`AddResult.StatedIn`), and printing that again for the version changes nothing.
-/

namespace PodNet

open Json (present)

open Json.Document (ofJson)

/-! ### How deep records nest -/

theorem Json.fits_strings (b : Nat) (l : List String) : (strings l).Fits (b + 1) := by
  refine fits_arr_iff.mpr fun v hv => ?_
  obtain ⟨s, -, rfl⟩ := List.mem_map.mp hv
  exact fits_str b s

theorem Json.fits_records {α : Type} {b : Nat} {write : α → Json} {l : List α}
    (h : ∀ a ∈ l, (write a).Fits b) : (Json.arr (l.map write)).Fits (b + 1) := by
  refine fits_arr_iff.mpr fun v hv => ?_
  obtain ⟨a, ha, rfl⟩ := List.mem_map.mp hv
  exact h a ha

theorem Dns.fits_toJson (d : Dns) : d.toJson.Fits 2 := by
  rw [toJson_eq]
  refine Json.fits_present ?_
  simp [fields, Json.fits_strings, Json.fits_str]

theorem Interface.fits_toJson (i : Interface) : i.toJson.Fits 1 := by
  rw [toJson_eq]
  refine Json.fits_present ?_
  simp [fields, Json.fits_str]

theorem Route.fits_toJson (r : Route) : r.toJson.Fits 1 := by
  rw [toJson_eq]
  refine Json.fits_present ?_
  simp [fields, Json.fits_str]

theorem IpConfig.fits_toJson {ip : IpConfig} (h : ip.Positioned) : ip.toJson.Fits 1 := by
  have hposition : ∀ n, ip.interface = some n → (Json.nat n).Fits 0 := by
    intro n hn
    have hlt : n < Nat.pow 2 64 := h n hn
    refine ⟨Nat.le_refl 0, ?_, ?_⟩
    · omega
    · have hpow : Nat.pow 2 64 = 0x10000000000000000 := rfl
      omega
  rw [toJson_eq]
  refine Json.fits_present ?_
  simpa [fields, Json.fits_str] using hposition

namespace AddResult

variable {r : AddResult}

theorem fits_toJson (h : r.Positioned) : r.toJson.Fits 3 := by
  have hinterfaces := Json.fits_records (l := r.interfaces) fun i _ => i.fits_toJson
  have hips := Json.fits_records (l := r.ips) fun ip hip => IpConfig.fits_toJson (h ip hip)
  have hroutes := Json.fits_records (l := r.routes) fun r _ => r.fits_toJson
  rw [toJson_eq]
  refine Json.fits_present ?_
  simp [fields, Json.fits_str, hinterfaces, hips, hroutes, Dns.fits_toJson]

/-! ### Reading back -/

theorem ofDocument?_toValue (h : r.Positioned) : ofDocument? (ofJson r.toValue) = some r := by
  have hvalue := ofValue_toValue h
  unfold ofValue at hvalue
  split at hvalue
  · rename_i hread
    cases hvalue
    exact hread
  · cases hvalue

/-- A result as a generic value has members with the names of its fields. -/
theorem exists_toValue_eq (r : AddResult) :
    ∃ members, r.toValue = .obj members ∧ ∀ m ∈ members, m.1 ∈ r.fields.map Prod.fst := by
  refine ⟨_, by rw [toValue, toJson_eq, Json.sorted], fun m hm => ?_⟩
  have hmember : m ∈ present (r.fields.map fun f => (f.1, f.2.map Json.sorted)) := by
    rw [← Json.sortedMembers_present]
    exact Table.mem_of_mem_ofList hm
  have hkey := (Json.keys_present_sublist _).subset (List.mem_map_of_mem (f := Prod.fst) hmember)
  simpa [Function.comp_def] using hkey

/-- Without blocks of version 0.2.0 the members are a record. -/
theorem ofMembers?_eq {members : Object} (four : ∀ m ∈ members, m.1 ≠ "ip4")
    (six : ∀ m ∈ members, m.1 ≠ "ip6") : ofMembers? members = ofDocument? (ofJson (.obj members)) := by
  have hblock : ∀ key, (∀ m ∈ members, m.1 ≠ key) → block? key members = some none ∧
      Table.erase key members = members := by
    intro key hkey
    have hnone : Table.get? key members = none :=
      List.lookup_eq_none_iff.mpr fun m hm => by simpa using (hkey m hm).symm
    refine ⟨by rw [block?, hnone], List.filter_eq_self.mpr fun m hm => ?_⟩
    simpa using hkey m hm
  rw [ofMembers?, (hblock "ip4" four).1, (hblock "ip6" six).1, (hblock "ip4" four).2,
    (hblock "ip6" six).2]
  simp

/-- **A result that was printed is read back**, if its positions can be read. -/
theorem Positioned.ofBytes_compact (h : r.Positioned) :
    ofBytes (Bytes.ofString r.toJson.compact) = .ok r := by
  obtain ⟨members, hmembers, hkeys⟩ := exists_toValue_eq r
  have hread : Json.read? (Bytes.ofString r.toJson.compact) = some (.obj members) := by
    rw [((fits_toJson h).mono (by decide)).read?_compact, ← toValue, hmembers]
  have hother : ∀ key, key ∉ r.fields.map Prod.fst → ∀ m ∈ members, m.1 ≠ key := by
    rintro key hkey m hm rfl
    exact hkey (hkeys m hm)
  have hblocks := ofMembers?_eq (hother "ip4" (by simp [fields])) (hother "ip6" (by simp [fields]))
  rw [ofBytes, hread]
  simp only
  rw [hblocks, ← hmembers, ofDocument?_toValue h]

end AddResult

/-! ### What is stated in a version -/

/-- **The address states its version in a result of the given version**: from 1.0.0 on it does not, and
before it states the one that it has, or else the one of the text before the slash. -/
structure IpConfig.StatedIn (version : String) (ip out : IpConfig) : Prop where
  address : out.address = ip.address
  gateway : out.gateway = ip.gateway
  interface : out.interface = ip.interface
  kept : ['0', '.'] <+: version.toList → ∀ w, ip.version = some w → out.version = some w
  six : ['0', '.'] <+: version.toList → ip.version = none →
    ':' ∈ ip.address.toList.takeWhile (· ≠ '/') → out.version = some "6"
  four : ['0', '.'] <+: version.toList → ip.version = none →
    ':' ∉ ip.address.toList.takeWhile (· ≠ '/') → out.version = some "4"
  unstated : ¬ ['0', '.'] <+: version.toList → out.version = none

/-- **The result as a result of the given version**: it differs in that version, and in what the
addresses state of theirs. -/
structure AddResult.StatedIn (version : String) (r out : AddResult) : Prop where
  cniVersion : out.cniVersion = version
  interfaces : out.interfaces = r.interfaces
  ips : List.Forall₂ (IpConfig.StatedIn version) r.ips out.ips
  routes : out.routes = r.routes
  dns : out.dns = r.dns

theorem IpConfig.inferredVersion_eq (ip : IpConfig) : ip.inferredVersion =
    if ':' ∈ ip.address.toList.takeWhile (· ≠ '/') then "6" else "4" := by
  rw [inferredVersion, Text.hasChar, toList_plain]
  by_cases h : ':' ∈ ip.address.toList.takeWhile (· ≠ '/')
  · rw [if_pos (by simpa using h), if_pos h]
  · rw [if_neg (by simpa using h), if_neg h]

theorem IpConfig.statedIn_forOutput (version : String) (ip : IpConfig) :
    ip.StatedIn version (ip.forOutput (AddResult.isLegacy version)) := by
  by_cases h : ['0', '.'] <+: version.toList
  · have hlegacy : AddResult.isLegacy version = true := List.isPrefixOf_iff_prefix.mpr h
    rw [hlegacy]
    refine ⟨rfl, rfl, rfl, fun _ w hw => ?_, fun _ hnone hsix => ?_, fun _ hnone hfour => ?_,
      fun hnot => absurd h hnot⟩
    · simp [forOutput, hw]
    · simp only [forOutput, hnone, inferredVersion_eq, if_pos hsix, if_true, Option.getD_none]
    · simp only [forOutput, hnone, inferredVersion_eq, if_neg hfour, if_true, Option.getD_none]
  · have hcurrent : AddResult.isLegacy version = false :=
      Bool.eq_false_iff.mpr fun hlegacy => h (List.isPrefixOf_iff_prefix.mp hlegacy)
    rw [hcurrent]
    exact ⟨rfl, rfl, rfl, fun hpos => absurd hpos h, fun hpos => absurd hpos h,
      fun hpos => absurd hpos h, fun _ => rfl⟩

/-- What is stated for a version stays as it is. -/
theorem IpConfig.forOutput_forOutput (legacy : Bool) (ip : IpConfig) :
    (ip.forOutput legacy).forOutput legacy = ip.forOutput legacy := by
  cases legacy
  · rfl
  · rfl

namespace AddResult

theorem statedIn_forVersion (version : String) (r : AddResult) :
    r.StatedIn version (r.forVersion version) := by
  refine ⟨rfl, rfl, ?_, rfl, rfl⟩
  rw [forVersion, List.forall₂_map_right_iff]
  exact List.forall₂_same.mpr fun ip _ => ip.statedIn_forOutput version

theorem Positioned.forVersion {r : AddResult} (h : r.Positioned) (version : String) :
    (r.forVersion version).Positioned := by
  intro ip hip
  obtain ⟨original, horiginal, rfl⟩ := List.mem_map.mp hip
  exact h original horiginal

theorem forVersion_forVersion (version : String) (r : AddResult) :
    (r.forVersion version).forVersion version = r.forVersion version := by
  simp [forVersion, IpConfig.forOutput_forOutput, Function.comp_def]

/-- **Reading undoes printing** for every result that was read: what it writes is read as the result, and
what it prints for a version is read as the result stated in that version, which prints the same for it
again. -/
theorem codec_roundTrip {b : Bytes} {r : AddResult} (read : ofBytes b = .ok r) (version : String) :
    ofBytes (Bytes.ofString r.toJson.compact) = .ok r ∧
      ∃ out, ofBytes (Bytes.ofString (r.output version)) = .ok out ∧ r.StatedIn version out ∧
        out.output version = r.output version := by
  have hpositioned := positioned_of_ofBytes read
  refine ⟨hpositioned.ofBytes_compact, r.forVersion version,
    (hpositioned.forVersion version).ofBytes_compact, statedIn_forVersion version r, ?_⟩
  rw [output, forVersion_forVersion, output]

/-- What a plugin of version 0.2.0 prints, with one block for each family. -/
def blocksDocument : Json :=
  .obj [("cniVersion", .str "0.2.0"),
    ("ip4", .obj [("ip", .str "10.244.1.5/24"), ("gateway", .str "10.244.1.1"),
      ("routes", .arr [.obj [("dst", .str "0.0.0.0/0")]])]),
    ("ip6", .obj [("ip", .str "fd00::5/64")]),
    ("dns", .obj [("nameservers", .arr [.str "10.96.0.10"])])]

/-- The result that is read of it. -/
def blocksResult : AddResult :=
  ⟨"0.2.0", [], [⟨some "4", "10.244.1.5/24", some "10.244.1.1", none⟩,
    ⟨some "6", "fd00::5/64", none, none⟩], [⟨"0.0.0.0/0", none⟩], ⟨["10.96.0.10"], none, [], []⟩⟩

theorem codec_roundTrip_blocks :
    ofBytes (Bytes.ofString blocksDocument.compact) = .ok blocksResult ∧
      ofBytes (Bytes.ofString blocksResult.toJson.compact) = .ok blocksResult ∧
      ∃ out, ofBytes (Bytes.ofString (blocksResult.output "1.0.0")) = .ok out ∧
        blocksResult.StatedIn "1.0.0" out ∧ out.output "1.0.0" = blocksResult.output "1.0.0" := by
  have hfits : blocksDocument.Fits Json.Document.maxDepth := by
    refine ⟨by decide, trivial, ⟨trivial, trivial, ?_, trivial⟩, ⟨trivial, trivial⟩, ?_, trivial⟩
    · exact ⟨⟨trivial, trivial⟩, trivial⟩
    · exact ⟨⟨trivial, trivial⟩, trivial⟩
  have hread : ofBytes (Bytes.ofString blocksDocument.compact) = .ok blocksResult := by
    rw [ofBytes, hfits.read?_compact]
    rfl
  exact ⟨hread, codec_roundTrip hread "1.0.0"⟩

end AddResult

end PodNet
