import PodNet.Proofs.InterfaceNames
import PodNet.Proofs.Json.Values
import PodNet.Proofs.Results
import PodNet.Proofs.Sweep
import PodNet.Status

/-!
# Counted addresses

The older status puts every further address under the key of the next number, and takes the number
from a count that it carries beside the addresses. What others wrote need not agree with itself: a
count that is missing counts as none, and addresses may stand under the keys of numbers that are still
to come. Then a further address is written over one that was there. So the status grows, keeping what
it had, just if no address stands under one of the next keys (`Status.multiIp_grows_iff`); without its
count a status loses addresses (`Status.multiIp_loses_uncounted`).
-/

namespace PodNet

namespace MultiIp

variable {m : MultiIp} {made : List (Attachment × AddResult)} {start j : Nat}

/-! ### The next keys -/

theorem key_injective : Function.Injective key :=
  Text.append_toString_injective "ip"

/-- What the status says about an attachment: its first address, if it has one, and its interface. -/
def preference (e : Attachment × AddResult) : IpPreference :=
  ⟨e.2.addresses.head?.getD "", e.1.request.interface⟩

/-- The first address of a result is that of its first entry, up to a slash. -/
theorem toList_head?_addresses (r : AddResult) : (r.addresses.head?.getD "").toList =
    (r.ips.head?.map fun ip => ip.address.toList.takeWhile (· ≠ '/')).getD [] := by
  have h := congrArg List.head? r.map_toList_addresses
  rw [List.head?_map, List.head?_map] at h
  rw [← h]
  cases r.addresses.head? <;> rfl

/-- Attachments under the keys that come after a number. -/
def numbered (start : Nat) (made : List (Attachment × AddResult)) : List (String × IpPreference) :=
  made.mapIdx fun j e => (key (start + j + 1), preference e)

theorem numbered_cons (start : Nat) (e : Attachment × AddResult)
    (made : List (Attachment × AddResult)) :
    numbered start (e :: made) = (key (start + 1), preference e) :: numbered (start + 1) made := by
  simp only [numbered, List.mapIdx_cons, Nat.add_zero, Nat.add_comm, Nat.add_left_comm]

theorem length_numbered (start : Nat) (made : List (Attachment × AddResult)) :
    (numbered start made).length = made.length :=
  List.length_mapIdx

/-- Adding one address after another is merging with the next keys. -/
theorem foldl_push (m : MultiIp) (made : List (Attachment × AddResult)) :
    made.foldl (fun m e => m.push (e.2.addresses.head?.getD "") e.1.request.interface) m =
      ⟨m.entries + made.length, Table.merge m.ips (numbered m.entries made)⟩ := by
  induction made generalizing m with
  | nil => rfl
  | cons e made ih =>
    rw [List.foldl_cons, ih, numbered_cons, Table.merge_cons, List.length_cons, ← Nat.add_assoc,
      Nat.add_right_comm]
    rfl

theorem mem_numbered_iff {e : String × IpPreference} :
    e ∈ numbered start made ↔ ∃ j d, made[j]? = some d ∧ e = (key (start + j + 1), preference d) := by
  simp only [numbered, List.mem_iff_getElem?, List.getElem?_mapIdx, Option.map_eq_some_iff]
  refine exists_congr fun j => exists_congr fun d => and_congr_right fun _ => eq_comm

theorem mem_keys_numbered {k : String} :
    k ∈ (numbered start made).map Prod.fst ↔ ∃ j < made.length, k = key (start + j + 1) := by
  constructor
  · intro hk
    obtain ⟨e, he, rfl⟩ := List.mem_map.mp hk
    obtain ⟨j, d, hd, rfl⟩ := mem_numbered_iff.mp he
    exact ⟨j, (List.getElem?_eq_some_iff.mp hd).1, rfl⟩
  · rintro ⟨j, hj, rfl⟩
    exact List.mem_map.mpr
      ⟨_, mem_numbered_iff.mpr ⟨j, made[j], List.getElem?_eq_getElem hj, rfl⟩, rfl⟩

theorem nodup_numbered (start : Nat) (made : List (Attachment × AddResult)) :
    ((numbered start made).map Prod.fst).Nodup := by
  induction made generalizing start with
  | nil => exact List.nodup_nil
  | cons e made ih =>
    rw [numbered_cons, List.map_cons]
    refine List.nodup_cons.mpr ⟨fun hmem => ?_, ih (start + 1)⟩
    obtain ⟨j, -, hkey⟩ := mem_keys_numbered.mp hmem
    have := key_injective hkey
    omega

/-- The next keys are new to the table. -/
def Fresh (m : MultiIp) (n : Nat) : Prop :=
  ∀ j < n, Table.has (key (m.entries + j + 1)) m.ips = false

theorem fresh_iff (ordered : Table.Ordered m.ips) (made : List (Attachment × AddResult)) :
    m.Fresh made.length ↔ ((m.ips ++ numbered m.entries made).map Prod.fst).Nodup := by
  rw [List.map_append, List.nodup_append]
  constructor
  · refine fun hfresh => ⟨ordered.nodup, nodup_numbered _ _, ?_⟩
    rintro k hk _ hnew rfl
    obtain ⟨j, hj, rfl⟩ := mem_keys_numbered.mp hnew
    rw [← Table.has_iff, hfresh j hj] at hk
    cases hk
  · rintro ⟨-, -, hdisjoint⟩ j hj
    rw [Bool.eq_false_iff]
    intro hhas
    exact hdisjoint _ ((Table.has_iff _ _).mp hhas) _ (mem_keys_numbered.mpr ⟨j, hj, rfl⟩) rfl

/-! ### Growing -/

/-- **The status has grown** to another one by so many addresses: what it had is still there under its
key, and there are so many more. -/
structure GrewBy (m : MultiIp) (n : Nat) (after : MultiIp) : Prop where
  kept : ∀ k p, Table.get? k m.ips = some p → Table.get? k after.ips = some p
  length_eq : after.ips.length = m.ips.length + n

theorem get?_merge_numbered {e : Attachment × AddResult} (he : made[j]? = some e)
    (t : Table IpPreference) :
    Table.get? (key (start + j + 1)) (Table.merge t (numbered start made)) = some (preference e) := by
  refine Table.get?_merge_of_mem (mem_numbered_iff.mpr ⟨j, e, he, rfl⟩) (fun d hd hkey => ?_) t
  obtain ⟨i, f, hf, rfl⟩ := mem_numbered_iff.mp hd
  have hi : i = j := by
    have := key_injective hkey
    omega
  subst hi
  rw [hf] at he
  rw [Option.some.inj he]

theorem get?_merge_numbered_of_ne {k : String} (h : ∀ j < made.length, k ≠ key (start + j + 1))
    (t : Table IpPreference) :
    Table.get? k (Table.merge t (numbered start made)) = Table.get? k t := by
  refine Table.get?_merge_of_forall_ne (fun e he hkey => ?_) t
  obtain ⟨j, hj, hj'⟩ := mem_keys_numbered.mp (List.mem_map_of_mem he)
  exact h j hj (hkey.symm.trans hj')

/-- Merging the next keys lets the status grow just if they are new. -/
theorem grewBy_merge_iff (ordered : Table.Ordered m.ips) (made : List (Attachment × AddResult))
    (entries : Nat) :
    m.GrewBy made.length ⟨entries, Table.merge m.ips (numbered m.entries made)⟩ ↔
      m.Fresh made.length := by
  have hlength := Table.length_merge_eq_iff ordered (numbered m.entries made)
  rw [length_numbered, ← fresh_iff ordered] at hlength
  refine ⟨fun hgrew => hlength.mp hgrew.length_eq, fun hfresh => ⟨fun k p hk => ?_, hlength.mpr hfresh⟩⟩
  rw [get?_merge_numbered_of_ne fun j hj hkey => ?_, hk]
  have hnew := hfresh j hj
  rw [← hkey, Table.has, hk] at hnew
  cases hnew

/-! ### Reading and writing -/

/-- The addresses of a status that is read are in the order of their keys. -/
theorem ordered_of_ofBytes? {b : Bytes} (h : ofBytes? b = some m) : Table.Ordered m.ips := by
  obtain ⟨d, -, hd⟩ := Option.bind_eq_some_iff.mp h
  simp only [ofDocument?, Option.bind_eq_bind, Option.bind_eq_some_iff] at hd
  obtain ⟨values, -, hd⟩ := hd
  split at hd
  · simp only [Option.bind_eq_some_iff] at hd
    obtain ⟨count, -, addresses, haddresses, heq⟩ := hd
    cases heq
    rcases Json.Document.of_withDefault haddresses with rfl | ⟨item, hitem⟩
    · exact .nil
    · unfold Json.Document.table? at hitem
      split at hitem
      · obtain ⟨members, -, rfl⟩ := Option.map_eq_some_iff.mp hitem
        exact Table.ordered_ofList members
      · cases hitem
  · cases hd

/-- The addresses as members of an object. -/
def members (ips : Table IpPreference) : List (String × Json) :=
  ips.map fun e => (e.1, e.2.toJson)

/-- Addresses in the order of their keys are read as they were written. -/
theorem table?_members {ips : Table IpPreference} (ordered : Table.Ordered ips) :
    Json.Document.table? IpPreference.ofDocument? (.ofJson (.obj (members ips))) = some ips := by
  have hentries : (Json.Document.ofMembers (members ips)).mapM
      (Json.Document.table?.entry IpPreference.ofDocument?) = some ips := by
    clear ordered
    induction ips with
    | nil => rfl
    | cons e rest ih =>
      show ((some e.1, Json.Document.ofJson e.2.toJson) ::
        Json.Document.ofMembers (members rest)).mapM _ = _
      rw [List.mapM_cons, ih]
      rfl
  show Option.map Table.ofList ((Json.Document.ofMembers (members ips)).mapM _) = _
  rw [hentries, Option.map_some, Table.ofList_eq_self ordered]

/-- **What is written can be read back** as long as the count fits a word of 32 bits. -/
theorem ofBytes?_compact (ordered : Table.Ordered m.ips) (fits : m.entries < Nat.pow 2 32) :
    ofBytes? (Bytes.ofString m.toJson.compact) = some m := by
  have hmembers : (Json.obj (members m.ips)).Exact := by
    rw [Json.exact_obj_iff]
    intro e he
    obtain ⟨p, -, rfl⟩ := List.mem_map.mp he
    exact ⟨trivial, trivial, trivial⟩
  have hexact : m.toJson.Exact := by
    have bound : m.entries < 0x100000000 := fits
    refine ⟨?_, hmembers, trivial⟩
    show (-0x8000000000000000 : Int) ≤ m.entries ∧ (m.entries : Int) < 0x10000000000000000
    omega
  have hrecord : Json.Document.record? [["multi-entry", "multi_entry"], ["ips"]]
      (.ofJson m.toJson) = some [some (.ofJson (.nat m.entries)),
        some (.ofJson (.obj (members m.ips)))] := rfl
  rw [ofBytes?, Json.Document.read?_compact hexact, Option.bind_some, ofDocument?, hrecord]
  show (do
    let entries ← Json.Document.nat? 32 (.ofJson (.nat m.entries))
    let ips ← Json.Document.table? IpPreference.ofDocument? (.ofJson (.obj (members m.ips)))
    return (⟨entries, ips⟩ : MultiIp)) = _
  rw [Json.Document.nat?_nat fits, table?_members ordered]
  rfl

end MultiIp

namespace Status

open MultiIp
open Delegation (flannelNetwork)

variable {text : String} {m : MultiIp} {attachments : List Attachment} {results : List AddResult}

/-- The new status has the next keys besides what could be read. -/
theorem multiIp_eq (read : ofBytes? (Bytes.ofString text) = some m) (attachments : List Attachment)
    (results : List AddResult) :
    multiIp (some text) attachments results =
      ⟨m.entries + (attachments.zip results).length,
        Table.merge m.ips (numbered m.entries (attachments.zip results))⟩ := by
  rw [← foldl_push, multiIp, Option.bind_some, read, Option.getD_some]

theorem length_zip_of_paired (paired : attachments.length = results.length) :
    (attachments.zip results).length = attachments.length := by
  rw [List.length_zip, ← paired, Nat.min_self]

theorem grewBy_multiIp_iff (read : ofBytes? (Bytes.ofString text) = some m)
    (paired : attachments.length = results.length) :
    m.GrewBy attachments.length (multiIp (some text) attachments results) ↔
      m.Fresh attachments.length := by
  rw [multiIp_eq read, ← length_zip_of_paired paired]
  exact grewBy_merge_iff (ordered_of_ofBytes? read) _ _

/-- What is written is in order. -/
theorem ordered_multiIp (read : ofBytes? (Bytes.ofString text) = some m) :
    Table.Ordered (multiIp (some text) attachments results).ips := by
  rw [multiIp_eq read]
  exact (Table.ordered_merge (ordered_of_ofBytes? read) _).1

/-- **The older status grows just if the next keys are new to it.** It counts one address for each
attachment, has the first address and the interface of each under the next keys in order, and leaves
all other keys as they are. So it keeps what it had, and has one address more for each attachment, if
and only if there was no address under any of the next keys. As long as the count fits a word of 32
bits, what is written can be read back; how a count goes on that does not fit is not said here. -/
theorem multiIp_grows_iff (read : ofBytes? (Bytes.ofString text) = some m)
    (paired : attachments.length = results.length) :
    let after := multiIp (some text) attachments results
    after.entries = m.entries + attachments.length ∧
    (∀ (j : Nat) a r, attachments[j]? = some a → results[j]? = some r →
      ∃ p, Table.get? (key (m.entries + j + 1)) after.ips = some p ∧
        p.interface = a.request.interface ∧ p.ip.toList =
          (r.ips.head?.map fun ip => ip.address.toList.takeWhile (· ≠ '/')).getD []) ∧
    (∀ k, (∀ j < attachments.length, k ≠ key (m.entries + j + 1)) →
      Table.get? k after.ips = Table.get? k m.ips) ∧
    (m.GrewBy attachments.length after ↔
      ∀ j < attachments.length, Table.has (key (m.entries + j + 1)) m.ips = false) ∧
    (m.entries + attachments.length < Nat.pow 2 32 →
      ofBytes? (Bytes.ofString after.toJson.compact) = some after) := by
  have hentries : (multiIp (some text) attachments results).entries =
      m.entries + attachments.length := by
    rw [multiIp_eq read, length_zip_of_paired paired]
  refine ⟨hentries, fun j a r ha hr => ?_, fun k hk => ?_, grewBy_multiIp_iff read paired,
    fun fits => ofBytes?_compact (ordered_multiIp read) (hentries.symm ▸ fits)⟩
  · have hmade : (attachments.zip results)[j]? = some (a, r) :=
      List.getElem?_zip_eq_some.mpr ⟨ha, hr⟩
    refine ⟨preference (a, r), ?_, rfl, toList_head?_addresses r⟩
    rw [multiIp_eq read]
    exact get?_merge_numbered hmade m.ips
  · rw [← length_zip_of_paired paired] at hk
    rw [multiIp_eq read]
    exact get?_merge_numbered_of_ne hk m.ips

/-- A result with an address. -/
def flannelResult : AddResult :=
  ⟨"0.3.1", [], [⟨some "4", "10.244.0.5/24", none, none⟩], [], .empty⟩

/-- A status with one address. -/
def oneAddress : MultiIp := ⟨1, [("ip1", ⟨"192.168.0.9", "eth9"⟩)]⟩

/-- An attachment gets the key `ip2` in that status. -/
theorem multiIp_grows_iff_flannel :
    let text := oneAddress.toJson.compact
    let after := multiIp (some text) [flannelNetwork] [flannelResult]
    ofBytes? (Bytes.ofString text) = some oneAddress ∧
      after.entries = 2 ∧ Table.get? "ip2" after.ips = some ⟨"10.244.0.5", "eth0"⟩ ∧
      oneAddress.GrewBy 1 after := by
  have hexact : oneAddress.toJson.Exact :=
    ⟨⟨by decide, by decide⟩, ⟨⟨trivial, trivial, trivial⟩, trivial⟩, trivial⟩
  have hread : ofBytes? (Bytes.ofString oneAddress.toJson.compact) = some oneAddress := by
    rw [ofBytes?, Json.Document.read?_compact hexact]
    rfl
  have hpaired : [flannelNetwork].length = [flannelResult].length := rfl
  obtain ⟨hentries, hnew, -, hgrew, -⟩ := multiIp_grows_iff hread hpaired
  obtain ⟨⟨ip, interface⟩, hget, hinterface, hip⟩ := hnew 0 _ _ rfl rfl
  have hsame : ip = "10.244.0.5" := String.toList_inj.mp (hip.trans (by rfl))
  cases hinterface
  exact ⟨hread, hentries, hsame ▸ hget, hgrew.mpr (by decide)⟩

/-- The same status without its count. -/
def uncounted : Json :=
  .obj [("ips", .obj [("ip1", .obj [("ip", .str "192.168.0.9"), ("interfaces", .str "eth9")])])]

/-- In a status without its count an attachment takes the key `ip1`, and the address is lost. -/
theorem multiIp_loses_uncounted :
    let m : MultiIp := ⟨0, oneAddress.ips⟩
    let after := multiIp (some uncounted.compact) [flannelNetwork] [flannelResult]
    ofBytes? (Bytes.ofString uncounted.compact) = some m ∧
      after = ⟨1, [("ip1", ⟨"10.244.0.5", "eth0"⟩)]⟩ ∧ ¬ m.GrewBy 1 after := by
  have hexact : uncounted.Exact := ⟨⟨⟨trivial, trivial, trivial⟩, trivial⟩, trivial⟩
  have hread : ofBytes? (Bytes.ofString uncounted.compact) = some ⟨0, oneAddress.ips⟩ := by
    rw [ofBytes?, Json.Document.read?_compact hexact]
    rfl
  have hafter : multiIp (some uncounted.compact) [flannelNetwork] [flannelResult] =
      ⟨1, [("ip1", ⟨"10.244.0.5", "eth0"⟩)]⟩ := by
    rw [multiIp, Option.bind_some, hread]
    rfl
  refine ⟨hread, hafter, fun hgrew => ?_⟩
  have hkept := hgrew.kept "ip1" ⟨"192.168.0.9", "eth9"⟩ rfl
  rw [hafter] at hkept
  revert hkept
  decide

end Status

end PodNet
