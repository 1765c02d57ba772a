import Mathlib.Data.List.Forall2
import PodNet.AddResult

/-!
# Merged results keep their references

Merging puts the interfaces, the addresses and the routes of several results behind each other. The
address of a result names its interface by position, so it is moved by the number of interfaces that
stand before those of its result (`rebased`). That number is the length of a list that grows while it
is used; over a whole run it is the number of interfaces of all results before (`foldl_append_eq`).

So every position that was within the interfaces of its result designates the copy of the same
interface afterwards. Moving twice is moving by the sum (`shifted_shifted`), which is why results may
as well be merged in groups (`merge_keeps_references`).
-/

namespace PodNet

/-! ### Moving positions -/

namespace IpConfig

theorem shifted_shifted (m n : Nat) (ip : IpConfig) :
    (ip.shifted m).shifted n = ip.shifted (m + n) := by
  obtain ⟨version, address, gateway, _ | k⟩ := ip <;> simp [shifted, Nat.add_assoc]

/-- **The copy of an address keeps its reference**, when the interfaces of its result stand at an
offset in other ones: it differs in its position only, and a position within the interfaces of the
result is that of the same interface among the other ones. -/
structure Keeps (offset : Nat) (own others : List Interface) (ip copy : IpConfig) : Prop where
  same : copy = { ip with interface := copy.interface }
  unplaced : ip.interface = none → copy.interface = none
  placed : ∀ i < own.length, ip.interface = some i →
    copy.interface = some (offset + i) ∧ others[offset + i]? = own[i]?

/-- A moved address keeps its reference into the list that its interfaces are put into. -/
theorem keeps_shifted (ip : IpConfig) (before own after : List Interface) :
    ip.Keeps before.length own (before ++ (own ++ after)) (ip.shifted before.length) := by
  refine ⟨rfl, fun hnone => ?_, fun i hi hplaced => ⟨?_, ?_⟩⟩
  · simp [shifted, hnone]
  · simp [shifted, hplaced, Nat.add_comm]
  · rw [List.getElem?_append_right (Nat.le_add_right _ _), Nat.add_sub_cancel_left,
      List.getElem?_append_left hi]

end IpConfig

namespace AddResult

variable {results xs ys : List AddResult}

/-- All interfaces of the results. -/
def interfacesOf (results : List AddResult) : List Interface :=
  results.flatMap (·.interfaces)

/-- The addresses of the results, those of each moved behind the interfaces of the results before it.
So many interfaces stand before all of them. -/
def rebased (offset : Nat) : List AddResult → List IpConfig
  | [] => []
  | r :: rest => r.ips.map (IpConfig.shifted offset) ++ rebased (offset + r.interfaces.length) rest

@[simp] theorem interfacesOf_nil : interfacesOf [] = [] := rfl

@[simp] theorem interfacesOf_cons (r : AddResult) (rest : List AddResult) :
    interfacesOf (r :: rest) = r.interfaces ++ interfacesOf rest := by
  simp [interfacesOf]

@[simp] theorem interfacesOf_append (xs ys : List AddResult) :
    interfacesOf (xs ++ ys) = interfacesOf xs ++ interfacesOf ys := by
  simp [interfacesOf]

theorem rebased_append (offset : Nat) (xs ys : List AddResult) :
    rebased offset (xs ++ ys) =
      rebased offset xs ++ rebased (offset + (interfacesOf xs).length) ys := by
  induction xs generalizing offset with
  | nil => simp [rebased]
  | cons r rest ih => simp [rebased, ih, Nat.add_assoc]

/-- Moving addresses that were moved already. -/
theorem map_shifted_rebased (offset more : Nat) (results : List AddResult) :
    (rebased offset results).map (IpConfig.shifted more) = rebased (offset + more) results := by
  induction results generalizing offset with
  | nil => rfl
  | cons r rest ih =>
    have hown : r.ips.map (IpConfig.shifted more ∘ IpConfig.shifted offset) =
        r.ips.map (IpConfig.shifted (offset + more)) :=
      List.map_congr_left fun ip _ => IpConfig.shifted_shifted offset more ip
    rw [rebased, rebased, List.map_append, List.map_map, hown, ih,
      Nat.add_right_comm offset r.interfaces.length more]

/-- Moving keeps the addresses, but for their positions, in number and order. -/
theorem forall₂_rebased (offset : Nat) (results : List AddResult) :
    List.Forall₂ (fun ip copy : IpConfig => copy = { ip with interface := copy.interface })
      (results.flatMap (·.ips)) (rebased offset results) := by
  induction results generalizing offset with
  | nil => exact .nil
  | cons r rest ih =>
    rw [List.flatMap_cons, rebased]
    refine List.rel_append ?_ (ih _)
    rw [List.forall₂_map_right_iff, List.forall₂_same]
    exact fun ip _ => rfl

/-! ### Merging -/

/-- **What putting results behind merged ones comes to.** -/
theorem foldl_append_eq (merged : AddResult) (results : List AddResult) :
    results.foldl append merged =
      { merged with
        interfaces := merged.interfaces ++ interfacesOf results
        ips := merged.ips ++ rebased merged.interfaces.length results
        routes := merged.routes ++ results.flatMap (·.routes) } := by
  induction results generalizing merged with
  | nil => simp [rebased]
  | cons r rest ih => simp [ih, append, rebased]

/-- **The merged result**, part by part. -/
theorem merge_eq (cniVersion : String) (results : List AddResult) :
    merge cniVersion results =
      ⟨cniVersion, interfacesOf results, rebased 0 results, results.flatMap (·.routes),
        (results.head?.map (·.dns)).getD .empty⟩ := by
  simp [merge, foldl_append_eq, empty]

/-- Results that are merged in two groups are merged. -/
theorem merge_merge (cniVersion first second : String) (hne : xs ≠ []) :
    merge cniVersion [merge first xs, merge second ys] = merge cniVersion (xs ++ ys) := by
  have hdns : (xs ++ ys).head? = xs.head? := List.head?_append_of_ne_nil _ hne
  have hfirst : (rebased 0 xs).map (IpConfig.shifted 0) = rebased 0 xs :=
    map_shifted_rebased 0 0 xs
  have hsecond : (rebased 0 ys).map (IpConfig.shifted (interfacesOf xs).length) =
      rebased (interfacesOf xs).length ys := by
    rw [map_shifted_rebased, Nat.zero_add]
  simp [merge_eq, rebased, rebased_append, hdns, hfirst, hsecond]

/-- **Merging results keeps every reference.** The merged result has the interfaces, the addresses and
the routes of all results in order, none lost and none twice, and the name service of the first
result. The copy of an address stands behind those of the results before and of its own result, and
keeps its reference to the copy of its interface. Results that are merged in two groups, whatever the
versions of these, come to the same. -/
theorem merge_keeps_references (cniVersion : String) (results : List AddResult) :
    let merged := merge cniVersion results
    merged.cniVersion = cniVersion ∧
      merged.interfaces = results.flatMap (·.interfaces) ∧
      merged.routes = results.flatMap (·.routes) ∧
      (merged.dns = match results with
        | [] => Dns.empty
        | first :: _ => first.dns) ∧
      List.Forall₂ (fun ip copy : IpConfig => copy = { ip with interface := copy.interface })
        (results.flatMap (·.ips)) merged.ips ∧
      (∀ before r after, results = before ++ r :: after → ∀ (n : Nat) ip, r.ips[n]? = some ip →
        ∃ copy, merged.ips[(before.flatMap (·.ips)).length + n]? = some copy ∧
          ip.Keeps (before.flatMap (·.interfaces)).length r.interfaces merged.interfaces copy) ∧
      ∀ xs ys first second, xs ≠ [] → results = xs ++ ys →
        merge cniVersion [merge first xs, merge second ys] = merged := by
  intro merged
  have hmerged : merged = _ := merge_eq cniVersion results
  rw [hmerged]
  refine ⟨rfl, rfl, rfl, ?_, forall₂_rebased 0 results, ?_, ?_⟩
  · cases results <;> rfl
  · rintro before r after rfl n ip hip
    have hlength := (forall₂_rebased 0 before).length_eq
    refine ⟨ip.shifted (interfacesOf before).length, ?_, ?_⟩
    · rw [rebased_append, rebased, Nat.zero_add, hlength,
        List.getElem?_append_right (Nat.le_add_right _ _), Nat.add_sub_cancel_left,
        List.getElem?_append_left]
      · rw [List.getElem?_map, hip, Option.map_some]
      · rw [List.length_map]
        exact (List.getElem?_eq_some_iff.mp hip).1
    · show ip.Keeps (interfacesOf before).length r.interfaces (interfacesOf (before ++ r :: after)) _
      rw [interfacesOf_append, interfacesOf_cons]
      exact ip.keeps_shifted _ _ _
  · rintro xs ys first second hne rfl
    rw [merge_merge cniVersion first second hne, merge_eq]

/-- A result with a bridge on the host and `eth0` in the pod, which has the address. -/
def bridged : AddResult where
  cniVersion := "0.3.1"
  interfaces := [⟨"cni0", "", ""⟩, ⟨"eth0", "aa:bb:cc:dd:ee:01", "/ns"⟩]
  ips := [⟨some "4", "10.244.0.5/24", none, some 1⟩, ⟨some "6", "fd00::5/64", none, none⟩]
  routes := []
  dns := ⟨["10.96.0.10"], none, [], []⟩

/-- A result with `eth1` in the pod, which has the address. -/
def secondary : AddResult where
  cniVersion := "0.4.0"
  interfaces := [⟨"eth1", "aa:bb:cc:dd:ee:02", "/ns"⟩]
  ips := [⟨none, "10.32.0.7/12", some "10.32.0.1", some 0⟩]
  routes := [⟨"10.32.0.0/12", none⟩]
  dns := ⟨["8.8.8.8"], none, [], []⟩

/-- Behind two other interfaces `eth1` is still the interface of its address. -/
theorem merge_keeps_references_secondary :
    ∃ copy, (merge "1.0.0" [bridged, secondary]).ips[2]? = some copy ∧
      copy.interface = some 2 ∧
      (merge "1.0.0" [bridged, secondary]).interfaces[2]? =
        some ⟨"eth1", "aa:bb:cc:dd:ee:02", "/ns"⟩ ∧
      merge "1.0.0" [merge "" [bridged], merge "" [secondary]] =
        merge "1.0.0" [bridged, secondary] := by
  obtain ⟨-, -, -, -, -, hkeeps, hgroups⟩ :=
    merge_keeps_references "1.0.0" [bridged, secondary]
  obtain ⟨copy, hcopy, h⟩ := hkeeps [bridged] secondary [] rfl 0 _ rfl
  obtain ⟨hinterface, hsame⟩ := h.placed 0 (by decide) rfl
  exact ⟨copy, hcopy, hinterface, hsame, hgroups [bridged] [secondary] "" "" (by simp) rfl⟩

end AddResult

end PodNet
