import PodNet.Proofs.Sweep
import PodNet.Status

/-!
# Which hardware address a pod is told

A plugin that attaches an interface prints the interfaces of the host that it made beside the one in
the network namespace of the pod, in any order, and a name may come more than once. The status of an
attachment should show the hardware address of the interface in the pod. It shows the one of the first
interface with the name of the attachment that has one, wherever that lies. So there is one whenever
the interface in the pod has one, and it is that of an interface in the pod just if this first
interface lies in a network namespace, or one that does, later in the list, has the same address
(`Status.mac_of_pod_iff`). Where an interface of the host with that name comes first, the pod is told
the address of the host (`Status.mac_of_host`).
-/

namespace PodNet

/-! ### Interfaces with a name -/

namespace Interface

/-- The interface has the name, and a hardware address. -/
def Carries (name : String) (i : Interface) : Prop :=
  i.name = name ∧ i.mac ≠ ""

/-- The interface has the name, and lies in a network namespace. -/
def InPod (name : String) (i : Interface) : Prop :=
  i.name = name ∧ i.sandbox ≠ ""

end Interface

/-- **The first interface with the name that has a hardware address.** -/
def AddResult.FirstCarries (name : String) (r : AddResult) (i : Interface)
    (after : List Interface) : Prop :=
  ∃ before, r.interfaces = before ++ i :: after ∧ i.Carries name ∧ ∀ b ∈ before, ¬b.Carries name

namespace AddResult

variable {r : AddResult} {name : String} {i : Interface} {after : List Interface}

theorem carries_iff (name : String) (i : Interface) :
    (i.name == name && i.mac != "") = true ↔ i.Carries name := by
  rw [Bool.and_eq_true, beq_iff_eq, bne_iff_ne, Interface.Carries]

/-- The first interface is the one that is found. -/
theorem FirstCarries.macFor_eq (h : r.FirstCarries name i after) : r.macFor name = some i.mac := by
  obtain ⟨before, hsplit, hi, hbefore⟩ := h
  have hfound : r.interfaces.find? (fun i => i.name == name && i.mac != "") = some i :=
    List.find?_eq_some_iff_append.mpr ⟨(carries_iff name i).mpr hi, before, after, hsplit,
      fun b hb => by
        rw [Bool.not_eq_true', ← Bool.not_eq_true, carries_iff]
        exact hbefore b hb⟩
  rw [macFor, hfound, Option.map_some]

/-- **The hardware address is that of an interface in the pod** just if the first interface lies there,
or a later one with the same address does. -/
theorem FirstCarries.exists_inPod_iff (h : r.FirstCarries name i after) :
    (∃ own ∈ r.interfaces, own.InPod name ∧ own.mac = i.mac) ↔
      i.sandbox ≠ "" ∨ ∃ own ∈ after, own.InPod name ∧ own.mac = i.mac := by
  obtain ⟨before, hsplit, hi, hbefore⟩ := h
  rw [hsplit]
  constructor
  · rintro ⟨own, hown, hpod, heq⟩
    rcases List.mem_append.mp hown with hown | hown
    · -- before the first one no interface has the name and an address
      exact absurd ⟨hpod.1, heq ▸ hi.2⟩ (hbefore own hown)
    · rcases List.mem_cons.mp hown with rfl | hown
      · exact .inl hpod.2
      · exact .inr ⟨own, hown, hpod, heq⟩
  · rintro (hsandbox | ⟨own, hown, hpod, heq⟩)
    · exact ⟨i, by simp, ⟨hi.1, hsandbox⟩, rfl⟩
    · exact ⟨own, by simp [hown], hpod, heq⟩

/-- Where an interface has the name and a hardware address, there is a first one. -/
theorem exists_firstCarries (h : ∃ i ∈ r.interfaces, i.Carries name) :
    ∃ i after, r.FirstCarries name i after := by
  obtain ⟨j, hj, hcarries⟩ := h
  have hsome : (r.interfaces.find? fun i => i.name == name && i.mac != "").isSome = true :=
    List.find?_isSome.mpr ⟨j, hj, (carries_iff name j).mpr hcarries⟩
  obtain ⟨i, hi⟩ := Option.isSome_iff_exists.mp hsome
  obtain ⟨hown, before, after, hsplit, hbefore⟩ := List.find?_eq_some_iff_append.mp hi
  refine ⟨i, after, before, hsplit, (carries_iff name i).mp hown, fun b hb hcarries => ?_⟩
  have hnot := hbefore b hb
  rw [(carries_iff name b).mpr hcarries] at hnot
  cases hnot

/-- A hardware address is found just if an interface with the name has one. -/
theorem macFor_getD_ne_iff (r : AddResult) (name : String) :
    (r.macFor name).getD "" ≠ "" ↔ ∃ i ∈ r.interfaces, i.Carries name := by
  constructor
  · intro h
    by_contra hnone
    have hnothing : r.interfaces.find? (fun i => i.name == name && i.mac != "") = none :=
      List.find?_eq_none.mpr fun i hi hcarries => hnone ⟨i, hi, (carries_iff name i).mp hcarries⟩
    rw [macFor, hnothing] at h
    exact h rfl
  · intro h
    obtain ⟨i, after, hfirst⟩ := exists_firstCarries h
    rw [hfirst.macFor_eq]
    obtain ⟨-, -, hcarries, -⟩ := hfirst
    exact hcarries.2

end AddResult

namespace Status

open Delegation (flannelNetwork)

variable {attachments : List Attachment} {results : List AddResult} {n : Nat} {a : Attachment}
  {r : AddResult}

/-- **Which hardware address the status shows.** There is an entry for each attachment with a result. It
shows the address of the first interface of the result that has the name and an address, and none if
there is no such interface. So where an interface in the pod has one, an address is shown; and what is
shown is the address of an interface in the pod with that name just if the first one lies in a network
namespace, or a later one with the same address does. -/
theorem mac_of_pod_iff (attached : attachments[n]? = some a) (printed : results[n]? = some r) :
    (entries attachments results).length = min attachments.length results.length ∧
    ∃ e, (entries attachments results)[n]? = some e ∧
      (e.mac ≠ "" ↔ ∃ i ∈ r.interfaces, i.name = a.request.interface ∧ i.mac ≠ "") ∧
      (∀ i after, r.FirstCarries a.request.interface i after → e.mac = i.mac ∧
        ((∃ own ∈ r.interfaces, own.InPod a.request.interface ∧ own.mac = e.mac) ↔
          i.sandbox ≠ "" ∨ ∃ own ∈ after, own.InPod a.request.interface ∧ own.mac = i.mac)) := by
  have hmade : (attachments.zip results)[n]? = some (a, r) :=
    List.getElem?_zip_eq_some.mpr ⟨attached, printed⟩
  have hentry : ∃ e, (entries attachments results)[n]? = some e ∧
      e.mac = (r.macFor a.request.interface).getD "" := by
    rw [entries, List.getElem?_mapIdx, hmade]
    exact ⟨_, rfl, rfl⟩
  obtain ⟨e, he, hmac⟩ := hentry
  refine ⟨by rw [entries, List.length_mapIdx, List.length_zip], e, he, ?_, fun i after hfirst => ?_⟩
  · rw [hmac]
    exact AddResult.macFor_getD_ne_iff r _
  · rw [hfirst.macFor_eq, Option.getD_some] at hmac
    rw [hmac]
    exact ⟨rfl, hfirst.exists_inPod_iff⟩

/-- What a plugin prints that names both ends of a link alike, with the end in the pod first. -/
def podFirst : AddResult :=
  ⟨"0.3.1", [⟨"cni0", "0a:58:0a:00:00:01", ""⟩, ⟨"eth0", "0a:58:0a:00:00:02", "/ns/c1"⟩,
    ⟨"eth0", "0a:58:0a:00:00:03", ""⟩], [], [], .empty⟩

/-- The same with the end on the host first. -/
def hostFirst : AddResult :=
  { podFirst with interfaces := podFirst.interfaces.reverse }

/-- The address of the pod is shown where its end comes first. -/
theorem mac_of_pod_iff_podFirst :
    ∃ e, (entries [flannelNetwork] [podFirst])[0]? = some e ∧ e.mac = "0a:58:0a:00:00:02" ∧
      ∃ own ∈ podFirst.interfaces, own.InPod "eth0" ∧ own.mac = e.mac := by
  obtain ⟨-, e, he, -, hfirst⟩ :=
    mac_of_pod_iff (rfl : [flannelNetwork][0]? = some flannelNetwork)
      (rfl : [podFirst][0]? = some podFirst)
  obtain ⟨hmac, hpod⟩ := hfirst ⟨"eth0", "0a:58:0a:00:00:02", "/ns/c1"⟩ _
    ⟨[⟨"cni0", "0a:58:0a:00:00:01", ""⟩], rfl, ⟨rfl, by decide⟩, by
      simp only [List.mem_singleton, forall_eq]
      exact fun h => absurd h.1 (by decide)⟩
  exact ⟨e, he, hmac, hpod.mpr (.inl (by decide))⟩

/-- **The address of the host is shown** where its end comes first, though the end in the pod has one. -/
theorem mac_of_host :
    (entries [flannelNetwork] [hostFirst]).map (·.mac) = ["0a:58:0a:00:00:03"] ∧
      (∃ own ∈ hostFirst.interfaces, own.InPod "eth0" ∧ own.mac = "0a:58:0a:00:00:02") ∧
      ¬∃ own ∈ hostFirst.interfaces, own.InPod "eth0" ∧ own.mac = "0a:58:0a:00:00:03" := by
  have hinterfaces : hostFirst.interfaces = [⟨"eth0", "0a:58:0a:00:00:03", ""⟩,
    ⟨"eth0", "0a:58:0a:00:00:02", "/ns/c1"⟩, ⟨"cni0", "0a:58:0a:00:00:01", ""⟩] := rfl
  refine ⟨rfl, ?_, ?_⟩ <;> rw [hinterfaces] <;> simp [Interface.InPod]

end Status

end PodNet
