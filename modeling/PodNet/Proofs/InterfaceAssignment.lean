import Mathlib.Order.Bounds.Defs
import PodNet.Proofs.InterfaceNames
import PodNet.Proofs.Json.Strings

/-!
# The assignment of interfaces

Interfaces are assigned when all names that were asked for are legal and different, and in no other
case; then nothing but blank names changes (`assignInPlace_fills`). Each blank name, in list order,
gets the smallest number whose name is neither asked for anywhere in the list nor assigned before.
The numbering goes on where it stopped instead of starting again, so that the smallest number is
found only because all numbers below are used up (`exists_isLeast_fill`). As a number used up is the
number of an assigned name, no number reaches the number of requests.
-/

namespace PodNet

namespace InterfaceName

variable {taken wanted names : List String} {next n : Nat} {s : String}

/-! ### Legal names -/

/-- **The name is legal**: it has 1 to 15 bytes, lower-case ASCII letters, digits and hyphens, and no
hyphen at its ends. -/
structure Legal (s : String) : Prop where
  bytes : 1 ≤ (Bytes.ofString s).length ∧ (Bytes.ofString s).length ≤ 15
  chars : ∀ c ∈ s.toList, ('a' ≤ c ∧ c ≤ 'z') ∨ ('0' ≤ c ∧ c ≤ '9') ∨ c = '-'
  first : s.toList.head? ≠ some '-'
  last : s.toList.getLast? ≠ some '-'

theorem isInner_iff (c : Char) :
    isInner c = true ↔ ('a' ≤ c ∧ c ≤ 'z') ∨ ('0' ≤ c ∧ c ≤ '9') ∨ c = '-' := by
  simp [isInner, isOuter, or_assoc]

theorem isOuter_iff (c : Char) : isOuter c = true ↔ isInner c = true ∧ c ≠ '-' := by
  constructor
  · intro h
    refine ⟨by rw [isInner, h, Bool.true_or], ?_⟩
    rintro rfl
    revert h
    decide
  · rintro ⟨hinner, hne⟩
    simpa [isInner, hne] using hinner

/-- The characters of names are ASCII, one byte each. -/
theorem toNat_lt_of_isInner {c : Char} (h : isInner c = true) : c.toNat < 0x80 := by
  rcases (isInner_iff c).mp h with ⟨-, hle⟩ | ⟨-, hle⟩ | rfl
  · exact Nat.lt_of_le_of_lt (UInt32.le_iff_toNat_le.mp hle) (by decide)
  · exact Nat.lt_of_le_of_lt (UInt32.le_iff_toNat_le.mp hle) (by decide)
  · decide

theorem length_ofChars {cs : List Char} (h : ∀ c ∈ cs, isInner c = true) :
    (Bytes.ofChars cs).length = cs.length := by
  induction cs with
  | nil => rfl
  | cons c cs ih =>
    rw [List.forall_mem_cons] at h
    rw [Bytes.ofChars_cons, List.length_append, Bytes.encodeChar_of_lt (toNat_lt_of_isInner h.1),
      ih h.2, List.length_singleton, List.length_cons, Nat.add_comm]

/-- A name is accepted when it is legal. -/
theorem isLegal_iff (s : String) : isLegal s = true ↔ Legal s := by
  rw [isLegal]
  cases hs : s.toList with
  | nil =>
    refine ⟨fun h => absurd h (by decide), fun h => ?_⟩
    have hbytes := h.bytes.1
    rw [Bytes.ofString_eq_ofChars, hs] at hbytes
    exact absurd hbytes (by decide)
  | cons c rest =>
    have hlast : (c :: rest).getLast? = some ((c :: rest).getLast (List.cons_ne_nil _ _)) :=
      List.getLast?_eq_some_getLast _
    have hmem := List.getLast_mem (List.cons_ne_nil c rest)
    simp only [isLegalChars, hlast, Option.any_some, Bool.and_eq_true, decide_eq_true_eq,
      List.all_eq_true, isOuter_iff]
    constructor
    · rintro ⟨⟨⟨hlength, hall⟩, -, hfirst⟩, -, hend⟩
      have hbytes : (Bytes.ofString s).length = (c :: rest).length := by
        rw [Bytes.ofString_eq_ofChars, hs, length_ofChars hall]
      refine ⟨⟨?_, ?_⟩, ?_, ?_, ?_⟩
      · rw [hbytes, List.length_cons]
        omega
      · rw [hbytes]
        exact hlength
      · rw [hs]
        exact fun d hd => (isInner_iff d).mp (hall d hd)
      · rw [hs, List.head?_cons]
        exact fun h => hfirst (Option.some.inj h)
      · rw [hs, hlast]
        exact fun h => hend (Option.some.inj h)
    · intro h
      have hall : ∀ d ∈ c :: rest, isInner d = true := fun d hd =>
        (isInner_iff d).mpr (h.chars d (hs ▸ hd))
      have hbytes := h.bytes.2
      rw [Bytes.ofString_eq_ofChars, hs, length_ofChars hall] at hbytes
      have hfirst := h.first
      have hend := h.last
      rw [hs, List.head?_cons] at hfirst
      rw [hs, hlast] at hend
      exact ⟨⟨⟨hbytes, hall⟩, hall c List.mem_cons_self, fun hc => hfirst (congrArg some hc)⟩,
        hall _ hmem, fun hc => hend (congrArg some hc)⟩

theorem numbered_ne_empty (n : Nat) : numbered n ≠ "" := by
  intro h
  have hlist := congrArg String.toList h
  rw [toList_numbered] at hlist
  cases hlist

/-! ### Filling in, place by place -/

/-- A name that was asked for stays. -/
theorem fill_getElem?_of_ne (taken : List String) (next : Nat) (hn : wanted[n]? = some s)
    (hne : s ≠ "") : (fill taken next wanted)[n]? = some s := by
  induction wanted generalizing taken next n with
  | nil => cases hn
  | cons w rest ih =>
    rw [fill]
    cases n with
    | zero =>
      cases Option.some.inj hn
      rw [if_neg hne]
      rfl
    | succ n =>
      split
      · exact ih _ _ hn
      · exact ih _ _ hn

/-- **A blank name gets the smallest free number**: that of no name that is taken or was given
before. -/
theorem exists_isLeast_fill (h : UsedUp taken next) (hnamed : ∀ s ∈ wanted, s ≠ "" → s ∈ taken)
    (hn : wanted[n]? = some "") :
    ∃ k, (fill taken next wanted)[n]? = some (numbered k) ∧
      IsLeast {k | numbered k ∉ taken ++ (fill taken next wanted).take n} k := by
  induction wanted generalizing taken next n with
  | nil => cases hn
  | cons w rest ih =>
    rw [List.forall_mem_cons] at hnamed
    rw [fill]
    split
    · have hused := (firstFree_spec taken taken.length h).1
      cases n with
      | zero =>
        -- the numbers below the one that is found are used up, so none of them is free
        refine ⟨_, rfl, fun hmem => ?_, fun m hm => Nat.not_lt.mp fun hlt => ?_⟩
        · rw [List.take_zero, List.append_nil] at hmem
          exact numbered_firstFree_not_mem h hmem
        · exact hm (List.mem_append_left _ (hused m hlt))
      | succ n =>
        obtain ⟨k, hk, hleast⟩ := ih (hused.cons _)
          (fun s hs hne => List.mem_cons_of_mem _ (hnamed.2 s hs hne)) hn
        refine ⟨k, hk, ?_⟩
        simpa only [List.take_succ_cons, List.mem_append, List.mem_cons, or_left_comm, or_assoc]
          using hleast
    · rename_i hne
      cases n with
      | zero => exact absurd (Option.some.inj hn) hne
      | succ n =>
        obtain ⟨k, hk, hleast⟩ := ih h hnamed.2 hn
        refine ⟨k, hk, ?_⟩
        -- the name that stays was taken already
        have hstays : ∀ s, s ∈ taken ++ w :: (fill taken next rest).take n ↔
            s ∈ taken ++ (fill taken next rest).take n := by
          intro s
          rw [List.mem_append, List.mem_append, List.mem_cons, or_left_comm, or_iff_right_of_imp]
          rintro rfl
          exact .inl (hnamed.1 hne)
        simpa only [List.take_succ_cons, hstays] using hleast

/-! ### Assigning -/

/-- Names are assigned if and only if those that were asked for are legal and different. -/
theorem exists_assign_iff : (∃ names, assign wanted = .ok names) ↔
    (∀ s ∈ wanted, s ≠ "" → Legal s) ∧ wanted.Pairwise fun a b => a ≠ "" → b ≠ "" → a ≠ b := by
  have hnodup : (wanted.filter (· != "")).Nodup ↔
      wanted.Pairwise fun a b => a ≠ "" → b ≠ "" → a ≠ b := by
    simp [List.Nodup, List.pairwise_filter]
  rw [← hnodup]
  constructor
  · rintro ⟨names, h⟩
    obtain ⟨hlegal, hdifferent, -⟩ := of_assign h
    exact ⟨fun s hs hne => (isLegal_iff s).mp (hlegal s hs hne), hdifferent⟩
  · rintro ⟨hlegal, hdifferent⟩
    have hcheck : checkAll [] (wanted.filter (· != "")) = .ok () := by
      refine checkAll_eq_ok_iff.mpr ⟨fun s hs => ⟨?_, List.not_mem_nil⟩, hdifferent⟩
      obtain ⟨hs, hne⟩ := List.mem_filter.mp hs
      exact (isLegal_iff s).mpr (hlegal s hs (by simpa using hne))
    exact ⟨fill (wanted.filter (· != "")) 0 wanted, by simp [assign, hcheck]⟩

/-- Where a name was asked for, it is assigned. -/
theorem getElem?_of_assign (h : assign wanted = .ok names) (hn : wanted[n]? = some s)
    (hne : s ≠ "") : names[n]? = some s := by
  obtain ⟨-, -, rfl⟩ := of_assign h
  exact fill_getElem?_of_ne _ _ hn hne

/-- **Where no name was asked for, the smallest free number is assigned**, which is less than the
number of names. -/
theorem exists_isLeast_of_assign (h : assign wanted = .ok names) (hn : wanted[n]? = some "") :
    ∃ k < wanted.length, names[n]? = some (numbered k) ∧
      IsLeast {k | numbered k ∉ wanted ++ names.take n} k := by
  have hlength := length_of_assign h
  have hkept : ∀ s ∈ wanted, s ≠ "" → s ∈ names := by
    intro s hs hne
    obtain ⟨m, hm⟩ := List.mem_iff_getElem?.mp hs
    exact List.mem_of_getElem? (getElem?_of_assign h hm hne)
  obtain ⟨-, -, hfill⟩ := of_assign h
  obtain ⟨k, hk, hleast⟩ := exists_isLeast_fill (usedUp_zero (wanted.filter (· != "")))
    (fun s hs hne => List.mem_filter.mpr ⟨hs, by simpa using hne⟩) hn
  rw [← hfill] at hk hleast
  have hfree : ∀ m, numbered m ∉ wanted.filter (· != "") ++ names.take n ↔
      numbered m ∉ wanted ++ names.take n := by
    intro m
    simp [List.mem_filter, numbered_ne_empty]
  simp only [hfree] at hleast
  refine ⟨k, ?_, hk, hleast⟩
  -- the numbers up to this one are all numbers of assigned names
  have hused : UsedUp names (k + 1) := by
    intro m hm
    rcases Nat.lt_succ_iff_lt_or_eq.mp hm with hm | rfl
    · have htaken : numbered m ∈ wanted ++ names.take n :=
        by_contra fun hfree => Nat.not_le.mpr hm (hleast.2 hfree)
      rcases List.mem_append.mp htaken with hwanted | hearlier
      · exact hkept _ hwanted (numbered_ne_empty m)
      · exact List.mem_of_mem_take hearlier
    · exact List.mem_of_getElem? hk
  rw [← hlength]
  exact hused.le_length

end InterfaceName

namespace AttachmentRequest

variable {requests assigned : List AttachmentRequest}

/-- What assigning may change of a request: its interface, if that is blank. -/
def Filled (given assigned : AttachmentRequest) : Prop :=
  assigned = { given with interface := assigned.interface } ∧
    (given.interface ≠ "" → assigned.interface = given.interface)

/-- The number is free: no request was made for its name, and it was not assigned before. -/
def FreeNumber (requests earlier : List AttachmentRequest) (k : Nat) : Prop :=
  ∀ r ∈ requests ++ earlier, r.interface ≠ InterfaceName.numbered k

theorem freeNumber_iff {earlier : List AttachmentRequest} {k : Nat} :
    FreeNumber requests earlier k ↔
      InterfaceName.numbered k ∉ requests.map (·.interface) ++ earlier.map (·.interface) := by
  rw [← List.map_append, List.mem_map]
  exact ⟨fun h ⟨r, hr, heq⟩ => h r hr heq, fun h r hr heq => h ⟨r, hr, heq⟩⟩

theorem exists_assign_iff : (∃ assigned, assign requests = .ok assigned) ↔
    (∀ r ∈ requests, r.interface ≠ "" → InterfaceName.Legal r.interface) ∧
      requests.Pairwise fun a b =>
        a.interface ≠ "" → b.interface ≠ "" → a.interface ≠ b.interface := by
  have hnames : (∃ names, InterfaceName.assign (requests.map (·.interface)) = .ok names) ↔ _ :=
    InterfaceName.exists_assign_iff
  rw [List.forall_mem_map, List.pairwise_map] at hnames
  rw [← hnames, assign]
  cases InterfaceName.assign (requests.map (·.interface)) <;> simp [Except.map]

/-- **Assigning changes blank interfaces and nothing else.** -/
theorem forall₂_filled_of_assign (h : assign requests = .ok assigned) :
    List.Forall₂ Filled requests assigned := by
  obtain ⟨hnames, -⟩ := of_assign h
  have hlength := InterfaceName.length_of_assign hnames
  rw [List.length_map, List.length_map] at hlength
  refine List.forall₂_iff_get.mpr ⟨hlength.symm, fun n hn hn' => ⟨?_, fun hne => ?_⟩⟩
  · unfold assign Except.map at h
    split at h
    · cases h
    · cases h
      simp
  · have hkept := InterfaceName.getElem?_of_assign hnames (n := n) (s := requests[n].interface)
      (by simp [hn]) hne
    simpa [hn'] using hkept

/-- **Assigning in place fills in blank interfaces**: it succeeds if and only if the interfaces that
were asked for are legal and different, and otherwise leaves the requests as they are. When it
succeeds, nothing but blank interfaces changes; all interfaces are legal then and different from each
other; and each blank one is given, in list order, the smallest number that is free. -/
theorem assignInPlace_fills (requests : List AttachmentRequest)
    (few : requests.length < 0x80000000) :
    let outcome := (assignInPlace requests).1
    let after := (assignInPlace requests).2
    (outcome = .ok () ↔
      (∀ r ∈ requests, r.interface ≠ "" → InterfaceName.Legal r.interface) ∧
        requests.Pairwise fun a b =>
          a.interface ≠ "" → b.interface ≠ "" → a.interface ≠ b.interface) ∧
    (outcome ≠ .ok () → after = requests) ∧
    (outcome = .ok () →
      List.Forall₂ Filled requests after ∧
      (∀ r ∈ after, r.interface ≠ "" ∧ InterfaceName.Legal r.interface) ∧
      (after.map (·.interface)).Nodup ∧
      ∀ (n : Nat) r, requests[n]? = some r → r.interface = "" →
        ∃ k < requests.length, ∃ given, after[n]? = some given ∧
          given.interface = InterfaceName.numbered k ∧
          IsLeast {k | FreeNumber requests (after.take n) k} k) := by
  rw [← exists_assign_iff, assignInPlace]
  cases hassign : assign requests with
  | error f => simp
  | ok assigned =>
    obtain ⟨hnames, -⟩ := of_assign hassign
    have hlegal : ∀ s ∈ assigned.map (·.interface), InterfaceName.Legal s := fun s hs =>
      (InterfaceName.isLegal_iff s).mp
        (InterfaceName.isLegal_of_assign hnames (by rwa [List.length_map]) s hs)
    refine ⟨by simp, fun h => absurd rfl h, fun _ => ⟨forall₂_filled_of_assign hassign,
      fun r hr => ⟨fun hblank => ?_, hlegal _ (List.mem_map_of_mem hr)⟩,
      InterfaceName.nodup_of_assign hnames, fun n r hr hblank => ?_⟩⟩
    · have hbytes := (hlegal _ (List.mem_map_of_mem hr)).bytes.1
      rw [hblank] at hbytes
      exact absurd hbytes (by decide)
    · have hn : (requests.map (·.interface))[n]? = some "" := by simp [hr, hblank]
      obtain ⟨k, hk, hgiven, hleast⟩ := InterfaceName.exists_isLeast_of_assign hnames hn
      rw [List.length_map] at hk
      rw [List.getElem?_map, Option.map_eq_some_iff] at hgiven
      obtain ⟨given, hgiven, hinterface⟩ := hgiven
      refine ⟨k, hk, given, hgiven, hinterface, ?_⟩
      simpa only [freeNumber_iff, List.map_take] using hleast

/-- Three requests, of which the second one asks for `eth0`. -/
def aroundEth0 : List AttachmentRequest :=
  ["", "eth0", ""].map (plain .clusterDefault)

/-- The blank interfaces around `eth0` are numbered from one on. -/
theorem assignInPlace_fills_around_eth0 :
    aroundEth0.length < 0x80000000 ∧ (assignInPlace aroundEth0).1 = .ok () ∧
      (assignInPlace aroundEth0).2.map (·.interface) = ["eth1", "eth0", "eth2"] ∧
      IsLeast {k | FreeNumber aroundEth0 ((assignInPlace aroundEth0).2.take 2) k} 2 := by
  have hok : (assignInPlace aroundEth0).1 = .ok () := by rfl
  have hafter : (assignInPlace aroundEth0).2.map (·.interface) = ["eth1", "eth0", "eth2"] := by rfl
  obtain ⟨-, -, h⟩ := assignInPlace_fills aroundEth0 (by decide)
  obtain ⟨-, -, -, hfree⟩ := h hok
  obtain ⟨k, -, given, hgiven, hinterface, hleast⟩ := hfree 2 _ rfl rfl
  have hsame : InterfaceName.numbered k = InterfaceName.numbered 2 := by
    have hthird := congrArg (·[2]?) hafter
    rw [List.getElem?_map, hgiven, Option.map_some, hinterface] at hthird
    exact Option.some.inj hthird
  cases InterfaceName.numbered_injective hsame
  exact ⟨by decide, hok, hafter, hleast⟩

end AttachmentRequest

end PodNet
