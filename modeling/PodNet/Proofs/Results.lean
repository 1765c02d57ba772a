import PodNet.Delegation
import PodNet.Proofs.Pieces
import PodNet.Proofs.TaskRun

/-!
# Results of attaching

When all attachments are attached, each has one result: what attaching it came to, after those before
it (`Added`). Merging results keeps all their addresses in order (`addresses_merge`), although the
addresses may be moved to other interfaces.
-/

namespace PodNet

namespace Delegation

variable {executor : Executor} {s : Sandbox} {attachments : List Attachment}
  {results : List AddResult} {node last : Node}

/-- **The results are those of attaching the attachments one after the other**, from one node to
another. -/
inductive Added (executor : Executor) (s : Sandbox) :
    Node → List Attachment → List AddResult → Node → Prop where
  /-- Nothing is left to attach. -/
  | nil (node : Node) : Added executor s node [] [] node
  /-- One attachment, and then the others. -/
  | cons {node mid last : Node} {a : Attachment} {rest : List Attachment} {r : AddResult}
    {results : List AddResult} :
    (add executor s a).runOn node = (.ok r, mid) → Added executor s mid rest results last →
      Added executor s node (a :: rest) (r :: results) last

theorem Added.length_eq (h : Added executor s node attachments results last) :
    results.length = attachments.length := by
  induction h with
  | nil => rfl
  | cons _ _ ih => rw [List.length_cons, List.length_cons, ih]

/-- Attaching that succeeds after other attachments. -/
theorem added_of_addAfter {done : List Attachment}
    (h : (addAfter executor s done attachments).runOn node = (.ok results, last)) :
    Added executor s node attachments results last := by
  induction attachments generalizing done node results last with
  | nil =>
    cases h
    exact .nil node
  | cons a rest ih =>
    rw [addAfter] at h
    obtain ⟨outcome, mid, hattempt, h⟩ := Task.runOn_bind_eq_ok.mp h
    rw [Task.runOn_attempt] at hattempt
    cases hattempt
    cases hadd : ((add executor s a).runOn node).1 with
    | error f =>
      rw [hadd] at h
      obtain ⟨_, _, -, h⟩ := Task.runOn_bind_eq_ok.mp h
      cases h
    | ok r =>
      rw [hadd] at h
      obtain ⟨more, last', hrest, h⟩ := Task.runOn_bind_eq_ok.mp h
      cases h
      exact .cons (Task.runOn_eq_of_fst hadd) (ih hrest)

/-- **When all attachments are attached, every one has its result.** -/
theorem added_of_addAll
    (h : (addAll executor s attachments).runOn node = (.ok results, last)) :
    Added executor s node attachments results last :=
  added_of_addAfter h

end Delegation

/-- An address without the length of its network part ends before the first slash. -/
theorem IpConfig.toList_plain (ip : IpConfig) :
    ip.plain.toList = ip.address.toList.takeWhile (· ≠ '/') := by
  have hall : ∀ {s : String}, Text.hasChar '/' s = false → ∀ c ∈ s.toList, decide (c ≠ '/') = true := by
    intro s hs c hc
    refine decide_eq_true fun heq => Text.not_mem_of_hasChar hs ?_
    rwa [← heq]
  unfold plain
  cases hcut : Text.cut '/' ip.address with
  | none => exact (List.takeWhile_eq_self_iff.mpr (hall (Text.cut_eq_none_iff.mp hcut))).symm
  | some halves =>
    obtain ⟨before, after⟩ := halves
    obtain ⟨haddress, hbefore⟩ := Text.cut_eq_some_iff.mp hcut
    rw [haddress, String.toList_append, String.toList_append, List.append_assoc,
      List.takeWhile_append_of_pos (hall hbefore)]
    simp

namespace AddResult

/-- **The addresses of a result** are those of its records, each up to the first slash. -/
theorem map_toList_addresses (r : AddResult) :
    r.addresses.map String.toList = r.ips.map fun ip => ip.address.toList.takeWhile (· ≠ '/') := by
  rw [addresses, List.map_map]
  exact List.map_congr_left fun ip _ => ip.toList_plain

end AddResult

end PodNet
