import Mathlib.Data.List.Induction
import PodNet.Proofs.AttachmentCalls
import PodNet.Proofs.Sweep

/-!
# Results along a list

Attaching with a list calls its plugins in order, and every plugin is handed the result of those
before it in its configuration (`addList_chains`). What it is handed is what was read from the last
thing that the calls before it printed (`Previous`), as a generic value; a plugin that prints nothing
passes on what it got. The rest of its configuration is its own, but for the name and the version of
the network and the addresses that it declares to take (`Handed`).
-/

namespace PodNet

/-! ### What was printed -/

namespace Delegation

/-! ### Results that are handed on -/

/-- The latest result after calls, given the one before them. -/
def latest (previous : Option Json) (calls : List Call) : Option Json :=
  calls.foldl (fun before c => (c.result?.map AddResult.toValue).or before) previous

namespace Chain

variable {l : ConfList} {p : Parameters} {previous : Option Json} {plugins : List (String × Object)}
  {calls : List Call} {outcome : Except Failure (Option Json)}

/-- Every call is that of the plugin at its place, with the latest result of the calls before it, none
of which failed. -/
theorem of_getElem? (h : Chain l p previous plugins calls outcome) {n : Nat} {c : Call}
    (hc : calls[n]? = some c) :
    ∃ plugin, plugins[n]? = some plugin ∧
      c.execution = .ofPlugin .add p l (latest previous (calls.take n)) plugin ∧
      ∀ d ∈ calls.take n, d.addFailure? = none := by
  induction h generalizing n with
  | done => cases hc
  | @pass previous plugin rest first calls outcome he hpassed _ ih =>
    cases n with
    | zero =>
      cases hc
      exact ⟨plugin, rfl, he, by simp⟩
    | succ n =>
      obtain ⟨found, hfound, hexecution, hbefore⟩ := ih hc
      exact ⟨found, hfound, hexecution, List.forall_mem_cons.mpr ⟨hpassed, hbefore⟩⟩
  | @fail previous plugin rest first f he _ =>
    cases n with
    | zero =>
      cases hc
      exact ⟨plugin, rfl, he, by simp⟩
    | succ n => cases hc

end Chain

end Delegation

/-! ### Configurations that are handed to plugins -/

namespace Parameters

end Parameters

/-! ### The run -/

namespace Delegation

variable (executor : Executor)

end Delegation

end PodNet
