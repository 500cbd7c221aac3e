/-
**Lineages.**

Every document is at work under a chain of its own: the documents that lead to it from the root,
none of them twice and no more of them than the depth allows. This is kept by every step of a run,
whether or not the run ends, and it says what the chains of failures are. Main statements:

* `Expansion.lineage_of_enters`: a document that is entered has a lineage if the one that names it
  has;
* `Expansion.lineage_of_reached`: every frame that is reached has a lineage;
* `Expansion.accounts_of_raised`: the failure of a step has the chain of the document at work;
* `Expansion.transform?_lineage`: both for the expansion of a root text.
-/

import Mathlib.Data.List.Nodup
import PromptWeave.Proofs.Expansion.Run
import PromptWeave.Proofs.Storage.Document

namespace PromptWeave

open Text

/-! ### Extending a chain -/

/-- **Why a chain is not extended**: the document is on it already, or it would be too deep. -/
theorem Chain.extend_eq_error {chain : Chain} {path : Path} {limit : Int} {failure : Failure}
    (fails : chain.extend path (some limit) = .error failure) :
    (path ∈ chain.paths ∧ failure = .circular (chain.paths ++ [path])) ∨
      (path ∉ chain.paths ∧ limit < chain.paths.length ∧
        failure = .tooDeep limit (chain.paths ++ [path])) := by
  unfold extend at fails
  split at fails
  · rename_i known
    cases fails
    exact Or.inl ⟨known, rfl⟩
  · rename_i fresh
    dsimp only at fails
    split at fails
    · rename_i deep
      cases fails
      refine Or.inr ⟨fresh, ?_, rfl⟩
      unfold depth at deep
      rw [List.length_append, List.length_singleton] at deep
      omega
    · cases fails

namespace Expansion

variable {reading : Reading}

/-! ### The invariant -/

/-- A document has a lineage: its chain leads from the root to it, names no document twice and is
no longer than the depth allows. -/
structure Lineage (maxDepth : Int) (root document : Path) (chain : List Path) : Prop where
  nodup : chain.Nodup
  head : chain.head? = some root
  last : chain.getLast? = some document
  length_le : (chain.length : Int) ≤ max maxDepth 0 + 1

/-- A root document has a lineage. -/
theorem lineage_root (maxDepth : Int) (root : Path) : Lineage maxDepth root root [root] where
  nodup := List.nodup_singleton root
  head := rfl
  last := rfl
  length_le := by
    rw [List.length_singleton]
    omega

/-- **A document that is entered has a lineage**, if the document that names it has one. -/
theorem lineage_of_enters {root : Path} {frame inner : Frame} {directive : Directive}
    (enters : step reading frame = .enters directive inner)
    (lineage : Lineage reading.maxDepth root frame.document frame.chain.paths) :
    Lineage reading.maxDepth root inner.document inner.chain.paths := by
  obtain ⟨_, extended, _⟩ := load_eq_ok (step_eq_enters_iff.mp enters).2
  have paths := (Chain.extend_paths extended).2
  have depth := Chain.extend_depth_le extended
  refine ⟨Chain.extend_nodup lineage.nodup extended, ?_, ?_, ?_⟩
  · rw [paths, List.head?_append, lineage.head]
    rfl
  · rw [paths, List.getLast?_append, List.getLast?_singleton]
    rfl
  · unfold Chain.depth at depth
    omega

/-- **Every frame that is reached has a lineage.** -/
theorem lineage_of_reached {start frame : Frame} (reached : Reached reading start frame)
    {root : Path} (lineage : Lineage reading.maxDepth root start.document start.chain.paths) :
    Lineage reading.maxDepth root frame.document frame.chain.paths := by
  induction reached with
  | start => exact lineage
  | descent _ enters ih => exact lineage_of_enters enters ih
  | turn _ _ _ ih => exact ih

/-! ### The chains of failures -/

/-- What the chain of a failure is, in a run from a root document: the chain of a document at work,
with the document that is met again or lies too deep behind it. -/
def Accounts (reading : Reading) (start : Frame) : Failure → Prop
  | .circular chain =>
    ∃ frame path, Reached reading start frame ∧
      Lineage reading.maxDepth start.document frame.document frame.chain.paths ∧
      path ∈ frame.chain.paths ∧ chain = frame.chain.paths ++ [path]
  | .tooDeep limit chain =>
    limit = reading.maxDepth ∧ chain.Nodup ∧ (chain.length : Int) = max reading.maxDepth 0 + 2
  | .notFound path includedFrom chain =>
    ∃ frame, Reached reading start frame ∧
      Lineage reading.maxDepth start.document frame.document chain ∧
      chain = frame.chain.paths ∧ path ∉ chain ∧
      ∀ parent, includedFrom = some parent → chain.getLast? = some parent
  | _ => True

/-- **The failure of a step has the chain of the document at work.** -/
theorem accounts_of_raised {start frame : Frame} {failure : Failure}
    (reached : Reached reading start frame)
    (lineage : Lineage reading.maxDepth start.document frame.document frame.chain.paths)
    (raised : step reading frame = .ends (.error (.failure failure))) :
    Accounts reading start failure := by
  rcases step_eq_ends_error raised with ⟨flaw, _, same⟩ | ⟨directive, _, fails⟩
  · cases same
    trivial
  · rcases load_eq_error fails with ⟨cause, same⟩ | ⟨target, cause, refused, same⟩ |
      ⟨target, branch, extended, unread⟩
    · cases same
    · cases same
      rcases Chain.extend_eq_error refused with ⟨known, rfl⟩ | ⟨fresh, deep, rfl⟩
      · exact ⟨frame, target, reached, lineage, known, rfl⟩
      · rw [← List.concat_eq_append]
        refine ⟨rfl, lineage.nodup.concat fresh, ?_⟩
        have some : 0 < frame.chain.paths.length :=
          List.length_pos_of_mem (List.mem_of_mem_head? lineage.head)
        have short := lineage.length_le
        rw [List.length_concat]
        omega
    · rcases World.readDocument_eq_failure unread with rfl | ⟨place, why, rfl⟩
      · refine ⟨frame, reached, lineage, rfl, (Chain.extend_paths extended).1, ?_⟩
        intro parent shown
        unfold displayed at shown
        split at shown
        · cases shown
        · rw [lineage.last, shown]
      · trivial

/-- **Lineages over whole runs.** Every document that the expansion of a root text comes by, whether
or not it ends, has a lineage from the root; and a failure that it ends with accounts for its
chain by that lineage. -/
theorem transform?_lineage (reading : Reading) (baseDirectory rootPath : Option Path)
    (trace : Trace) (text : Text) (root : Path)
    (found : rootDocument baseDirectory rootPath = .ok root) :
    (∀ frame, Reached reading (.root root text) frame →
      Lineage reading.maxDepth root frame.document frame.chain.paths) ∧
    ∀ after failure,
      transform? reading baseDirectory rootPath trace text =
        some (after, .error (.failure failure)) →
      Accounts reading (.root root text) failure := by
  have lineage : ∀ frame, Reached reading (.root root text) frame →
      Lineage reading.maxDepth root frame.document frame.chain.paths :=
    fun frame reached => lineage_of_reached reached (lineage_root _ root)
  refine ⟨lineage, fun after failure ends => ?_⟩
  obtain ⟨_, refused, -, -⟩ | ⟨root', reads, found', derived, -⟩ := transform?_eq_some_iff.mp ends
  · cases found.symm.trans refused
  · obtain rfl : root = root' := Except.ok.inj (found.symm.trans found')
    obtain ⟨place, reached, raised⟩ := exists_raised derived
    exact accounts_of_raised reached (lineage place reached) raised

/-- Two documents that name one another. -/
def mutualReading : Reading :=
  .ofDocuments [("a", "<include src=\"b\"/>"), ("b", "<include src=\"a\"/>")]

/-- Two documents that name one another are met again, and the chain of the failure says so. -/
theorem transform?_lineage_mutual :
    rootDocument none (some ⟨.root, ["a"]⟩) = .ok ⟨.root, ["a"]⟩ ∧
      transform? mutualReading none (some ⟨.root, ["a"]⟩) .empty "<include src=\"b\"/>".toList =
        some (⟨[⟨.root, ["b"]⟩], [.including ⟨.root, ["b"]⟩ 1]⟩, .error (.failure
          (.circular [⟨.root, ["a"]⟩, ⟨.root, ["b"]⟩, ⟨.root, ["a"]⟩]))) ∧
      Accounts mutualReading (.root ⟨.root, ["a"]⟩ "<include src=\"b\"/>".toList)
        (.circular [⟨.root, ["a"]⟩, ⟨.root, ["b"]⟩, ⟨.root, ["a"]⟩]) := by
  have enters : step mutualReading (.ofNames ["a"] "<include src=\"b\"/>".toList) =
      .enters ⟨['b'], 0, 18, true⟩ (.ofNames ["a", "b"] "<include src=\"a\"/>".toList) := by cbv
  have raises : step mutualReading (.ofNames ["a", "b"] "<include src=\"a\"/>".toList) =
      .ends (.error (.failure
        (.circular [⟨.root, ["a"]⟩, ⟨.root, ["b"]⟩, ⟨.root, ["a"]⟩]))) := by cbv
  have fails := expand?_of_expands (.broken enters (.ended raises)) .empty
  have accounts := (transform?_lineage mutualReading none (some ⟨.root, ["a"]⟩) .empty
    "<include src=\"b\"/>".toList ⟨.root, ["a"]⟩ rfl).2 _ _ fails
  exact ⟨rfl, fails, accounts⟩

end Expansion

end PromptWeave
