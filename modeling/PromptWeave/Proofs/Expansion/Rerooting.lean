/-
**Runs under another root.**

A document at work is read relative to its directory and under the chain of its ancestors; the path of
the root document is only one of the paths on that chain. If nothing can be read under another path,
then a run that puts its documents in place goes alike with that path in the place of the root: no
document that is entered stands under it, so no chain is refused for it, and no chain is longer. Main
statements:

* `Expansion.Frame.under`: a document at work under another root;
* `Chain.extend_under`: a chain is extended alike under a root that is not the new document;
* `Expansion.Rerooted.enters`: a step enters the same document under the other root;
* `Expansion.Expands.under`: a run that gives a text gives it under the other root as well;
* `Expansion.recorded_under`: and it leaves the same trace.
-/

import PromptWeave.Proofs.Expansion.Run

namespace PromptWeave

open Text

/-- A document that is read is read alike wherever it is named from. -/
theorem World.readDocument_named {world : World} {path : Path} {includedFrom : Option Path}
    {chain : List Path} {text : Text} (read : world.readDocument path includedFrom chain = .ok text)
    (otherFrom : Option Path) (others : List Path) :
    world.readDocument path otherFrom others = .ok text := by
  unfold readDocument at read ⊢
  split at read
  · cases read
  · cases read
  · split at read
    · exact read
    all_goals cases read

/-- **A chain is extended alike under another root** that is not the new document. -/
theorem Chain.extend_under {chain extended : Chain} {path root : Path} {limit : Int}
    (done : chain.extend path (some limit) = .ok extended) (chained : chain.paths ≠ [])
    (fresh : path ≠ root) :
    (⟨root :: chain.paths.tail⟩ : Chain).extend path (some limit) =
      .ok ⟨root :: extended.paths.tail⟩ := by
  obtain ⟨unknown, paths⟩ := extend_paths done
  have depth := extend_depth_le done
  obtain ⟨first, rest, whole⟩ := List.exists_cons_of_ne_nil chained
  rw [whole] at paths unknown
  rw [whole, paths]
  unfold Chain.depth at depth
  rw [paths] at depth
  unfold extend
  rw [if_neg]
  · dsimp only [List.tail_cons, List.cons_append]
    rw [if_neg]
    unfold Chain.depth
    simpa using depth
  · intro known
    rcases List.mem_cons.mp known with same | known
    · exact fresh same
    · exact unknown (List.mem_cons_of_mem _ known)

namespace Expansion

variable {reading : Reading} {root : Path}

/-- A document at work with another root at the head of its chain. -/
def Frame.under (root : Path) (frame : Frame) : Frame :=
  { frame with chain := ⟨root :: frame.chain.paths.tail⟩ }

/-- Two documents at work have the same text and directory, and the same chain but for its root. -/
structure Rerooted (root : Path) (frame other : Frame) : Prop where
  text : other.text = frame.text
  parent : other.document.parent = frame.document.parent
  chained : frame.chain.paths ≠ []
  chain : other.chain = (frame.under root).chain

namespace Rerooted

variable {frame other inner : Frame} {directive : Directive}

theorem splice (same : Rerooted root frame other) (directive : Directive) (inner : Text) :
    Rerooted root (frame.splice directive inner) (other.splice directive inner) where
  text := by rw [Frame.splice, Frame.splice, same.text]
  parent := same.parent
  chained := same.chained
  chain := same.chain

/-- **The same document is entered under another root**, if nothing can be read under that. -/
theorem enters (same : Rerooted root frame other)
    (unread : ∀ text, reading.world.readDocument root none [] ≠ .ok text)
    (entered : step reading frame = .enters directive inner) :
    step reading other = .enters directive (inner.under root) ∧
      Rerooted root inner (inner.under root) := by
  obtain ⟨found, loads⟩ := step_eq_enters_iff.mp entered
  obtain ⟨resolved, extended, text, read, trimmed⟩ := load_eq_ok loads
  have fresh : inner.document ≠ root := by
    intro isRoot
    rw [isRoot] at read
    exact unread text (World.readDocument_named read none [])
  have again := Chain.extend_under extended same.chained fresh
  have chained : inner.chain.paths ≠ [] := by
    rw [(Chain.extend_paths extended).2]
    exact List.append_ne_nil_of_right_ne_nil _ (List.cons_ne_nil _ _)
  refine ⟨step_eq_enters_iff.mpr ⟨same.text ▸ found, ?_⟩, rfl, rfl, chained, rfl⟩
  unfold load
  rw [same.parent, resolved]
  dsimp only
  rw [same.chain]
  unfold Frame.under
  dsimp only
  rw [again]
  dsimp only
  rw [World.readDocument_named read (displayed other.document) (root :: frame.chain.paths.tail)]
  dsimp only
  rw [← trimmed]

end Rerooted

/-- **A run that gives a text gives it under another root as well**, if nothing can be read under
that. -/
theorem Expands.under (unread : ∀ text, reading.world.readDocument root none [] ≠ .ok text)
    {frame other : Frame} (same : Rerooted root frame other) {reads : List Frame} {text : Text}
    (derived : Expands reading frame reads (.ok text)) :
    Expands reading other (reads.map (Frame.under root)) (.ok text) := by
  generalize done : (.ok text : Except Fault Text) = outcome at derived ⊢
  induction derived generalizing other text with
  | ended ends =>
    subst done
    obtain ⟨nothing, rfl⟩ := step_eq_ends_ok_iff.mp ends
    exact .ended (step_eq_ends_ok_iff.mpr ⟨same.text ▸ nothing, same.text.symm⟩)
  | broken => cases done
  | spliced entered _ _ ihInside ihRest =>
    obtain ⟨again, inside⟩ := same.enters unread entered
    rw [List.map_append, List.map_cons]
    exact .spliced again (ihInside inside rfl) (ihRest (same.splice _ _) done)

/-- **Under another root the same is recorded.** -/
theorem recorded_under (trace : Trace) (reads : List Frame) :
    recorded trace (reads.map (Frame.under root)) = recorded trace reads := by
  induction reads generalizing trace with
  | nil => rfl
  | cons frame reads ih =>
    have depth : (frame.under root).chain.depth = frame.chain.depth := by
      unfold Chain.depth Frame.under
      simp
    rw [List.map_cons, recorded_cons, recorded_cons, ih, depth]
    rfl

end Expansion

end PromptWeave
