/-
**The depth only cuts.**

How deeply documents may be nested decides whether an expansion is cut, and nothing else: a run that is
not cut goes alike under every greater depth. At each document the depth is looked at once, after the
search for the document among its ancestors, so two runs part only where the shorter one is cut. Main
statements:

* `Chain.extend_eq_or`: a chain is extended alike under a greater depth, or it is too long for the smaller
  one;
* `Expansion.step_upTo_or`: so is every step of a document at work;
* `Expansion.Expands.upTo`: a run that is not cut is a run under every greater depth;
* `Expansion.transform?_upTo`: the expansion of a root text does not hang on a depth that does not cut it.
-/

import PromptWeave.Proofs.Expansion.Lineage

namespace PromptWeave

open Text

/-- A chain is extended alike under a greater depth, unless the smaller one forbids it. -/
theorem Chain.extend_eq_or {limit more : Int} (le : limit ≤ more) (chain : Chain) (path : Path) :
    chain.extend path (some more) = chain.extend path (some limit) ∨
      ∃ paths, chain.extend path (some limit) = .error (.tooDeep limit paths) := by
  unfold extend
  by_cases known : path ∈ chain.paths
  · rw [if_pos known, if_pos known]
    exact Or.inl rfl
  · rw [if_neg known, if_neg known]
    dsimp only
    by_cases deep : limit < (⟨chain.paths ++ [path]⟩ : Chain).depth
    · exact Or.inr ⟨_, if_pos deep⟩
    · rw [if_neg deep, if_neg (by omega)]
      exact Or.inl rfl

/-- The same way of reading up to another depth. -/
def Reading.upTo (reading : Reading) (maxDepth : Int) : Reading := { reading with maxDepth }

namespace Expansion

variable {reading : Reading} {more : Int}

/-- An outcome of an expansion that was cut, because documents were nested too deeply. -/
def IsCut : Except Fault Text → Prop
  | .error (.failure (.tooDeep _ _)) => True
  | _ => False

/-- A document is loaded alike under a greater depth, unless it lies too deep for the smaller one. -/
theorem load_upTo_or (le : reading.maxDepth ≤ more) (frame : Frame) (source : Text) :
    load (reading.upTo more) frame source = load reading frame source ∨
      ∃ limit chain, load reading frame source = .error (.failure (.tooDeep limit chain)) := by
  unfold load Reading.upTo
  dsimp only
  cases reading.world.resolvePath frame.document.parent (Path.parse (String.ofList source)) with
  | error fault => exact Or.inl rfl
  | ok target =>
    dsimp only
    rcases frame.chain.extend_eq_or le target with same | ⟨paths, deep⟩
    · rw [same]
      exact Or.inl rfl
    · rw [deep]
      exact Or.inr ⟨_, _, rfl⟩

/-- **A step is the same under a greater depth**, unless it is cut by the smaller one. -/
theorem step_upTo_or (le : reading.maxDepth ≤ more) (frame : Frame) :
    step (reading.upTo more) frame = step reading frame ∨
      ∃ outcome, step reading frame = .ends outcome ∧ IsCut outcome := by
  unfold step
  cases Directive.first frame.text with
  | error flaw => exact Or.inl rfl
  | ok found =>
    cases found with
    | none => exact Or.inl rfl
    | some directive =>
      dsimp only
      rcases load_upTo_or le frame directive.source with same | ⟨limit, chain, deep⟩
      · rw [same]
        exact Or.inl rfl
      · rw [deep]
        exact Or.inr ⟨_, rfl, trivial⟩

/-- **A run that is not cut is a run under every greater depth**, and reads the same documents. -/
theorem Expands.upTo (le : reading.maxDepth ≤ more) {frame : Frame} {reads : List Frame}
    {outcome : Except Fault Text} (derived : Expands reading frame reads outcome)
    (whole : ¬ IsCut outcome) : Expands (reading.upTo more) frame reads outcome := by
  have entersAgain : ∀ {frame inner : Frame} {directive : Directive},
      step reading frame = .enters directive inner →
      step (reading.upTo more) frame = .enters directive inner := by
    intro frame inner directive enters
    rcases step_upTo_or le frame with same | ⟨cut, ends, _⟩
    · rw [same, enters]
    · rw [enters] at ends
      cases ends
  induction derived with
  | @ended frame outcome ends =>
    rcases step_upTo_or le frame with same | ⟨cut, endsCut, isCut⟩
    · exact .ended (same.trans ends)
    · rw [ends] at endsCut
      cases endsCut
      exact absurd isCut whole
  | broken enters _ ih => exact .broken (entersAgain enters) (ih whole)
  | spliced enters _ _ ihInside ihRest =>
    exact .spliced (entersAgain enters) (ihInside fun isCut => isCut) (ihRest whole)

/-- **The depth only cuts.** If the expansion of a root text ends and is not cut, then under every greater
depth it ends with the same outcome and leaves the same trace. -/
theorem transform?_upTo (reading : Reading) (more : Int) (le : reading.maxDepth ≤ more)
    (baseDirectory rootPath : Option Path) (trace : Trace) (text : Text) (after : Trace)
    (outcome : Except Fault Text)
    (ends : transform? reading baseDirectory rootPath trace text = some (after, outcome))
    (whole : ¬ IsCut outcome) :
    transform? (reading.upTo more) baseDirectory rootPath trace text = some (after, outcome) := by
  rw [transform?_eq_some_iff] at ends ⊢
  obtain refused | ⟨root, reads, found, derived, traced⟩ := ends
  · exact .inl refused
  · exact .inr ⟨root, reads, found, derived.upTo le whole, traced⟩

/-- Two documents that name one another are met again under a depth of one already, since a document is
sought among its ancestors first; and so they are under every greater depth. -/
theorem transform?_upTo_mutual :
    transform? (mutualReading.upTo 1) none (some ⟨.root, ["a"]⟩) .empty
        "<include src=\"b\"/>".toList =
      some (⟨[⟨.root, ["b"]⟩], [.including ⟨.root, ["b"]⟩ 1]⟩, .error (.failure
        (.circular [⟨.root, ["a"]⟩, ⟨.root, ["b"]⟩, ⟨.root, ["a"]⟩]))) ∧
    transform? ((mutualReading.upTo 1).upTo 32) none (some ⟨.root, ["a"]⟩) .empty
        "<include src=\"b\"/>".toList =
      some (⟨[⟨.root, ["b"]⟩], [.including ⟨.root, ["b"]⟩ 1]⟩, .error (.failure
        (.circular [⟨.root, ["a"]⟩, ⟨.root, ["b"]⟩, ⟨.root, ["a"]⟩]))) := by
  have enters : step (mutualReading.upTo 1) (.ofNames ["a"] "<include src=\"b\"/>".toList) =
      .enters ⟨['b'], 0, 18, true⟩ (.ofNames ["a", "b"] "<include src=\"a\"/>".toList) := by cbv
  have raises : step (mutualReading.upTo 1) (.ofNames ["a", "b"] "<include src=\"a\"/>".toList) =
      .ends (.error (.failure
        (.circular [⟨.root, ["a"]⟩, ⟨.root, ["b"]⟩, ⟨.root, ["a"]⟩]))) := by cbv
  have fails := expand?_of_expands (.broken enters (.ended raises)) .empty
  exact ⟨fails, transform?_upTo (mutualReading.upTo 1) 32 (by decide) _ _ _ _ _ _ fails id⟩

end Expansion

end PromptWeave
