/-
**No variables, and a mapping without entries.**

A prompt without variables keeps its placeholders. With a mapping that has no entries every placeholder is
replaced by nothing, and its name is noted as missing. Hence the two prompts differ exactly if there is a
placeholder in the text that the documents are put together to, and otherwise they are the same. Neither can
fail once the documents are in place. Main statements:

* `Mapping.lookup_nil`: in a mapping without entries no name has a value;
* `Placeholder.Cut.filled_nil_eq_iff`: only a text without placeholders stays as it is;
* `Assembled.exists_finish_nil`: both ways to finish a prompt, and when they agree;
* `Resolver.resolveDocument_nil`: the same for a document.
-/

import PromptWeave.Proofs.Placeholder.Substitution
import PromptWeave.Proofs.Resolver.Independence

namespace PromptWeave

open Text

/-! ### Names -/

/-- In a mapping without entries no name has a value. -/
theorem Mapping.lookup_nil (name : Text) : Mapping.lookup [] name = .ok none := by
  show Value.walk (splitOn '.' name) (.mapping true []) = .ok none
  cases pieces : splitOn '.' name with
  | nil => exact absurd pieces (splitOn_ne_nil _ _)
  | cons part parts => rfl

theorem Mapping.not_asksTooFar_nil {name : Text} (small : ∀ c ∈ name, c.toNat < 128) :
    ¬ Mapping.AsksTooFar [] name := by
  intro far
  obtain ⟨fault, stopped⟩ := (Mapping.lookup_eq_error_iff small).mpr far
  rw [Mapping.lookup_nil] at stopped
  cases stopped

namespace Template

variable (indent : Int) (name : Text)

theorem standIn_nil : standIn indent [] name = [] := by
  rw [standIn, Mapping.lookup_nil]

theorem isFound_nil : isFound [] name = false := by
  rw [isFound, Mapping.lookup_nil]

theorem renders_nil : Renders indent [] name := by
  intro value found
  rw [Mapping.lookup_nil] at found
  cases found

end Template

namespace Pipeline

theorem sortedNames_eq_nil_iff {names : List Text} : sortedNames names = [] ↔ names = [] := by
  cases names with
  | nil => exact iff_of_true rfl rfl
  | cons name names =>
    refine iff_of_false ?_ (List.cons_ne_nil _ _)
    rw [sortedNames, List.foldr_cons]
    cases names.foldr insertName [] with
    | nil => exact List.cons_ne_nil _ _
    | cons other others =>
      rw [insertName]
      split
      · exact List.cons_ne_nil _ _
      · split
        · exact List.cons_ne_nil _ _
        · exact List.cons_ne_nil _ _

end Pipeline

/-! ### Texts -/

namespace Placeholder

/-- What is left of a cut text without its placeholders, and the placeholders, make up its length. -/
theorem Cut.length_filled_nil {text last : Text} {pieces : List (Text × Spelling)} (cut : Cut text pieces last)
    (indent : Int) :
    (Template.filled indent [] pieces last).length + (pieces.map fun piece => piece.2.text.length).sum =
      text.length := by
  induction cut with
  | last free => rfl
  | @next gap rest last spelling pieces free more ih =>
    simp only [Template.filled, Template.standIn_nil, List.flatMap_cons, List.append_nil, List.length_append,
      List.map_cons, List.sum_cons] at ih ⊢
    omega

/-- **Only a text without placeholders** stays as it is without them. -/
theorem Cut.filled_nil_eq_iff {text last : Text} {pieces : List (Text × Spelling)} (cut : Cut text pieces last)
    (indent : Int) : Template.filled indent [] pieces last = text ↔ pieces = [] := by
  have lengths := cut.length_filled_nil indent
  cases pieces with
  | nil =>
    cases cut
    exact iff_of_true rfl rfl
  | cons piece pieces =>
    refine iff_of_false (fun same => ?_) (List.cons_ne_nil _ _)
    have inhabited : 0 < piece.2.text.length := List.length_pos_of_ne_nil piece.2.text_ne_nil
    rw [same, List.map_cons, List.sum_cons] at lengths
    omega

end Placeholder

/-! ### Prompts -/

namespace Assembled

/-- Without variables a prompt is its text. -/
theorem finish_none (prompt : Assembled) :
    (prompt.withBindings none).finish = .ok
      ⟨prompt.text, prompt.recipe.rootPath, prompt.progress.trace.includes,
        Pipeline.sortedNames prompt.progress.missing⟩ := rfl

/-- With a mapping that has no entries it is the text without its placeholders, whose names are missing. -/
theorem finish_nil {prompt : Assembled} {last : Text} {pieces : List (Text × Placeholder.Spelling)}
    (cut : Placeholder.Cut prompt.text pieces last) :
    (prompt.withBindings (some [])).finish = .ok
      ⟨Template.filled prompt.recipe.indent [] pieces last, prompt.recipe.rootPath,
        prompt.progress.trace.includes,
        Pipeline.sortedNames (prompt.progress.missing ++ Placeholder.namesOf pieces)⟩ := by
  let recipe := (prompt.withBindings (some [])).recipe
  let progress := { prompt.progress with trace := prompt.progress.trace.note (.running .bindings) }
  have given : recipe.bindings = some [] := rfl
  obtain ⟨filled, -, missing⟩ := Pipeline.fillStage_of_searched cut given progress
    (fun piece _ => Template.renders_nil _ piece.2.name)
    fun piece _ => Mapping.not_asksTooFar_nil piece.2.isName.small
  have names : (Placeholder.namesOf pieces).filter (!Template.isFound [] ·) = Placeholder.namesOf pieces := by
    rw [List.filter_eq_self]
    intro name _
    rw [Template.isFound_nil]
    rfl
  rw [names] at missing
  have includes := Pipeline.run_bindings_includes recipe prompt.progress prompt.text
  show (Resolver.finish prompt.recipe.rootPath
    (Pipeline.run recipe [.bindings] prompt.progress prompt.text)).result = _
  rw [Pipeline.run_bindings] at includes ⊢
  rw [Resolver.finish, filled]
  dsimp only
  rw [includes, missing]
  rfl

/-- **Both ways to finish a prompt** that has no missing names yet end well, with the same path and the same
documents. They agree exactly if no name is missing, and so do their texts. -/
theorem exists_finish_nil {prompt : Assembled} (fresh : prompt.progress.missing = []) :
    ∃ emptied kept : Resolved, (prompt.withBindings (some [])).finish = .ok emptied ∧
      (prompt.withBindings none).finish = .ok kept ∧ (kept.content = emptied.content ↔ emptied.missing = []) ∧
      (kept = emptied ↔ emptied.missing = []) := by
  obtain ⟨pieces, last, cut⟩ := Placeholder.exists_cut prompt.text
  have emptied := finish_nil cut
  have kept := prompt.finish_none
  rw [fresh] at emptied kept
  rw [List.nil_append] at emptied
  have noNames : Pipeline.sortedNames (Placeholder.namesOf pieces) = [] ↔ pieces = [] := by
    rw [Pipeline.sortedNames_eq_nil_iff, Placeholder.namesOf, List.map_eq_nil_iff]
  have contents := cut.filled_nil_eq_iff prompt.recipe.indent
  refine ⟨_, _, emptied, kept, ?_, ?_⟩
  · rw [noNames, ← contents]
    exact eq_comm
  · rw [noNames, ← contents, Resolved.mk.injEq]
    constructor
    · rintro ⟨same, -⟩
      exact same.symm
    · intro same
      refine ⟨same.symm, rfl, rfl, ?_⟩
      rw [noNames.mpr (contents.mp same)]
      rfl

end Assembled

namespace Resolver

/-- Putting documents in place leaves no name missing. -/
theorem missing_of_assemble {world : World} {settings : Settings} {base : Path} {path : Option Path}
    {bindings : Option Mapping} {text : Text} {prompt : Assembled}
    (assembled : assemble world settings base path bindings text = .ok prompt) :
    prompt.progress.missing = [] := by
  unfold assemble at assembled
  split at assembled
  · cases assembled
  · rename_i recipe made
    rw [Pipeline.run_includes] at assembled
    split at assembled
    · cases assembled
    · rename_i progress inner ran
      cases assembled
      exact congrArg (fun outcome => outcome.1.missing) ran.symm

/-- **A document without variables, and with a mapping that has no entries.** One cannot be resolved for the
reason that the other cannot. If they can, they have the same text exactly if the mapping leaves no name missing,
and then they are the same. -/
theorem resolveDocument_nil (world : World) (settings : Settings) (spelling : String) (given : Option Path) :
    (∀ fault, (resolveDocument world settings spelling (some []) given).result = .error fault →
      (resolveDocument world settings spelling none given).result = .error fault) ∧
    ∀ emptied, (resolveDocument world settings spelling (some []) given).result = .ok emptied →
      ∃ kept, (resolveDocument world settings spelling none given).result = .ok kept ∧
        (kept.content = emptied.content ↔ emptied.missing = []) ∧ (kept = emptied ↔ emptied.missing = []) := by
  rw [resolveDocument_result, resolveDocument_result,
    assembleDocument_bindings world settings spelling none (some []),
    assembleDocument_bindings world settings spelling none none]
  cases assembled : assembleDocument world settings spelling none given with
  | error fault =>
    refine ⟨fun _ same => same, ?_⟩
    intro emptied done
    cases done
  | ok prompt =>
    have fresh : prompt.progress.missing = [] := by
      rw [assembleDocument, Outcome.bind_eq_ok_iff] at assembled
      obtain ⟨located, -, assembled⟩ := assembled
      exact missing_of_assemble assembled
    obtain ⟨emptied, kept, first, second, contents, same⟩ := prompt.exists_finish_nil fresh
    show (∀ fault, (prompt.withBindings (some [])).finish = .error fault →
        (prompt.withBindings none).finish = .error fault) ∧
      ∀ emptied, (prompt.withBindings (some [])).finish = .ok emptied →
        ∃ kept, (prompt.withBindings none).finish = .ok kept ∧
          (kept.content = emptied.content ↔ emptied.missing = []) ∧ (kept = emptied ↔ emptied.missing = [])
    rw [first]
    constructor
    · intro fault failed
      cases failed
    · intro other done
      cases done
      exact ⟨kept, second, contents, same⟩

end Resolver

end PromptWeave
