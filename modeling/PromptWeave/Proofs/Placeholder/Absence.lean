/-
**Names without a value.**

A search for a name ends with a value or without one, unless it stumbles over digits that cannot be read. In a
text none of whose names stumbles, a name without a value leaves nothing in its place and is noted as missing. The
filling of such a text stops only at a value that cannot be rendered, and then what was missing up to there is
noted all the same. Main statements:

* `Template.fill_templateOf_stop`: a filling that stops at a value;
* `Pipeline.Ending` and `Pipeline.ending_of_cut`: how the stage of the placeholders ends;
* `Pipeline.fillStage_unless_stumbles`: that for every text, and which searches end.
-/

import PromptWeave.Proofs.Placeholder.Substitution

namespace PromptWeave

open Text

namespace Template

variable {indent : Int} {bindings : Mapping}

/-- Either all values of a row of placeholders can be rendered, or there is a first one that cannot. -/
theorem renders_or_exists_stop (indent : Int) (bindings : Mapping) (pieces : List (Text × Placeholder.Spelling)) :
    (∀ piece ∈ pieces, Renders indent bindings piece.2.name) ∨
      ∃ before piece after value fault, pieces = before ++ piece :: after ∧
        (∀ other ∈ before, Renders indent bindings other.2.name) ∧
        Mapping.lookup bindings piece.2.name = .ok (some value) ∧ value.render indent = .error fault := by
  induction pieces with
  | nil => exact .inl fun _ none => absurd none List.not_mem_nil
  | cons piece pieces ih =>
    by_cases here : Renders indent bindings piece.2.name
    · rcases ih with all | ⟨before, stop, after, value, fault, rfl, fine, found, fails⟩
      · exact .inl (List.forall_mem_cons.mpr ⟨here, all⟩)
      · exact .inr ⟨piece :: before, stop, after, value, fault, rfl, List.forall_mem_cons.mpr ⟨here, fine⟩, found,
          fails⟩
    · rw [Renders] at here
      push Not at here
      obtain ⟨value, found, unshown⟩ := here
      cases fails : value.render indent with
      | ok shown => exact absurd fails (unshown shown)
      | error fault =>
        exact .inr ⟨[], piece, pieces, value, fault, rfl, fun _ none => absurd none List.not_mem_nil, found, fails⟩

/-- **A filling stops at a value that cannot be rendered**, with all answers up to there. -/
theorem fill_templateOf_stop {before : List (Text × Placeholder.Spelling)} {piece : Text × Placeholder.Spelling}
    {value : Value} {fault : Json.Fault} (after : List (Text × Placeholder.Spelling)) (last : Text)
    (renders : ∀ other ∈ before, Renders indent bindings other.2.name)
    (searched : ∀ other ∈ before, ∀ fault, Mapping.lookup bindings other.2.name ≠ .error fault)
    (found : Mapping.lookup bindings piece.2.name = .ok (some value)) (fails : value.render indent = .error fault) :
    fill indent bindings (Placeholder.templateOf (before ++ piece :: after) last) =
      ⟨.error fault, (Placeholder.namesOf before).map (fun name => ⟨name, isFound bindings name⟩) ++
        [⟨piece.2.name, true⟩]⟩ := by
  induction before with
  | nil =>
    have stops : fillIn indent bindings piece.2.name = .error fault := by
      rw [fillIn, found]
      dsimp only
      rw [fails]
      rfl
    rw [List.nil_append, Placeholder.templateOf_cons, fill_map_plain, fill, stops]
    dsimp only
    rw [answer?, found]
    rfl
  | cons first before ih =>
    have here := fillIn_of_renders (renders first List.mem_cons_self) (searched first List.mem_cons_self)
    have others := ih (fun other inside => renders other (List.mem_cons_of_mem _ inside))
      fun other inside => searched other (List.mem_cons_of_mem _ inside)
    rw [List.cons_append, Placeholder.templateOf_cons, fill_map_plain, fill, here]
    dsimp only
    rw [others]
    rfl

end Template

namespace Pipeline

open Placeholder Template

/-- How the stage of the placeholders ends for gaps and placeholders: with the whole text, or at the first value
that cannot be rendered. The names without a value up to there are noted as missing. -/
inductive Ending (recipe : Recipe) (bindings : Mapping) (progress : Progress) (pieces : List (Text × Spelling))
    (last : Text) (outcome : Progress × Except Fault Text) : Prop
  | whole (text : outcome.2 = .ok (filled recipe.indent bindings pieces last))
    (noted : outcome.1.missing = progress.missing ++ (namesOf pieces).filter (!isFound bindings ·))
  | stopped {before after : List (Text × Spelling)} {piece : Text × Spelling} {value : Value} {fault : Json.Fault}
    (place : pieces = before ++ piece :: after) (found : Mapping.lookup bindings piece.2.name = .ok (some value))
    (fails : value.render recipe.indent = .error fault) (raised : outcome.2 = .error (.host (HostFault.ofJson fault)))
    (noted : outcome.1.missing = progress.missing ++ (namesOf before).filter (!isFound bindings ·))

/-- **How the stage ends** for a cut text none of whose names stumbles. -/
theorem ending_of_cut {text last : Text} {pieces : List (Text × Spelling)} {recipe : Recipe} {bindings : Mapping}
    (cut : Cut text pieces last) (given : recipe.bindings = some bindings) (progress : Progress)
    (steady : ∀ piece ∈ pieces, ¬ bindings.Stumbles piece.2.name) :
    Ending recipe bindings progress pieces last (fillStage recipe progress text) := by
  rcases renders_or_exists_stop recipe.indent bindings pieces with
    renders | ⟨before, piece, after, value, fault, rfl, renders, found, fails⟩
  · have far : ∀ piece ∈ pieces, ¬ bindings.AsksTooFar piece.2.name := fun piece inside far =>
      steady piece inside ((Mapping.stumbles_iff_of_small piece.2.isName.small).mpr far)
    obtain ⟨result, -, missing⟩ := fillStage_of_searched cut given progress renders far
    exact .whole result missing
  · have searched : ∀ other ∈ before, ∀ fault, Mapping.lookup bindings other.2.name ≠ .error fault :=
      fun other inside fault stopped => steady other (List.mem_append_left _ inside)
        ((Mapping.exists_lookup_error_iff bindings _).mp ⟨fault, stopped⟩)
    have filling := fill_templateOf_stop after last renders searched found fails
    rw [← cut.ofText] at filling
    refine .stopped rfl found fails ?_ ?_
    · rw [fillStage, given]
      dsimp only
      rw [filling]
      rfl
    · rw [fillStage, given]
      dsimp only
      rw [filling]
      simp [Filling.missing, List.filter_map, Function.comp_def]

/-- **A search ends unless it stumbles, and a name without a value is no error.** In a text none of whose names
stumbles, nothing stands for a name without a value, which is noted as missing; only a value that is found but
cannot be rendered stops the stage. -/
theorem fillStage_unless_stumbles (bindings : Mapping) :
    (∀ name, (∃ found, Mapping.lookup bindings name = .ok found) ↔ ¬ bindings.Stumbles name) ∧
    ∀ (text : Text) (recipe : Recipe) (progress : Progress), recipe.bindings = some bindings →
      ∃ pieces last, Cut text pieces last ∧ ((∀ piece ∈ pieces, ¬ bindings.Stumbles piece.2.name) →
        (∀ piece ∈ pieces, Mapping.lookup bindings piece.2.name = .ok none →
          standIn recipe.indent bindings piece.2.name = [] ∧ isFound bindings piece.2.name = false) ∧
        Ending recipe bindings progress pieces last (fillStage recipe progress text)) := by
  constructor
  · intro name
    rw [← Mapping.exists_lookup_error_iff]
    cases Mapping.lookup bindings name with
    | error fault => exact ⟨nofun, fun apart => absurd ⟨fault, rfl⟩ apart⟩
    | ok found => exact ⟨fun _ => nofun, fun _ => ⟨found, rfl⟩⟩
  · intro text recipe progress given
    obtain ⟨pieces, last, cut⟩ := exists_cut text
    refine ⟨pieces, last, cut, fun steady => ⟨fun piece _ absent => ?_, ending_of_cut cut given progress steady⟩⟩
    rw [standIn, isFound, absent]
    exact ⟨rfl, rfl⟩

/-- A text with two names, of a part of no mapping and of an item behind the end of a sequence. -/
def twoNames : List (Text × Spelling) :=
  [([], ⟨false, [], "x.y".toList, [], isBlank_of_mem_nil, isBlank_of_mem_nil,
      (readName_spec (by decide +kernel : readName "x.y".toList = some ("x.y".toList, []))).2⟩),
    (['|'], ⟨false, [], "a.7".toList, [], isBlank_of_mem_nil, isBlank_of_mem_nil,
      (readName_spec (by decide +kernel : readName "a.7".toList = some ("a.7".toList, []))).2⟩)]

def twoNamesRecipe : Recipe :=
  ⟨⟨.ofDocuments [], 32, true⟩, none, none, some [(Key.ofString "a", .list [.integer 1])], 2⟩

/-- Both leave nothing in their places. -/
theorem fillStage_unless_stumbles_twoNames :
    (fillStage twoNamesRecipe .empty "\x7b\x7bx.y\x7d\x7d|\x7b\x7ba.7\x7d\x7d".toList).2 = .ok ['|'] ∧
    (fillStage twoNamesRecipe .empty "\x7b\x7bx.y\x7d\x7d|\x7b\x7ba.7\x7d\x7d".toList).1.missing =
      ["x.y".toList, "a.7".toList] := by
  have absent : ∀ piece ∈ twoNames,
      Mapping.lookup [(Key.ofString "a", .list [.integer 1])] piece.2.name = .ok none := by
    simp only [twoNames, List.forall_mem_cons]
    exact ⟨by cbv, by cbv, List.forall_mem_nil _⟩
  obtain ⟨pieces, last, cut, ends⟩ :=
    (fillStage_unless_stumbles [(Key.ofString "a", .list [.integer 1])]).2
      "\x7b\x7bx.y\x7d\x7d|\x7b\x7ba.7\x7d\x7d".toList twoNamesRecipe .empty rfl
  have cut' : Cut "\x7b\x7bx.y\x7d\x7d|\x7b\x7ba.7\x7d\x7d".toList twoNames [] := by
    refine .of_eq "|\x7b\x7ba.7\x7d\x7d".toList (by decide) (free_nil _) ?_
    exact .of_eq [] (by decide) (by decide +kernel) (.last (free_nil _))
  obtain ⟨rfl, rfl⟩ := cut.unique cut' rfl
  have steady : ∀ piece ∈ twoNames,
      ¬ Mapping.Stumbles [(Key.ofString "a", .list [.integer 1])] piece.2.name := by
    intro piece inside stumbles
    obtain ⟨fault, stopped⟩ := (Mapping.exists_lookup_error_iff _ _).mpr stumbles
    rw [absent piece inside] at stopped
    cases stopped
  cases (ends steady).2 with
  | whole result missing =>
    refine ⟨result.trans ?_, missing.trans ?_⟩
    · cbv
    · cbv
  | stopped place found =>
    rw [absent _ (place ▸ List.mem_append_right _ List.mem_cons_self)] at found
    cases found

end Pipeline

/-- A digit that only stands alone is one in a name, but not in the numeral of a position. -/
theorem Mapping.lookup_loneDigit :
    Mapping.lookup [(Key.ofString "a", .list [.integer 1])] "a.²".toList = .error (.notInteger 10 ['²']) := by
  cbv

end PromptWeave
