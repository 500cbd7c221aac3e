/-
**Variables decide nothing about documents.**

A document is resolved in two phases. It is found, the settings are read and what it includes is put in
place; then placeholders are filled in. The first phase carries the variables along without a look at
them: whatever they are, it fails alike or ends with the same text. The second one includes nothing, so
that the documents of a finished prompt are those of the first phase. Main statements:

* `Assembled`: a prompt after its first phase, and `Assembled.finish`, its second one;
* `Resolver.assembleDocument`, `StandingResolver.assemble`: the first phase of resolving a document;
* `Pipeline.run_append`: a run through some stages goes on with a run through the others;
* `Resolver.resolveDocument_result`: resolving a document is one phase after the other;
* `Resolver.assembleDocument_bindings`: the first phase is the same for all variables;
* `Resolver.documents_eq`, `Resolver.exists_resolveDocument_none`: so are the documents of the prompt.
-/

import PromptWeave.Proofs.Resolver.InlineText

namespace PromptWeave

open Text

/-! ### Stages -/

/-- **A run through stages in two parts** is a run through the first ones and, if that does not fail, one
through the others. -/
theorem Pipeline.run_append (recipe : Recipe) (front back : List Stage) (progress : Progress)
    (text : Text) :
    run recipe (front ++ back) progress text =
      match run recipe front progress text with
      | (progress, .error fault) => (progress, .error fault)
      | (progress, .ok text) => run recipe back progress text := by
  induction front generalizing progress text with
  | nil => rfl
  | cons stage stages ih =>
    rw [List.cons_append, run, run]
    rcases runStage recipe stage progress text with ⟨after, fault | inner⟩
    · rfl
    · exact ih after inner

/-- The stage of the documents alone. -/
theorem Pipeline.run_includes (recipe : Recipe) (text : Text) :
    run recipe [.includes] .empty text =
      let ran := Expansion.transform recipe.reading recipe.baseDirectory recipe.rootPath
        (Trace.empty.note (.running .includes)) text
      (⟨ran.1, [], []⟩, ran.2) := by
  rw [run, runStage]
  dsimp only [includeStage, Progress.empty]
  split
  · rename_i stage
    exact stage.symm
  · rename_i stage
    exact stage.symm

/-- The stage of the placeholders alone. -/
theorem Pipeline.run_bindings (recipe : Recipe) (progress : Progress) (text : Text) :
    run recipe [.bindings] progress text =
      fillStage recipe { progress with trace := progress.trace.note (.running .bindings) } text := by
  rw [run, runStage]
  split
  · rename_i stage
    exact stage.symm
  · rename_i stage
    exact stage.symm

/-- A recipe for other variables. -/
def Recipe.withBindings (bindings : Option Mapping) (recipe : Recipe) : Recipe :=
  { recipe with bindings := bindings }

/-! ### Phases -/

/-- A prompt whose documents are in place and whose placeholders are still there. -/
structure Assembled where
  recipe : Recipe
  progress : Progress
  text : Text

namespace Assembled

/-- The prompt for other variables. -/
def withBindings (bindings : Option Mapping) (prompt : Assembled) : Assembled :=
  { prompt with recipe := prompt.recipe.withBindings bindings }

/-- The prompt with its placeholders filled in. -/
def finish (prompt : Assembled) : Except Fault Resolved :=
  (Resolver.finish prompt.recipe.rootPath
    (Pipeline.run prompt.recipe [.bindings] prompt.progress prompt.text)).result

/-- A finished prompt has the path and the documents that were there before it was finished. -/
theorem documents_of_finish {prompt : Assembled} {resolved : Resolved}
    (done : prompt.finish = .ok resolved) :
    resolved.path = prompt.recipe.rootPath ∧
      resolved.dependencies = prompt.progress.trace.includes := by
  unfold finish Resolver.finish at done
  split at done
  · cases done
  · cases done
    exact ⟨rfl, Pipeline.run_bindings_includes _ _ _⟩

/-- Without variables nothing can fail once the documents are in place. -/
theorem exists_finish_none (prompt : Assembled) :
    ∃ resolved, (prompt.withBindings none).finish = .ok resolved := ⟨_, rfl⟩

end Assembled

namespace Resolver

/-- The first phase of a text: settings are read and its documents are put in place. -/
def assemble (world : World) (settings : Settings) (base : Path) (path : Option Path)
    (bindings : Option Mapping) (text : Text) : Except Fault Assembled :=
  match recipe? world settings base path bindings with
  | .error fault => .error (.host fault)
  | .ok recipe =>
    match Pipeline.run recipe [.includes] .empty (beginning recipe text) with
    | (_, .error fault) => .error fault
    | (progress, .ok text) => .ok ⟨recipe, progress, text⟩

/-- The first phase of a document: it is found, and its documents are put in place. -/
def assembleDocument (world : World) (settings : Settings) (spelling : String)
    (bindings : Option Mapping) (given : Option Path) : Except Fault Assembled :=
  (locate world settings.baseDir spelling given).result.bind fun located =>
    assemble world settings located.base (some located.path) bindings located.text

theorem complete_result (world : World) (settings : Settings) (base : Path) (path : Option Path)
    (bindings : Option Mapping) (text : Text) :
    (complete world settings base path bindings text).result =
      (assemble world settings base path bindings text).bind Assembled.finish := by
  unfold assemble
  cases made : recipe? world settings base path bindings with
  | error fault =>
    simp only [complete, made]
    rfl
  | ok recipe =>
    have rooted : recipe.rootPath = path := (recipe?_eq_ok made).2.1
    have stages : Pipeline.standard = [.includes] ++ [.bindings] := rfl
    rw [complete_eq_finish made, stages, Pipeline.run_append]
    dsimp only
    rcases Pipeline.run recipe [.includes] .empty (beginning recipe text) with ⟨progress, fault | inner⟩
    · rfl
    · subst rooted
      rfl

/-- **Resolving a document** is one phase after the other. -/
theorem resolveDocument_result (world : World) (settings : Settings) (spelling : String)
    (bindings : Option Mapping) (given : Option Path) :
    (resolveDocument world settings spelling bindings given).result =
      (assembleDocument world settings spelling bindings given).bind Assembled.finish := by
  unfold resolveDocument assembleDocument
  rw [Outcome.result_andThen]
  cases (locate world settings.baseDir spelling given).result with
  | error fault => rfl
  | ok located => exact complete_result ..

/-- Settings are read alike for all variables. -/
theorem recipe?_bindings (world : World) (settings : Settings) (base : Path) (path : Option Path)
    (bindings others : Option Mapping) :
    recipe? world settings base path others =
      (recipe? world settings base path bindings).map (Recipe.withBindings others) := by
  rw [recipe?_eq_map world settings base base path path bindings others]
  cases made : recipe? world settings base path bindings with
  | error fault => rfl
  | ok recipe =>
    obtain ⟨_, _, _, _, _, _, rfl⟩ := recipe?_eq_ok_iff.mp made
    rfl

/-- **The first phase is the same for all variables**: it fails alike, or ends with the same prompt but for
the variables that it carries along. -/
theorem assemble_bindings (world : World) (settings : Settings) (base : Path) (path : Option Path)
    (bindings others : Option Mapping) (text : Text) :
    assemble world settings base path others text =
      (assemble world settings base path bindings text).map (Assembled.withBindings others) := by
  unfold assemble
  rw [recipe?_bindings world settings base path bindings others]
  cases recipe? world settings base path bindings with
  | error fault => rfl
  | ok recipe =>
    -- putting documents in place reads nothing of a recipe's variables
    have same : Pipeline.run (recipe.withBindings others) [.includes] .empty
        (beginning (recipe.withBindings others) text) =
      Pipeline.run recipe [.includes] .empty (beginning recipe text) := rfl
    simp only [Except.map, same]
    rcases Pipeline.run recipe [.includes] .empty (beginning recipe text) with ⟨progress, fault | inner⟩
    · rfl
    · rfl

theorem assembleDocument_bindings (world : World) (settings : Settings) (spelling : String)
    (bindings others : Option Mapping) (given : Option Path) :
    assembleDocument world settings spelling others given =
      (assembleDocument world settings spelling bindings given).map
        (Assembled.withBindings others) := by
  unfold assembleDocument
  cases (locate world settings.baseDir spelling given).result with
  | error fault => rfl
  | ok located => exact assemble_bindings ..

/-- **A document resolved for two sets of variables** has the same path and includes the same documents. -/
theorem documents_eq {world : World} {settings : Settings} {spelling : String}
    {bindings others : Option Mapping} {given : Option Path} {one two : Resolved}
    (first : (resolveDocument world settings spelling bindings given).result = .ok one)
    (second : (resolveDocument world settings spelling others given).result = .ok two) :
    one.path = two.path ∧ one.dependencies = two.dependencies := by
  rw [resolveDocument_result, Outcome.bind_eq_ok_iff] at first
  obtain ⟨prompt, assembled, finished⟩ := first
  rw [resolveDocument_result, assembleDocument_bindings world settings spelling bindings, assembled]
    at second
  have again : (prompt.withBindings others).finish = .ok two := second
  have here := Assembled.documents_of_finish finished
  have there := Assembled.documents_of_finish again
  exact ⟨here.1.trans there.1.symm, here.2.trans there.2.symm⟩

/-- A document that is resolved for some variables is resolved without any. -/
theorem exists_resolveDocument_none {world : World} {settings : Settings} {spelling : String}
    {bindings : Option Mapping} {given : Option Path} {one : Resolved}
    (first : (resolveDocument world settings spelling bindings given).result = .ok one) :
    ∃ two, (resolveDocument world settings spelling none given).result = .ok two := by
  rw [resolveDocument_result, Outcome.bind_eq_ok_iff] at first
  obtain ⟨prompt, assembled, _⟩ := first
  rw [resolveDocument_result, assembleDocument_bindings world settings spelling bindings, assembled]
  exact prompt.exists_finish_none

end Resolver

/-! ### Resolvers -/

namespace StandingResolver

/-- The first phase of resolving the document at a path. -/
def assemble (resolver : StandingResolver) (configurations : Configurations) (world : World)
    (spelling : String) (bindings : Option Mapping) (given : Option Path) : Except Fault Assembled :=
  Resolver.assembleDocument world (resolver.settings configurations world) spelling bindings given

/-- A resolver resolves a document with the settings that it sees. -/
theorem resolveDocument_result_settings (resolver : StandingResolver) (configurations : Configurations)
    (world : World) (spelling : String) (bindings : Option Mapping) (given : Option Path) :
    (resolver.resolveDocument configurations world spelling bindings given).2.result =
      (Resolver.resolveDocument world (resolver.settings configurations world) spelling bindings
        given).result := by
  rw [resolveDocument_result, Resolver.resolveDocument, Outcome.result_andThen]
  cases (Resolver.locate world (resolver.settings configurations world).baseDir spelling given).result with
  | error fault => rfl
  | ok located => rfl

end StandingResolver

end PromptWeave
