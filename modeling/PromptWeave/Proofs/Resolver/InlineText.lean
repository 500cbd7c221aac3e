/-
**Texts without a file.**

A text without a file stands under a name in its base directory. If no file has that name, then the
text of a document is resolved from the directory of the document as the document itself: to the same
prompt, but for its path. Main statements:

* `Resolver.recipe?_eq_map`: settings hang neither on the place of a document nor on variables;
* `Resolver.complete_inline`: a text passes all stages alike with and without a file;
* `StandingResolver.settings_resolveDocument`: a resolver sees the same settings after it was used;
* `StandingResolver.resolveText_of_resolveDocument`: a text without a file is resolved as the document.
-/

import PromptWeave.Proofs.Expansion.Rerooting
import PromptWeave.Proofs.Resolver.Dependencies
import PromptWeave.Proofs.Storage.Canonical

namespace PromptWeave

open Text

namespace Resolver

/-! ### All stages -/

/-- **What is read of the settings** hangs neither on the place of a document nor on variables. -/
theorem recipe?_eq_map (world : World) (settings : Settings) (base other : Path)
    (path otherPath : Option Path) (bindings others : Option Mapping) :
    recipe? world settings other otherPath others =
      (recipe? world settings base path bindings).map fun recipe =>
        { recipe with baseDirectory := some other, rootPath := otherPath, bindings := others } := by
  unfold recipe?
  split
  · rfl
  · split
    · rfl
    · split <;> rfl

/-- A finished prompt is the same with and without a path. -/
theorem finish_result_eq_map (path other : Option Path) (ran : Progress × Except Fault Text) :
    (finish other ran).result =
      (finish path ran).result.map fun resolved => { resolved with path := other } := by
  unfold finish
  split <;> rfl

/-- **A text passes all stages alike without a file**, if nothing can be read under the name that it
stands under. -/
theorem complete_inline {world : World} {settings : Settings} {base path : Path}
    {bindings : Option Mapping} {text : Text} {resolved : Resolved}
    (unread : ∀ text,
      world.readDocument (path.parent.child Expansion.inlineName) none [] ≠ .ok text)
    (done : (complete world settings base (some path) bindings text).result = .ok resolved) :
    (complete world settings path.parent none bindings text).result =
      .ok { resolved with path := none } := by
  obtain ⟨recipe, root, reads, expanded, made, found, derived, finished⟩ :=
    exists_finish_of_complete done
  obtain ⟨here, rooted, given, _⟩ := recipe?_eq_ok made
  rw [rooted] at found
  cases found
  subst given
  have inline := recipe?_eq_map world settings base path.parent (some path) none recipe.bindings
    recipe.bindings
  rw [made] at inline
  have same : Expansion.Rerooted (path.parent.child Expansion.inlineName)
      (.root path (beginning recipe text))
      (.root (path.parent.child Expansion.inlineName) (beginning recipe text)) :=
    ⟨rfl, Path.parent_child _ _, List.cons_ne_nil _ _, rfl⟩
  have again : Expansion.transform recipe.reading (some path.parent) none
      (Trace.empty.note (.running .includes)) (beginning recipe text) = _ :=
    Expansion.transform_of_expands rfl (derived.under (here ▸ unread) same) _
  rw [Expansion.recorded_under] at again
  rw [complete_eq_finish inline, finish_result_eq_map (some path), Pipeline.run_standard again]
  show (finish (some path) (Pipeline.run recipe [.bindings] _ expanded)).result.map _ = _
  rw [finished]
  rfl

end Resolver

namespace StandingResolver

/-! ### What a resolver keeps -/

/-- A section that was read is read alike once more. -/
theorem sectionNow_toOption (configurations : Configurations) (source : Source) (name : String)
    (kept : Option Mapping) :
    sectionNow configurations source name (sectionNow configurations source name kept).toOption =
      sectionNow configurations source name kept := by
  cases kept with
  | some entries => rfl
  | none =>
    show sectionNow _ _ _ (Settings.sectionOf name (configuration configurations source)).toOption = _
    cases read : Settings.sectionOf name (configuration configurations source) with
    | error fault => rfl
    | ok entries => exact read.symm

/-- A setting that was read is read alike once more. -/
theorem settings_read_again {read : Settings} {baseDir : Option Path}
    (known : read.baseDir.toOption = some baseDir) : { read with baseDir := .ok baseDir } = read := by
  cases read with
  | mk first =>
    cases first with
    | error fault => cases known
    | ok first =>
      cases known
      rfl

theorem settings_keepBase (resolver : StandingResolver) (configurations : Configurations)
    (world : World) :
    (resolver.keepBase configurations world).settings configurations world =
      resolver.settings configurations world := by
  unfold keepBase keepResolution settings
  dsimp only
  rw [sectionNow_toOption]
  cases resolver.baseDir with
  | some baseDir => rfl
  | none =>
    split
    · rename_i baseDir known
      exact settings_read_again known
    · rfl

theorem settings_keepAll (resolver : StandingResolver) (configurations : Configurations)
    (world : World) :
    (resolver.keepAll configurations world).settings configurations world =
      resolver.settings configurations world := by
  unfold keepAll keepResolution
  dsimp only
  split
  · unfold settings
    dsimp only
    rw [sectionNow_toOption]
  · unfold settings
    dsimp only
    rw [sectionNow_toOption, sectionNow_toOption]

/-- **A resolver sees the same settings** after it was used. -/
theorem settings_resolveDocument (resolver : StandingResolver) (configurations : Configurations)
    (world : World) (spelling : String) (bindings : Option Mapping) (given : Option Path) :
    (resolver.resolveDocument configurations world spelling bindings given).1.settings configurations
      world = resolver.settings configurations world := by
  unfold resolveDocument
  dsimp only
  split
  · exact settings_keepBase resolver configurations world
  · rw [settings_keepAll, settings_keepBase]

/-- So it makes no difference for them whether it was used. -/
theorem settings_of_mem {resolver again : StandingResolver} {configurations : Configurations}
    {world : World} {spelling : String} {bindings : Option Mapping} {given : Option Path}
    (inside : again ∈ [resolver,
      (resolver.resolveDocument configurations world spelling bindings given).1]) :
    again.settings configurations world = resolver.settings configurations world := by
  rcases List.mem_pair.mp inside with rfl | rfl
  · rfl
  · exact settings_resolveDocument ..

/-! ### Documents as texts -/

/-- A text without a file that is given a base directory passes all stages from there. -/
theorem resolveText_result (resolver : StandingResolver) (configurations : Configurations)
    {world : World} {given base : Path} (based : world.resolveDirectory given = .ok base) (text : Text)
    (bindings : Option Mapping) :
    (resolver.resolveText configurations world text bindings (some given)).2.result =
      (Resolver.complete world (resolver.settings configurations world) base none bindings
        text).result := by
  unfold resolveText Resolver.textBase
  dsimp only
  rw [based]
  rfl

/-- A document at a canonical path is found there, wherever one starts from. -/
theorem locate_canonical {world : World} {configured : Except HostFault (Option Path)}
    {spelling : String} {given : Option Path} {located : Located}
    (settled : ∀ base, world.resolvePath base (Path.parse spelling) = .ok (Path.parse spelling))
    (found : (Resolver.locate world configured spelling given).result = .ok located) :
    located.path = Path.parse spelling ∧
      world.readDocument (Path.parse spelling) none [] = .ok located.text := by
  unfold Resolver.locate at found
  split at found
  · cases found
  · split at found
    · cases found
    · rename_i base _
      rw [settled base] at found
      dsimp only at found
      split at found
      · cases found
      · rename_i text read
        cases found
        exact ⟨rfl, read⟩

/-- **A text without a file is resolved as the document that it is the text of**, if the path of the
document and its directory are canonical and nothing is stored in the directory under the name that texts
without a file stand under: to the same prompt but for its path, also after the resolver was used. -/
theorem resolveText_of_resolveDocument (resolver : StandingResolver) (configurations : Configurations)
    (world : World) (spelling : String) (path base other : Path) (bindings : Option Mapping)
    (given : Option Path) (resolved : Resolved) (spelled : Path.parse spelling = path)
    (settled : world.resolvePath base path = .ok path)
    (directory : world.resolvePath other path.parent = .ok path.parent)
    (absent : ∀ place, world.lookUp path.parent = .ok (place, .directory) →
      world.files.stored? (place ++ [Expansion.inlineName]) = none)
    (done : (resolver.resolveDocument configurations world spelling bindings given).2.result =
      .ok resolved) :
    ∃ text, world.readDocument path none [] = .ok text ∧
      ∀ again ∈ [resolver,
          (resolver.resolveDocument configurations world spelling bindings given).1],
        (again.resolveText configurations world text bindings (some path.parent)).2.result =
          .ok { resolved with path := none } := by
  subst spelled
  obtain ⟨_, everywhere, _⟩ := World.resolve_of_resolvePath settled
  obtain ⟨canonical, _, based⟩ := World.resolve_of_resolvePath directory
  rw [resolveDocument_result] at done
  split at done
  · cases done
  · rename_i located found
    obtain ⟨path, read⟩ := locate_canonical everywhere found
    have unread : ∀ text, world.readDocument
        ((Path.parse spelling).parent.child Expansion.inlineName) none [] ≠ .ok text := by
      intro text readToo
      obtain ⟨_, _, _, there, _⟩ := World.lookUp_of_readDocument readToo
      obtain ⟨place, reached, stored⟩ := World.exists_directory_of_lookUp_child
        (World.isAbsolute_of_resolve canonical) (by decide) there
      exact stored (absent place reached)
    rw [path] at done
    refine ⟨located.text, read, fun again inside => ?_⟩
    rw [resolveText_result again configurations based, settings_of_mem inside]
    exact Resolver.complete_inline unread done

/-- The text of the document with the greeting is resolved as that document. -/
theorem resolveText_of_resolveDocument_greeting :
    Expansion.greetingReading.world.readDocument ⟨.root, ["r"]⟩ none [] =
        .ok "See <include src=\"a\"/>!".toList ∧
      (resolveText (.start (.given [])) .empty Expansion.greetingReading.world
        "See <include src=\"a\"/>!".toList none (some ⟨.root, []⟩)).2.result =
        .ok { greetingResolved with path := none } := by
  have settled : Expansion.greetingReading.world.resolvePath ⟨.root, []⟩ ⟨.root, ["r"]⟩ =
      .ok ⟨.root, ["r"]⟩ := by cbv
  have directory : Expansion.greetingReading.world.resolvePath ⟨.root, []⟩ ⟨.root, []⟩ =
      .ok ⟨.root, []⟩ := by cbv
  have absent : ∀ place, Expansion.greetingReading.world.lookUp ⟨.root, []⟩ = .ok (place, .directory) →
      Expansion.greetingReading.world.files.stored? (place ++ [Expansion.inlineName]) = none := by
    have root : Expansion.greetingReading.world.lookUp ⟨.root, []⟩ = .ok ([], .directory) := by cbv
    intro place there
    cases root.symm.trans there
    decide
  obtain ⟨text, read, same⟩ := resolveText_of_resolveDocument (.start (.given [])) .empty
    Expansion.greetingReading.world "/r" ⟨.root, ["r"]⟩ ⟨.root, []⟩ ⟨.root, []⟩ none none
    greetingResolved (by decide) settled directory absent greeting_resolved
  have known : Expansion.greetingReading.world.readDocument ⟨.root, ["r"]⟩ none [] =
      .ok "See <include src=\"a\"/>!".toList := by cbv
  cases read.symm.trans known
  exact ⟨known, same _ List.mem_cons_self⟩

end StandingResolver

end PromptWeave
