/-
**What a resolved document depends on.**

The dependencies of a resolved document are the documents that were read through its includes, each
once and in the order of first reading. With the document itself they are all that its result hangs
on: in a world with the same directories, links and environment in which these files are the same,
the document is resolved alike. Main statements:

* `Expansion.recorded_includes`: the documents that a run records;
* `Expansion.Expands.inWorld`: a run goes alike where all that it reads is the same;
* `Resolver.complete_inWorld`: so does a text through all stages;
* `StandingResolver.resolveDocument_dependencies`: the dependencies of a resolved document.
-/

import Mathlib.Data.List.Induction
import Mathlib.Data.List.Nodup
import PromptWeave.Composition.StandingResolver
import PromptWeave.Proofs.Expansion.Run

namespace PromptWeave

open Text

/-! ### What is recorded -/

theorem Trace.nodup_record {trace : Trace} (distinct : trace.includes.Nodup) (path : Path)
    (depth : Nat) : (trace.record path depth).includes.Nodup := by
  show (if path ∈ trace.includes then trace.includes else trace.includes ++ [path]).Nodup
  split
  · exact distinct
  · rename_i fresh
    rw [← List.concat_eq_append]
    exact distinct.concat fresh

/-- The same way of reading in another world. -/
def Reading.inWorld (reading : Reading) (world : World) : Reading := { reading with world }

namespace Expansion

variable {reading : Reading}

/-- No document is recorded twice. -/
theorem nodup_recorded {trace : Trace} (distinct : trace.includes.Nodup) (reads : List Frame) :
    (recorded trace reads).includes.Nodup := by
  induction reads generalizing trace with
  | nil => exact distinct
  | cons frame reads ih => exact ih (Trace.nodup_record distinct _ _)

/-- **A run records the documents that it reads**, in the order of first reading. -/
theorem recorded_includes {trace : Trace} (fresh : trace.includes = []) (reads : List Frame) :
    (recorded trace reads).includes = (reads.map (·.document)).eraseDups := by
  induction reads using List.reverseRecOn with
  | nil => exact fresh
  | append_singleton reads frame ih =>
    have known : frame.document ∈ (recorded trace reads).includes ↔
        frame.document ∈ reads.map (·.document) := by
      rw [ih, List.mem_eraseDups]
    rw [recorded_append, List.map_append, List.eraseDups_append, ← ih]
    show (if _ then _ else _) = _
    rw [List.map_singleton, List.cons_removeAll, List.nil_removeAll]
    by_cases again : frame.document ∈ reads.map (·.document)
    · have listed : (reads.map (·.document)).contains frame.document = true :=
        List.contains_iff_mem.mpr again
      rw [if_pos (known.mpr again), listed]
      simp
    · have unlisted : (reads.map (·.document)).contains frame.document = false := by
        rw [← Bool.not_eq_true, List.contains_iff_mem]
        exact again
      rw [if_neg (mt known.mp again), unlisted]
      rfl

/-! ### Runs in two worlds -/

variable {other : World} {kept : List Path}

theorem load_inWorld (same : reading.world.SameBeside other kept) {frame inner : Frame}
    {source : Text} (loads : load reading frame source = .ok inner)
    (inside : inner.document ∈ kept) : load (reading.inWorld other) frame source = .ok inner := by
  obtain ⟨found, extended, text, read, trimmed⟩ := load_eq_ok loads
  have foundAgain := (same.resolvePath_eq frame.document.parent
    (Path.parse (String.ofList source))).trans found
  have readAgain := same.readDocument_eq inside read
  unfold load Reading.inWorld
  dsimp only
  simp only [foundAgain, extended, readAgain, ← trimmed]

/-- **A run goes alike in another world** where all documents that it reads are the same. -/
theorem Expands.inWorld (same : reading.world.SameBeside other kept) {frame : Frame}
    {reads : List Frame} {text : Text} (derived : Expands reading frame reads (.ok text))
    (inside : ∀ read ∈ reads, read.document ∈ kept) :
    Expands (reading.inWorld other) frame reads (.ok text) := by
  have entersAgain : ∀ {frame inner : Frame} {directive : Directive}, inner.document ∈ kept →
      step reading frame = .enters directive inner →
      step (reading.inWorld other) frame = .enters directive inner := by
    intro frame inner directive known enters
    obtain ⟨found, loads⟩ := step_eq_enters_iff.mp enters
    exact step_eq_enters_iff.mpr ⟨found, load_inWorld same loads known⟩
  generalize done : (.ok text : Except Fault Text) = outcome at derived ⊢
  induction derived generalizing text with
  | ended ends =>
    subst done
    exact .ended (step_eq_ends_ok_iff.mpr (step_eq_ends_ok_iff.mp ends))
  | broken => cases done
  | spliced enters _ _ ihInside ihRest =>
    rw [List.forall_mem_append, List.forall_mem_cons] at inside
    obtain ⟨⟨known, inner⟩, later⟩ := inside
    exact .spliced (entersAgain known enters) (ihInside inner rfl) (ihRest later done)

/-- An expansion that gives a text is a run. -/
theorem exists_of_transform {baseDirectory rootPath : Option Path} {trace after : Trace}
    {text expanded : Text}
    (done : transform reading baseDirectory rootPath trace text = (after, .ok expanded)) :
    ∃ root reads, rootDocument baseDirectory rootPath = .ok root ∧
      Expands reading (.root root text) reads (.ok expanded) ∧ after = recorded trace reads := by
  have ends : transform? reading baseDirectory rootPath trace text =
      some (after, .ok expanded) := by
    unfold transform at done
    cases ends : transform? reading baseDirectory rootPath trace text with
    | none => rw [ends] at done; cases done
    | some result => rw [ends] at done; exact congrArg some done
  obtain ⟨_, -, -, failed⟩ | run := transform?_eq_some_iff.mp ends
  · cases failed
  · exact run

theorem transform_of_expands {baseDirectory rootPath : Option Path} {root : Path} {text : Text}
    {reads : List Frame} {outcome : Except Fault Text}
    (found : rootDocument baseDirectory rootPath = .ok root)
    (derived : Expands reading (.root root text) reads outcome) (trace : Trace) :
    transform reading baseDirectory rootPath trace text = (recorded trace reads, outcome) := by
  rw [transform, transform?_eq_some_iff.mpr (.inr ⟨root, reads, found, derived, rfl⟩),
    Option.getD_some]

end Expansion

/-! ### All stages -/

/-- A recipe in another world. -/
def Recipe.inWorld (recipe : Recipe) (world : World) : Recipe :=
  { recipe with reading := recipe.reading.inWorld world }

namespace Pipeline

/-- What included documents leave behind is passed on to the values. -/
theorem run_standard {recipe : Recipe} {start expanded : Text} {trace : Trace}
    (included : Expansion.transform recipe.reading recipe.baseDirectory recipe.rootPath
      (Trace.empty.note (.running .includes)) start = (trace, .ok expanded)) :
    run recipe standard .empty start = run recipe [.bindings] ⟨trace, [], []⟩ expanded := by
  rw [standard, run]
  simp only [runStage, includeStage, Progress.empty, included]

theorem run_standard_error {recipe : Recipe} {start : Text} {trace : Trace} {fault : Fault}
    (failed : Expansion.transform recipe.reading recipe.baseDirectory recipe.rootPath
      (Trace.empty.note (.running .includes)) start = (trace, .error fault)) :
    run recipe standard .empty start = (⟨trace, [], []⟩, .error fault) := by
  rw [standard, run]
  simp only [runStage, includeStage, Progress.empty, failed]

/-- Filling in values includes nothing. -/
theorem run_bindings_includes (recipe : Recipe) (progress : Progress) (text : Text) :
    (run recipe [.bindings] progress text).1.trace.includes = progress.trace.includes := by
  have filled : ∀ progress : Progress,
      (fillStage recipe progress text).1.trace.includes = progress.trace.includes := by
    intro progress
    unfold fillStage
    split <;> rfl
  rw [run]
  have stage := filled { progress with trace := progress.trace.note (.running .bindings) }
  simp only [runStage]
  split
  · rename_i after fault done
    rw [done] at stage
    exact stage
  · rename_i after content done
    rw [done] at stage
    exact stage

end Pipeline

namespace Resolver

/-- The text that a run begins with. -/
def beginning (recipe : Recipe) (text : Text) : Text :=
  if recipe.reading.trims then strip text else text

/-- The finished prompt after all stages. -/
def finish (path : Option Path) (ran : Progress × Except Fault Text) : Outcome Resolved :=
  match ran.2 with
  | .error fault => ⟨.error fault, ran.1.trace.notices⟩
  | .ok content =>
    let missing := Pipeline.sortedNames ran.1.missing
    let last := if missing = [] then [] else [Notice.missingNames missing]
    ⟨.ok ⟨content, path, ran.1.trace.includes, missing⟩, ran.1.trace.notices ++ last⟩

theorem complete_eq_finish {world : World} {settings : Settings} {base : Path} {path : Option Path}
    {bindings : Option Mapping} {recipe : Recipe}
    (made : recipe? world settings base path bindings = .ok recipe) (text : Text) :
    complete world settings base path bindings text =
      finish path (Pipeline.run recipe Pipeline.standard .empty (beginning recipe text)) := by
  unfold complete
  rw [made]
  rfl

/-- **What a recipe is made from**: the settings that can be read, and a place and variables as they
are given. -/
theorem recipe?_eq_ok_iff {world : World} {settings : Settings} {base : Path} {path : Option Path}
    {bindings : Option Mapping} {recipe : Recipe} :
    recipe? world settings base path bindings = .ok recipe ↔
      ∃ depth trims indent, settings.maxDepth = .ok depth ∧ settings.trims = .ok trims ∧
        settings.indent = .ok indent ∧
        recipe = ⟨⟨world, depth, trims⟩, some base, path, bindings, indent⟩ := by
  unfold recipe?
  constructor
  · intro made
    split at made
    · cases made
    · rename_i depth deep
      split at made
      · cases made
      · rename_i trims trimmed
        split at made
        · cases made
        · rename_i indent indented
          cases made
          exact ⟨depth, trims, indent, deep, trimmed, indented, rfl⟩
  · rintro ⟨depth, trims, indent, deep, trimmed, indented, rfl⟩
    rw [deep, trimmed, indented]

/-- A recipe hangs on its world in nothing but the world itself. -/
theorem recipe?_eq_ok {world : World} {settings : Settings} {base : Path} {path : Option Path}
    {bindings : Option Mapping} {recipe : Recipe}
    (made : recipe? world settings base path bindings = .ok recipe) :
    recipe.reading.world = world ∧ recipe.rootPath = path ∧ recipe.bindings = bindings ∧
      ∀ other, recipe? other settings base path bindings = .ok (recipe.inWorld other) := by
  obtain ⟨depth, trims, indent, deep, trimmed, indented, rfl⟩ := recipe?_eq_ok_iff.mp made
  exact ⟨rfl, rfl, rfl, fun other =>
    recipe?_eq_ok_iff.mpr ⟨depth, trims, indent, deep, trimmed, indented, rfl⟩⟩

/-- **What a finished prompt comes from**: a run that puts its documents in place, and the values that
are filled in after it. -/
theorem exists_finish_of_complete {world : World} {settings : Settings} {base : Path}
    {path : Option Path} {bindings : Option Mapping} {text : Text} {resolved : Resolved}
    (done : (complete world settings base path bindings text).result = .ok resolved) :
    ∃ recipe root reads expanded, recipe? world settings base path bindings = .ok recipe ∧
      Expansion.rootDocument recipe.baseDirectory recipe.rootPath = .ok root ∧
      Expansion.Expands recipe.reading (.root root (beginning recipe text)) reads (.ok expanded) ∧
      (finish path (Pipeline.run recipe [.bindings]
        ⟨Expansion.recorded (Trace.empty.note (.running .includes)) reads, [], []⟩
        expanded)).result = .ok resolved := by
  cases made : recipe? world settings base path bindings with
  | error fault =>
    simp only [complete, made] at done
    cases done
  | ok recipe =>
    rw [complete_eq_finish made] at done
    rcases included : Expansion.transform recipe.reading recipe.baseDirectory recipe.rootPath
      (Trace.empty.note (.running .includes)) (beginning recipe text) with ⟨trace, fault | expanded⟩
    · rw [Pipeline.run_standard_error included] at done
      cases done
    · obtain ⟨root, reads, found, derived, rfl⟩ := Expansion.exists_of_transform included
      rw [Pipeline.run_standard included] at done
      exact ⟨recipe, root, reads, expanded, rfl, found, derived, done⟩

/-- The documents that the run of a finished prompt puts in place are its dependencies. -/
theorem exists_of_complete {world : World} {settings : Settings} {base : Path} {path : Option Path}
    {bindings : Option Mapping} {text : Text} {resolved : Resolved}
    (done : (complete world settings base path bindings text).result = .ok resolved) :
    ∃ recipe root reads expanded, recipe? world settings base path bindings = .ok recipe ∧
      Expansion.rootDocument recipe.baseDirectory recipe.rootPath = .ok root ∧
      Expansion.Expands recipe.reading (.root root (beginning recipe text)) reads (.ok expanded) ∧
      resolved.path = path ∧
      resolved.dependencies =
        (Expansion.recorded (Trace.empty.note (.running .includes)) reads).includes := by
  obtain ⟨recipe, root, reads, expanded, made, found, derived, finished⟩ :=
    exists_finish_of_complete done
  refine ⟨recipe, root, reads, expanded, made, found, derived, ?_⟩
  rw [← Pipeline.run_bindings_includes recipe ⟨_, [], []⟩ expanded]
  unfold finish at finished
  split at finished
  · cases finished
  · cases finished
    exact ⟨rfl, rfl⟩

/-- **A text passes all stages alike** in a world where its dependencies are the same. -/
theorem complete_inWorld {world other : World} {settings : Settings} {base : Path}
    {path : Option Path} {bindings : Option Mapping} {text : Text} {resolved : Resolved}
    {kept : List Path}
    (done : (complete world settings base path bindings text).result = .ok resolved)
    (same : world.SameBeside other kept) (inside : ∀ path ∈ resolved.dependencies, path ∈ kept) :
    complete other settings base path bindings text =
      complete world settings base path bindings text := by
  obtain ⟨recipe, root, reads, expanded, made, found, derived, _, recorded⟩ :=
    exists_of_complete done
  have reads_kept : ∀ read ∈ reads, read.document ∈ kept := by
    intro read inRun
    refine inside _ ?_
    rw [recorded, Expansion.recorded_includes rfl, List.mem_eraseDups]
    exact List.mem_map_of_mem inRun
  obtain ⟨here, _, _, madeAgain⟩ := recipe?_eq_ok made
  have first := Pipeline.run_standard (Expansion.transform_of_expands found derived
    (Trace.empty.note (.running .includes)))
  have second : Pipeline.run (recipe.inWorld other) Pipeline.standard .empty
      (beginning recipe text) = _ :=
    Pipeline.run_standard (Expansion.transform_of_expands found
      (derived.inWorld (here ▸ same) reads_kept) (Trace.empty.note (.running .includes)))
  rw [complete_eq_finish made, complete_eq_finish (madeAgain other), first]
  show finish path (Pipeline.run (recipe.inWorld other) Pipeline.standard .empty
    (beginning recipe text)) = _
  rw [second]
  rfl

/-- **A document is found alike** in a world where its file is the same. -/
theorem locate_inWorld {world other : World} {configured : Except HostFault (Option Path)}
    {spelling : String} {given : Option Path} {located : Located} {kept : List Path}
    (found : (locate world configured spelling given).result = .ok located)
    (same : world.SameBeside other kept) (inside : located.path ∈ kept) :
    locate other configured spelling given = locate world configured spelling given := by
  unfold locate at found ⊢
  cases configured with
  | error fault => rfl
  | ok configured =>
    simp only [same.resolveBase_eq, same.resolvePath_eq] at found ⊢
    split
    · rfl
    · rename_i base based
      rw [based] at found
      simp only at found ⊢
      split
      · rfl
      · rename_i path pathed
        rw [pathed] at found
        simp only at found
        cases read : world.readDocument path none [] with
        | error fault =>
          rw [read] at found
          cases found
        | ok text =>
          rw [read] at found
          cases found
          rw [same.readDocument_eq inside read]

end Resolver

/-! ### Resolvers -/

namespace StandingResolver

/-- Settings hang on no files. -/
theorem settings_inWorld (resolver : StandingResolver) (configurations : Configurations)
    {world other : World} {kept : List Path} (same : world.SameBeside other kept) :
    resolver.settings configurations other = resolver.settings configurations world := by
  have base : Settings.baseDirOf other = Settings.baseDirOf world := by
    funext entries
    simp only [Settings.baseDirOf, same.expandHome_eq]
  unfold settings Settings.ofSections
  rw [base]

/-- A document is resolved in two steps: it is found, and its text passes all stages. -/
theorem resolveDocument_result (resolver : StandingResolver) (configurations : Configurations)
    (world : World) (spelling : String) (bindings : Option Mapping) (given : Option Path) :
    (resolver.resolveDocument configurations world spelling bindings given).2.result =
      match (Resolver.locate world (resolver.settings configurations world).baseDir spelling
        given).result with
      | .error fault => .error fault
      | .ok located =>
        (Resolver.complete world (resolver.settings configurations world) located.base
          (some located.path) bindings located.text).result := by
  unfold resolveDocument
  dsimp only
  rcases Resolver.locate world (resolver.settings configurations world).baseDir spelling given with
    ⟨fault | located, notices⟩
  · rfl
  · rfl

/-- The documents that resolving a document reads through its includes, in order. -/
def Includes (resolver : StandingResolver) (configurations : Configurations) (world : World)
    (spelling : String) (bindings : Option Mapping) (given : Option Path)
    (reads : List Expansion.Frame) : Prop :=
  ∃ located recipe expanded,
    (Resolver.locate world (resolver.settings configurations world).baseDir spelling
      given).result = .ok located ∧
    Resolver.recipe? world (resolver.settings configurations world) located.base
      (some located.path) bindings = .ok recipe ∧
    Expansion.Expands recipe.reading
      (.root located.path (Resolver.beginning recipe located.text)) reads (.ok expanded)

/-- **The dependencies of a resolved document** are the documents that were read through its
includes, each once and in the order of first reading; and in every world with the same directories
and links, in which the document itself and its dependencies are the same files, it is resolved to
the same. -/
theorem resolveDocument_dependencies (resolver : StandingResolver)
    (configurations : Configurations) (world : World) (spelling : String)
    (bindings : Option Mapping) (given : Option Path) (resolved : Resolved)
    (done : (resolver.resolveDocument configurations world spelling bindings given).2.result =
      .ok resolved) :
    resolved.dependencies.Nodup ∧
      (∃ reads, resolver.Includes configurations world spelling bindings given reads ∧
        resolved.dependencies = (reads.map (·.document)).eraseDups) ∧
      ∀ other, world.SameBeside other (resolved.path.toList ++ resolved.dependencies) →
        (resolver.resolveDocument configurations other spelling bindings given).2.result =
          .ok resolved := by
  rw [resolveDocument_result] at done
  split at done
  · cases done
  · rename_i located found
    obtain ⟨recipe, root, reads, expanded, made, rooted, derived, path, recorded⟩ :=
      Resolver.exists_of_complete done
    rw [(Resolver.recipe?_eq_ok made).2.1] at rooted
    cases rooted
    refine ⟨?_, ⟨reads, ⟨located, recipe, expanded, found, made, derived⟩, ?_⟩, ?_⟩
    · rw [recorded]
      exact Expansion.nodup_recorded List.nodup_nil reads
    · rw [recorded]
      exact Expansion.recorded_includes rfl reads
    · intro other same
      have settings := resolver.settings_inWorld configurations same
      have known : located.path ∈ resolved.path.toList ++ resolved.dependencies := by
        rw [path]
        exact List.mem_cons_self
      rw [resolveDocument_result, settings, Resolver.locate_inWorld found same known, found]
      show (Resolver.complete _ _ _ _ _ _).result = _
      rw [Resolver.complete_inWorld done same fun path inside => List.mem_append_right _ inside]
      exact done

/-- What the document with the greeting is resolved to. -/
def greetingResolved : Resolved :=
  ⟨"See A.!".toList, some ⟨.root, ["r"]⟩, [⟨.root, ["a"]⟩], []⟩

/-- It is resolved to this for all variables, there being no placeholders. -/
theorem greeting_resolved {bindings : Option Mapping} :
    (resolveDocument (.start (.given [])) .empty Expansion.greetingReading.world "/r" bindings
      none).2.result = .ok greetingResolved := by
  have found : (Resolver.locate Expansion.greetingReading.world (settings (.start (.given []))
      .empty Expansion.greetingReading.world).baseDir "/r" none).result =
      .ok ⟨⟨.root, []⟩, ⟨.root, ["r"]⟩, "See <include src=\"a\"/>!".toList⟩ := by cbv
  have made : Resolver.recipe? Expansion.greetingReading.world (settings (.start (.given []))
      .empty Expansion.greetingReading.world) ⟨.root, []⟩ (some ⟨.root, ["r"]⟩) bindings =
      .ok ⟨Expansion.greetingReading, some ⟨.root, []⟩, some ⟨.root, ["r"]⟩, bindings, 2⟩ := by cbv
  have begins : Resolver.beginning ⟨Expansion.greetingReading, some ⟨.root, []⟩,
      some ⟨.root, ["r"]⟩, bindings, 2⟩ "See <include src=\"a\"/>!".toList =
      "See <include src=\"a\"/>!".toList := by cbv
  have ran : Pipeline.run ⟨Expansion.greetingReading, some ⟨.root, []⟩, some ⟨.root, ["r"]⟩, bindings,
      2⟩ Pipeline.standard .empty "See <include src=\"a\"/>!".toList = _ :=
    Pipeline.run_standard (Expansion.transform_of_expands rfl (.spliced Expansion.step_greeting
      (.ended Expansion.step_greeting_inside) (.ended Expansion.step_greeting_done)) _)
  rw [resolveDocument_result, found]
  show (Resolver.complete _ _ _ _ _ _).result = _
  rw [Resolver.complete_eq_finish made, begins, ran]
  cases bindings with
  | none => rfl
  | some bindings =>
    have plain : '\x7b' ∉ "See A.!".toList := by decide
    simp only [Pipeline.run, Pipeline.runStage, Pipeline.fillStage,
      Template.fill_ofText_of_noBrace plain]
    rfl

theorem greeting_sameBeside : Expansion.greetingReading.world.SameBeside
    (.ofDocuments [("r", "See <include src=\"a\"/>!"), ("a", " A.\n"), ("new", "B.")])
    [⟨.root, ["r"]⟩, ⟨.root, ["a"]⟩] := by
  refine ⟨rfl, rfl, rfl, rfl, World.sameSkeleton_ofDocuments _ _, ?_⟩
  intro path inside place content modified found
  have r : Expansion.greetingReading.world.lookUp ⟨.root, ["r"]⟩ =
    .ok (["r"], .file (Utf8.encode "See <include src=\"a\"/>!".toList) 0) := by cbv
  have a : Expansion.greetingReading.world.lookUp ⟨.root, ["a"]⟩ =
    .ok (["a"], .file (Utf8.encode " A.\n".toList) 0) := by cbv
  rw [List.mem_pair] at inside
  rcases inside with rfl | rfl
  · rw [r] at found
    cases found
    exact ⟨rfl, rfl⟩
  · rw [a] at found
    cases found
    exact ⟨rfl, rfl⟩

/-- A document is resolved to the same after a document beside it was replaced by another one. -/
theorem resolveDocument_dependencies_greeting :
    (resolveDocument (.start (.given [])) .empty Expansion.greetingReading.world "/r" none
        none).2.result = .ok greetingResolved ∧
      (resolveDocument (.start (.given [])) .empty
        (.ofDocuments [("r", "See <include src=\"a\"/>!"), ("a", " A.\n"), ("new", "B.")]) "/r" none
        none).2.result = .ok greetingResolved :=
  ⟨greeting_resolved, (resolveDocument_dependencies _ _ _ _ _ _ _ greeting_resolved).2.2 _
    greeting_sameBeside⟩

end StandingResolver

end PromptWeave
