/-
**What escapes from resolving a document.**

Resolving a document gives a prompt or ends with a failure. Two things escape from that. A path is
refused before it can be said to lead to no document: the base directory that is configured or given,
the path of the document, or that of a document it includes. And what it includes is put in place for
ever. Nothing else does: the settings of a configuration that is accepted can be read, reading a
document fails by a failure, and without variables nothing is filled in. Main statements:

* `Expansion.exists_expands_host_iff`: which faults of the host the run of an expansion ends with;
* `StandingResolver.Escapes`: all that escapes;
* `StandingResolver.resolveDocument_error_iff`: it is what resolving a document ends with;
* `StandingResolver.resolveDocument_answers_iff`: when there is a prompt or a failure;
* `StandingResolver.Valid.resolveDocument`: a resolver stays one of which all this holds.
-/

import PromptWeave.Proofs.Configuration.Acceptance
import PromptWeave.Proofs.Resolver.Dependencies
import PromptWeave.Proofs.Storage.Refusal

namespace PromptWeave

open Text

/-! ### Expansions -/

namespace Expansion

variable {reading : Reading}

/-- The document that a directive names is refused, the chain having room for it if it has a path. -/
structure Refused (reading : Reading) (frame : Frame) (source : Text) (fault : HostFault) :
    Prop where
  path : reading.world.Refuses frame.document.parent (Path.parse (String.ofList source)) fault
  room : ∀ target, reading.world.resolvePath frame.document.parent
      (Path.parse (String.ofList source)) = .ok target →
    ∃ branch, frame.chain.extend target (some reading.maxDepth) = .ok branch

/-- **Loading a document ends with a fault of the host** exactly when it is refused. -/
theorem load_eq_host_iff {frame : Frame} {source : Text} {fault : HostFault} :
    load reading frame source = .error (.host fault) ↔ Refused reading frame source fault := by
  unfold load
  cases found : reading.world.resolvePath frame.document.parent
      (Path.parse (String.ofList source)) with
  | error cause =>
    constructor
    · intro fails
      cases fails
      exact ⟨.unresolved found, fun target resolved => by rw [found] at resolved; cases resolved⟩
    · rintro ⟨fails | ⟨resolved, _⟩, _⟩
      · rw [found] at fails
        cases fails
        rfl
      · rw [found] at resolved
        cases resolved
  | ok target =>
    dsimp only
    cases extended : frame.chain.extend target (some reading.maxDepth) with
    | error failure =>
      refine ⟨fun fails => (by cases fails), fun refused => ?_⟩
      obtain ⟨branch, room⟩ := refused.room target found
      rw [extended] at room
      cases room
    | ok branch =>
      dsimp only
      constructor
      · intro fails
        split at fails
        · rename_i cause read
          cases fails
          refine ⟨.unexamined found (World.readDocument_eq_host_iff.mp read), fun other resolved => ?_⟩
          rw [found] at resolved
          cases resolved
          exact ⟨branch, extended⟩
        · cases fails
      · rintro ⟨fails | ⟨resolved, fails⟩, _⟩
        · rw [found] at fails
          cases fails
        · rw [found] at resolved
          cases resolved
          rw [World.readDocument_eq_host_iff.mpr fails]

theorem load_ne_endless {frame : Frame} {source : Text} :
    load reading frame source ≠ .error .endless := by
  intro fails
  rcases load_eq_error fails with ⟨_, same⟩ | ⟨_, _, _, same⟩ | ⟨_, _, _, read⟩
  · cases same
  · cases same
  · exact World.readDocument_ne_endless read

/-- A run comes by a document whose first directive is refused. -/
def Meets (reading : Reading) (start : Frame) (fault : HostFault) : Prop :=
  ∃ place directive, Reached reading start place ∧
    Directive.first place.text = .ok (some directive) ∧
    Refused reading place directive.source fault

theorem step_eq_ends_host_iff {frame : Frame} {fault : HostFault} :
    step reading frame = .ends (.error (.host fault)) ↔
      ∃ directive, Directive.first frame.text = .ok (some directive) ∧
        Refused reading frame directive.source fault := by
  constructor
  · intro ends
    rcases step_eq_ends_error ends with ⟨_, _, same⟩ | ⟨directive, found, fails⟩
    · cases same
    · exact ⟨directive, found, load_eq_host_iff.mp fails⟩
  · rintro ⟨directive, found, refused⟩
    unfold step
    rw [found]
    simp only [load_eq_host_iff.mpr refused]

/-- **A run fails with the fault of any frame that it comes by.** -/
theorem Reached.exists_expands {start place : Frame} (reached : Reached reading start place)
    {reads : List Frame} {fault : Fault} (fails : Expands reading place reads (.error fault)) :
    ∃ others, Expands reading start others (.error fault) := by
  induction reached generalizing reads with
  | start => exact ⟨reads, fails⟩
  | descent _ enters ih => exact ih (.broken enters fails)
  | turn _ enters inside ih => exact ih (.spliced enters inside fails)

/-- **A run ends with a fault of the host** exactly when it comes by a directive that is refused. -/
theorem exists_expands_host_iff {start : Frame} {fault : HostFault} :
    (∃ reads, Expands reading start reads (.error (.host fault))) ↔ Meets reading start fault := by
  constructor
  · rintro ⟨reads, derived⟩
    obtain ⟨place, reached, raised⟩ := exists_raised derived
    obtain ⟨directive, found, refused⟩ := step_eq_ends_host_iff.mp raised
    exact ⟨place, directive, reached, found, refused⟩
  · rintro ⟨place, directive, reached, found, refused⟩
    exact reached.exists_expands (.ended (step_eq_ends_host_iff.mpr ⟨directive, found, refused⟩))

/-- No run ends with the fault of those that never end. -/
theorem Expands.ne_endless {start : Frame} {reads : List Frame} :
    ¬ Expands reading start reads (.error .endless) := by
  intro derived
  obtain ⟨place, _, raised⟩ := exists_raised derived
  rcases step_eq_ends_error raised with ⟨_, _, same⟩ | ⟨_, _, fails⟩
  · cases same
  · exact load_ne_endless fails

/-- An expansion that never ends has no outcome but that. -/
theorem transform_of_not_ends {baseDirectory rootPath : Option Path} {root : Path} {text : Text}
    (found : rootDocument baseDirectory rootPath = .ok root)
    (never : ¬ Ends reading (.root root text)) (trace : Trace) :
    transform reading baseDirectory rootPath trace text = (trace, .error .endless) := by
  have nothing : (Frame.root root text).expand? reading trace = none := by
    rw [← Option.not_isSome_iff_eq_none, expand?_isSome_iff]
    exact never
  unfold transform transform?
  rw [found]
  simp only [nothing, Option.getD_none]

end Expansion

/-! ### Texts -/

/-- A fault that is no failure. -/
def Fault.IsForeign (fault : Fault) : Prop := ∀ failure, fault ≠ .failure failure

namespace Resolver

variable {world : World}

/-- **What putting a text together ends with**, when nothing is filled in: what its expansion ends
with, or that it never ends. -/
theorem complete_error_iff {settings : Settings} {base path : Path} {recipe : Recipe}
    (made : recipe? world settings base (some path) none = .ok recipe) (text : Text) (fault : Fault) :
    (complete world settings base (some path) none text).result = .error fault ↔
      (∃ reads, Expansion.Expands recipe.reading (.root path (beginning recipe text)) reads
        (.error fault)) ∨
      (¬ Expansion.Ends recipe.reading (.root path (beginning recipe text)) ∧ fault = .endless) := by
  have rooted : Expansion.rootDocument recipe.baseDirectory recipe.rootPath = .ok path := by
    rw [(recipe?_eq_ok made).2.1]
    rfl
  have plain : recipe.bindings = none := (recipe?_eq_ok made).2.2.1
  rw [complete_eq_finish made]
  by_cases ends : Expansion.Ends recipe.reading (.root path (beginning recipe text))
  · obtain ⟨reads, outcome, derived⟩ := ends
    have only : (∃ others, Expansion.Expands recipe.reading (.root path (beginning recipe text))
        others (.error fault)) ↔ outcome = .error fault :=
      ⟨fun ⟨_, again⟩ => (again.unique derived).2, fun same => ⟨reads, same ▸ derived⟩⟩
    have ended := not_not.mpr (⟨reads, outcome, derived⟩ : Expansion.Ends recipe.reading _)
    rw [only, or_iff_left (fun never => ended never.1)]
    have included := Expansion.transform_of_expands rooted derived
      (Trace.empty.note (.running .includes))
    cases outcome with
    | error cause =>
      rw [Pipeline.run_standard_error included]
      simp [finish]
    | ok expanded =>
      rw [Pipeline.run_standard included, Pipeline.run]
      simp only [Pipeline.runStage, Pipeline.fillStage, plain, Pipeline.run]
      simp [finish]
  · have included := Expansion.transform_of_not_ends rooted ends
      (Trace.empty.note (.running .includes))
    have none : ¬ ∃ reads, Expansion.Expands recipe.reading (.root path (beginning recipe text))
        reads (.error fault) := fun ⟨reads, derived⟩ => ends ⟨reads, _, derived⟩
    rw [or_iff_right none, and_iff_right ends, Pipeline.run_standard_error included]
    show (Except.error Fault.endless : Except Fault Resolved) = .error fault ↔ _
    rw [Except.error.injEq]
    exact eq_comm

/-! ### Documents -/

/-- No document is found: the base directory of the configuration, the one that is given or the path
of the document itself is refused. -/
inductive Blocked (world : World) (configured : Except HostFault (Option Path)) (spelling : String)
    (base : Path) : HostFault → Prop
  | configured {fault : HostFault} (fails : configured = .error fault) :
      Blocked world configured spelling base fault
  | base {fault : HostFault} {setting : Option Path} (read : configured = .ok setting)
      (fails : world.resolveDirectory base = .error fault) :
      Blocked world configured spelling base fault
  | document {fault : HostFault} {setting : Option Path} {directory : Path}
      (read : configured = .ok setting) (based : world.resolveDirectory base = .ok directory)
      (refused : world.Refuses directory (Path.parse spelling) fault) :
      Blocked world configured spelling base fault

/-- The steps of finding a document from a base directory that is given. -/
theorem locate_result (configured : Except HostFault (Option Path)) (spelling : String)
    (base : Path) :
    (locate world configured spelling (some base)).result =
      match configured with
      | .error fault => .error (.host fault)
      | .ok _ =>
        match world.resolveDirectory base with
        | .error fault => .error (.host fault)
        | .ok directory =>
          match world.resolvePath directory (Path.parse spelling) with
          | .error fault => .error (.host fault)
          | .ok path => (world.readDocument path none []).map fun text => ⟨directory, path, text⟩ := by
  unfold locate World.resolveBase
  cases configured with
  | error fault => rfl
  | ok setting =>
    dsimp only
    cases world.resolveDirectory base with
    | error fault => rfl
    | ok directory =>
      simp only [Except.mapError]
      cases world.resolvePath directory (Path.parse spelling) with
      | error fault => rfl
      | ok path =>
        dsimp only
        cases world.readDocument path none [] <;> rfl

theorem map_eq_error_iff {ε α β : Type} {f : α → β} {result : Except ε α} {fault : ε} :
    result.map f = .error fault ↔ result = .error fault := by
  cases result <;> simp [Except.map]

/-- **Finding a document ends with a fault of the host** exactly when it is blocked. -/
theorem locate_host_iff {configured : Except HostFault (Option Path)} {spelling : String}
    {base : Path} {fault : HostFault} :
    (locate world configured spelling (some base)).result = .error (.host fault) ↔
      Blocked world configured spelling base fault := by
  rw [locate_result]
  constructor
  · intro fails
    split at fails
    · cases fails
      exact .configured rfl
    · split at fails
      · rename_i unbased
        cases fails
        exact .base rfl unbased
      · rename_i directory based
        split at fails
        · rename_i unresolved
          cases fails
          exact .document rfl based (.unresolved unresolved)
        · rename_i path found
          exact .document rfl based (.unexamined found
            (World.readDocument_eq_host_iff.mp (map_eq_error_iff.mp fails)))
  · rintro (fails | ⟨read, fails⟩ | ⟨read, based, refused⟩)
    · rw [fails]
    · simp only [read, fails]
    · simp only [read, based]
      cases refused with
      | unresolved fails => rw [fails]
      | unexamined found fails =>
        rw [found]
        exact map_eq_error_iff.mpr (World.readDocument_eq_host_iff.mpr fails)

theorem locate_ne_endless {configured : Except HostFault (Option Path)} {spelling : String}
    {base : Path} : (locate world configured spelling (some base)).result ≠ .error .endless := by
  rw [locate_result]
  split
  · simp
  · split
    · simp
    · split
      · simp
      · exact fun fails => World.readDocument_ne_endless (map_eq_error_iff.mp fails)

end Resolver

/-! ### Resolvers -/

namespace StandingResolver

/-- A resolver whose configuration the schema of configurations accepts, and which keeps only what
it read there. -/
structure Valid (resolver : StandingResolver) (configurations : Configurations) : Prop where
  valid : Settings.Valid (configuration configurations resolver.source)
  resolution : ∀ entries, resolver.resolution = some entries →
    Settings.sectionOf Settings.resolutionName (configuration configurations resolver.source) =
      .ok entries
  interpolation : ∀ entries, resolver.interpolation = some entries →
    Settings.sectionOf Settings.interpolationName (configuration configurations resolver.source) =
      .ok entries

variable {resolver : StandingResolver} {configurations : Configurations}

/-- A resolver that has read nothing yet keeps nothing. -/
theorem Valid.start {source : Source}
    (valid : Settings.Valid (configuration configurations source)) :
    (StandingResolver.start source).Valid configurations where
  valid := valid
  resolution := by
    intro entries kept
    cases kept
  interpolation := by
    intro entries kept
    cases kept

/-- What is kept of a section is what the configuration has there. -/
theorem sectionNow_eq {source : Source} {name : String} {kept : Option Mapping}
    (read : ∀ entries, kept = some entries →
      Settings.sectionOf name (configuration configurations source) = .ok entries) :
    sectionNow configurations source name kept =
      Settings.sectionOf name (configuration configurations source) := by
  cases kept with
  | none => rfl
  | some entries => exact (read entries rfl).symm

/-- **The settings of a resolver** are those of its configuration, but for a base directory that it
keeps. -/
theorem Valid.settings_eq (valid : resolver.Valid configurations) (world : World) :
    resolver.settings configurations world =
      let read := Settings.ofConfiguration world (configuration configurations resolver.source)
      match resolver.baseDir with
      | some baseDir => { read with baseDir := .ok baseDir }
      | none => read := by
  unfold settings Settings.ofConfiguration
  cases resolver.baseDir <;>
    simp only [sectionNow_eq valid.resolution, sectionNow_eq valid.interpolation]

/-- All settings that a text needs can be read. -/
theorem Valid.exists_recipe (valid : resolver.Valid configurations) (world : World) (base : Path)
    (path : Option Path) (bindings : Option Mapping) :
    ∃ recipe, Resolver.recipe? world (resolver.settings configurations world) base path bindings =
      .ok recipe := by
  obtain ⟨depth, trims, indent, deep, trimmed, indented⟩ := valid.valid.exists_settings world
  have same : (resolver.settings configurations world).maxDepth = .ok depth ∧
      (resolver.settings configurations world).trims = .ok trims ∧
      (resolver.settings configurations world).indent = .ok indent := by
    rw [valid.settings_eq]
    cases resolver.baseDir with
    | none => exact ⟨deep, trimmed, indented⟩
    | some baseDir => exact ⟨deep, trimmed, indented⟩
  exact ⟨_, Resolver.recipe?_eq_ok_iff.mpr
    ⟨depth, trims, indent, same.1, same.2.1, same.2.2, rfl⟩⟩

/-- The base directory of a configuration that is accepted fails by its home only. -/
theorem Valid.isOfPaths_of_baseDir (valid : resolver.Valid configurations) {world : World}
    {fault : HostFault}
    (fails : (resolver.settings configurations world).baseDir = .error fault) :
    fault.IsOfPaths := by
  rw [valid.settings_eq] at fails
  cases kept : resolver.baseDir with
  | some baseDir =>
    rw [kept] at fails
    cases fails
  | none =>
    rw [kept] at fails
    rcases valid.valid.baseDir_eq world with none | ⟨spelling, configured⟩
    · rw [none] at fails
      cases fails
    · rw [configured] at fails
      exact (World.expandHome_eq_error (Resolver.map_eq_error_iff.mp fails)).2

/-- **What escapes from resolving a document** at a path, the base directory being given: a fault
of the host when the document is blocked or its run comes by a directive that is refused, and what
never ends. -/
inductive Escapes (resolver : StandingResolver) (configurations : Configurations) (world : World)
    (spelling : String) (base : Path) : Fault → Prop
  | blocked {fault : HostFault}
      (blocked : Resolver.Blocked world (resolver.settings configurations world).baseDir spelling
        base fault) : Escapes resolver configurations world spelling base (.host fault)
  | included {located : Located} {recipe : Recipe} {fault : HostFault}
      (found : (Resolver.locate world (resolver.settings configurations world).baseDir spelling
        (some base)).result = .ok located)
      (made : Resolver.recipe? world (resolver.settings configurations world) located.base
        (some located.path) none = .ok recipe)
      (meets : Expansion.Meets recipe.reading
        (.root located.path (Resolver.beginning recipe located.text)) fault) :
      Escapes resolver configurations world spelling base (.host fault)
  | endless {located : Located} {recipe : Recipe}
      (found : (Resolver.locate world (resolver.settings configurations world).baseDir spelling
        (some base)).result = .ok located)
      (made : Resolver.recipe? world (resolver.settings configurations world) located.base
        (some located.path) none = .ok recipe)
      (never : ¬ Expansion.Ends recipe.reading
        (.root located.path (Resolver.beginning recipe located.text))) :
      Escapes resolver configurations world spelling base .endless

/-- Nothing escapes but faults of paths and what never ends. -/
theorem Escapes.cause (valid : resolver.Valid configurations) {world : World} {spelling : String}
    {base : Path} {fault : Fault} (escapes : resolver.Escapes configurations world spelling base fault) :
    fault = .endless ∨ ∃ cause, fault = .host cause ∧ cause.IsOfPaths := by
  cases escapes with
  | endless => exact Or.inl rfl
  | blocked blocked =>
    refine Or.inr ⟨_, rfl, ?_⟩
    cases blocked with
    | configured fails => exact valid.isOfPaths_of_baseDir fails
    | base _ fails => exact World.resolveDirectory_eq_error fails
    | document _ _ refused => exact refused.isOfPaths
  | included _ _ meets =>
    obtain ⟨_, _, _, _, refused⟩ := meets
    exact Or.inr ⟨_, rfl, refused.path.isOfPaths⟩

/-- **What resolving a document ends with**, apart from prompts and failures, is what escapes. -/
theorem resolveDocument_error_iff (valid : resolver.Valid configurations) {world : World}
    {spelling : String} {base : Path} {fault : Fault} (foreign : fault.IsForeign) :
    (resolver.resolveDocument configurations world spelling none (some base)).2.result =
        .error fault ↔
      resolver.Escapes configurations world spelling base fault := by
  rw [resolveDocument_result]
  cases found : (Resolver.locate world (resolver.settings configurations world).baseDir spelling
      (some base)).result with
  | error cause =>
    constructor
    · intro fails
      cases fails
      cases fault with
      | failure failure => exact absurd rfl (foreign failure)
      | host cause => exact .blocked (Resolver.locate_host_iff.mp found)
      | endless => exact absurd found Resolver.locate_ne_endless
    · rintro (blocked | ⟨again, _, _⟩ | ⟨again, _, _⟩)
      · rw [Resolver.locate_host_iff.mpr blocked] at found
        cases found
        rfl
      · rw [found] at again
        cases again
      · rw [found] at again
        cases again
  | ok located =>
    obtain ⟨recipe, made⟩ := valid.exists_recipe world located.base (some located.path) none
    show (Resolver.complete _ _ _ _ _ _).result = _ ↔ _
    rw [Resolver.complete_error_iff made]
    constructor
    · rintro (⟨reads, derived⟩ | ⟨never, rfl⟩)
      · cases fault with
        | failure failure => exact absurd rfl (foreign failure)
        | host cause =>
          exact .included found made (Expansion.exists_expands_host_iff.mp ⟨reads, derived⟩)
        | endless => exact absurd derived Expansion.Expands.ne_endless
      · exact .endless found made never
    · rintro (blocked | ⟨again, madeAgain, meets⟩ | ⟨again, madeAgain, never⟩)
      · rw [Resolver.locate_host_iff.mpr blocked] at found
        cases found
      · rw [found] at again
        cases again
        rw [made] at madeAgain
        cases madeAgain
        exact Or.inl (Expansion.exists_expands_host_iff.mpr meets)
      · rw [found] at again
        cases again
        rw [made] at madeAgain
        cases madeAgain
        exact Or.inr ⟨never, rfl⟩

/-- **When resolving a document gives a prompt or a failure**: exactly when nothing escapes; and
what escapes is a fault of paths or that the expansion never ends. -/
theorem resolveDocument_answers_iff (valid : resolver.Valid configurations) (world : World)
    (spelling : String) (base : Path) :
    ((∃ resolved, (resolver.resolveDocument configurations world spelling none (some base)).2.result =
          .ok resolved) ∨
        (∃ failure, (resolver.resolveDocument configurations world spelling none
          (some base)).2.result = .error (.failure failure)) ↔
      ¬ ∃ fault, resolver.Escapes configurations world spelling base fault) ∧
    ∀ fault, resolver.Escapes configurations world spelling base fault →
      (resolver.resolveDocument configurations world spelling none (some base)).2.result =
          .error fault ∧
        (fault = .endless ∨ ∃ cause, fault = .host cause ∧ cause.IsOfPaths) := by
  have ends : ∀ fault, resolver.Escapes configurations world spelling base fault →
      (resolver.resolveDocument configurations world spelling none (some base)).2.result =
          .error fault ∧
        (fault = .endless ∨ ∃ cause, fault = .host cause ∧ cause.IsOfPaths) := by
    intro fault escapes
    have cause := escapes.cause valid
    refine ⟨(resolveDocument_error_iff valid ?_).mpr escapes, cause⟩
    rintro failure rfl
    rcases cause with same | ⟨_, same, _⟩ <;> cases same
  refine ⟨⟨?_, ?_⟩, ends⟩
  · rintro (⟨resolved, done⟩ | ⟨failure, failed⟩) ⟨fault, escapes⟩
    · rw [(ends fault escapes).1] at done
      cases done
    · rw [(ends fault escapes).1] at failed
      cases failed
      rcases (ends _ escapes).2 with same | ⟨_, same, _⟩ <;> cases same
  · intro nothing
    cases done : (resolver.resolveDocument configurations world spelling none
        (some base)).2.result with
    | ok resolved => exact Or.inl ⟨resolved, rfl⟩
    | error fault =>
      by_cases foreign : fault.IsForeign
      · exact absurd ⟨fault, (resolveDocument_error_iff valid foreign).mp done⟩ nothing
      · unfold Fault.IsForeign at foreign
        push Not at foreign
        obtain ⟨failure, rfl⟩ := foreign
        exact Or.inr ⟨failure, rfl⟩

/-- What is read of a section now is what the configuration has there. -/
theorem sectionOf_of_now {source : Source} {name : String} {kept : Option Mapping}
    (read : ∀ entries, kept = some entries →
      Settings.sectionOf name (configuration configurations source) = .ok entries)
    {entries : Mapping}
    (now : (sectionNow configurations source name kept).toOption = some entries) :
    Settings.sectionOf name (configuration configurations source) = .ok entries := by
  rw [sectionNow_eq read] at now
  cases found : Settings.sectionOf name (configuration configurations source) with
  | error fault =>
    rw [found] at now
    cases now
  | ok known =>
    rw [found] at now
    cases now
    rfl

theorem Valid.keepResolution (valid : resolver.Valid configurations) :
    (resolver.keepResolution configurations).Valid configurations where
  valid := valid.valid
  resolution := fun _ now => sectionOf_of_now valid.resolution now
  interpolation := valid.interpolation

theorem Valid.keepAll (valid : resolver.Valid configurations) (world : World) :
    (resolver.keepAll configurations world).Valid configurations := by
  unfold StandingResolver.keepAll
  dsimp only
  split
  · exact valid.keepResolution
  · exact ⟨valid.valid, valid.keepResolution.resolution,
      fun _ now => sectionOf_of_now valid.interpolation now⟩

/-- **A resolver stays one that keeps only what its configuration has.** -/
theorem Valid.resolveDocument (valid : resolver.Valid configurations) (world : World)
    (spelling : String) (bindings : Option Mapping) (given : Option Path) :
    (resolver.resolveDocument configurations world spelling bindings given).1.Valid
      configurations := by
  have based : (resolver.keepBase configurations world).Valid configurations :=
    ⟨valid.valid, valid.keepResolution.resolution, valid.interpolation⟩
  unfold StandingResolver.resolveDocument
  dsimp only
  split
  · exact based
  · exact based.keepAll world

/-! ### A greeting, and a name that no path can hold -/

/-- A resolver with a configuration in which nothing is set. -/
def plain : StandingResolver := .start (.given [])

theorem valid_plain : plain.Valid .empty := .start ⟨by decide, rfl⟩

theorem resolveDocument_greeting {bindings : Option Mapping} :
    (plain.resolveDocument .empty Expansion.greetingReading.world "/r" bindings
      (some ⟨.root, []⟩)).2.result = .ok greetingResolved := by
  have located (given : Option Path) (either : given = none ∨ given = some ⟨.root, []⟩) :
      (Resolver.locate Expansion.greetingReading.world
        (plain.settings .empty Expansion.greetingReading.world).baseDir "/r" given).result =
      .ok ⟨⟨.root, []⟩, ⟨.root, ["r"]⟩, "See <include src=\"a\"/>!".toList⟩ := by
    rcases either with rfl | rfl
    · cbv
    · cbv
  have resolved : (plain.resolveDocument .empty Expansion.greetingReading.world "/r" bindings
      none).2.result = .ok greetingResolved := greeting_resolved
  rw [resolveDocument_result, located _ (Or.inl rfl)] at resolved
  rw [resolveDocument_result, located _ (Or.inr rfl)]
  exact resolved

/-- Nothing escapes where a greeting is included. -/
theorem resolveDocument_answers_greeting : plain.Valid .empty ∧
    ¬ ∃ fault, plain.Escapes .empty Expansion.greetingReading.world "/r" ⟨.root, []⟩ fault :=
  ⟨valid_plain, (resolveDocument_answers_iff valid_plain _ _ _).1.mp
    (Or.inl ⟨_, resolveDocument_greeting⟩)⟩

/-- A document that includes one whose name holds the null character. -/
def nullReading : Reading := .ofDocuments [("r", "<include src=\"a\x00b\"/>")]

theorem locate_null : (Resolver.locate nullReading.world
    (plain.settings .empty nullReading.world).baseDir "/r" (some ⟨.root, []⟩)).result =
      .ok ⟨⟨.root, []⟩, ⟨.root, ["r"]⟩, "<include src=\"a\x00b\"/>".toList⟩ := by cbv

theorem resolvePath_null : nullReading.world.resolvePath (Path.parent ⟨.root, ["r"]⟩)
    (Path.parse (String.ofList "a\x00b".toList)) = .error .nullCharacter := by cbv

theorem meets_null : Expansion.Meets nullReading
    (.root ⟨.root, ["r"]⟩ "<include src=\"a\x00b\"/>".toList) .nullCharacter := by
  have found : Directive.first "<include src=\"a\x00b\"/>".toList =
      .ok (some ⟨"a\x00b".toList, 0, 20, true⟩) := by cbv
  refine ⟨_, _, .start, found, .unresolved resolvePath_null, fun target resolved => ?_⟩
  have both := resolved.symm.trans resolvePath_null
  cases both

/-- A name that no path can hold escapes. -/
theorem escapes_null :
    plain.Escapes .empty nullReading.world "/r" ⟨.root, []⟩ (.host .nullCharacter) := by
  have made : Resolver.recipe? nullReading.world (plain.settings .empty nullReading.world)
      ⟨.root, []⟩ (some ⟨.root, ["r"]⟩) none =
      .ok ⟨nullReading, some ⟨.root, []⟩, some ⟨.root, ["r"]⟩, none, 2⟩ := by cbv
  have begins : Resolver.beginning ⟨nullReading, some ⟨.root, []⟩, some ⟨.root, ["r"]⟩, none, 2⟩
      "<include src=\"a\x00b\"/>".toList = "<include src=\"a\x00b\"/>".toList := by cbv
  refine .included locate_null made ?_
  rw [begins]
  exact meets_null

/-- A document with a name that no path can hold is neither put together nor found missing. -/
theorem resolveDocument_null : plain.Valid .empty ∧
    (∀ resolved, (plain.resolveDocument .empty nullReading.world "/r" none
      (some ⟨.root, []⟩)).2.result ≠ .ok resolved) ∧
    ∀ failure, (plain.resolveDocument .empty nullReading.world "/r" none
      (some ⟨.root, []⟩)).2.result ≠ .error (.failure failure) := by
  have ends := (resolveDocument_error_iff valid_plain (fun _ same => by cases same)).mpr
    escapes_null
  rw [ends]
  refine ⟨valid_plain, fun _ same => ?_, fun _ same => ?_⟩
  · cases same
  · cases same

end StandingResolver

end PromptWeave
