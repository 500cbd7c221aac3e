/-
**What commands show of documents.**

Two commands resolve a document: one shows the finished prompt, the other only what it includes, for which
it takes no variables. Both look for the document in the same way. Hence what the second one shows is what
the first one reports, whatever the variables were. Main statements:

* `Value.IsReport`: the values that JSON shows as they are, and `Report.exists_json`;
* `perform_result`: a command reads its variables, resolves its document and shows the result;
* `Program.run_shows_iff`: when a run ends well, and with which output;
* `SameDocument.resolve_eq`: requests for one document resolve it alike;
* `Program.documents_alike`: variables decide nothing about the documents of a prompt.
-/

import Mathlib
import PromptWeave.Command.Program
import PromptWeave.Proofs.Configuration.Session
import PromptWeave.Proofs.Json.Rereading
import PromptWeave.Proofs.Resolver.Escapes
import PromptWeave.Proofs.Resolver.Independence

namespace PromptWeave

open Text

/-! ### Values of reports -/

namespace Value

/-- A structure all of whose collections can be changed. -/
structure IsReport (value : Value) : Prop where
  structured : value.IsStructure
  plain : value.plainCollections = value

theorem isReport_string (word : String) : (string word).IsReport := ⟨.atom trivial, rfl⟩

theorem isReport_list {items : List Value} (each : ∀ item ∈ items, item.IsReport) :
    (list items).IsReport := by
  refine ⟨.sequence fun item inside => (each item inside).structured, ?_⟩
  rw [list, plainCollections, plainItems_eq_map,
    List.map_congr_left fun item inside => (each item inside).plain, List.map_id']

theorem isReport_record {fields : List (String × Value)} (distinct : (fields.map Prod.fst).Nodup)
    (each : ∀ field ∈ fields, field.2.IsReport) : (record fields).IsReport := by
  have apart : ((fields.map Prod.fst).map Key.ofString).Nodup :=
    distinct.map fun one two same => by cases same; rfl
  refine ⟨.mapping ?_ ?_ ?_, ?_⟩
  · simp only [List.forall_mem_map]
    exact fun field _ => ⟨field.1, rfl⟩
  · rw [List.map_map] at apart ⊢
    exact apart
  · simp only [List.forall_mem_map]
    exact fun field inside => (each field inside).structured
  · rw [record, plainCollections, plainEntries_eq_map, List.map_map]
    refine congrArg (mapping false) (List.map_congr_left fun field inside => ?_)
    exact congrArg (Prod.mk (Key.ofString field.1)) (each field inside).plain

end Value

namespace Command

/-! ### Reports -/

namespace Report

/-- **A report is shown as JSON**, from which it is read back. -/
theorem exists_json {value : Value} (report : value.IsReport) :
    ∃ output, json value = .ok output ∧ Json.read? output = some value := by
  have unescaped : (⟨some 2, false⟩ : Json.Style).asciiOnly = false := rfl
  obtain ⟨text, written, reads⟩ := Json.writeAt_reads unescaped report.structured 0
  rw [report.plain] at written reads
  refine ⟨line text, ?_, reads.read?_gap (Json.isGap_singleton rfl)⟩
  rw [json, Json.write, written]
  rfl

/-- Documents by their paths. -/
def pathsValue (paths : List Path) : Value := .list (paths.map fun path => .string path.text)

/-- What is reported of the documents of a prompt. -/
def documentsValue (resolved : Resolved) : Value :=
  .record [("path", .string (pathText resolved.path)),
    ("dependencies", pathsValue resolved.dependencies)]

/-- What is reported of a prompt. -/
def promptValue (resolved : Resolved) : Value :=
  .record [("path", .string (pathText resolved.path)), ("content", .text resolved.content),
    ("dependencies", pathsValue resolved.dependencies),
    ("missingVariables", .list (resolved.missing.map Value.text))]

theorem isReport_pathsValue (paths : List Path) : (pathsValue paths).IsReport := by
  refine Value.isReport_list ?_
  simp only [List.forall_mem_map]
  exact fun path _ => Value.isReport_string _

theorem isReport_documentsValue (resolved : Resolved) : (documentsValue resolved).IsReport := by
  refine Value.isReport_record (by simp) ?_
  simp only [List.forall_mem_cons]
  exact ⟨Value.isReport_string _, isReport_pathsValue _, fun _ absent => by cases absent⟩

/-- A report of a prompt tells the paths of its documents. -/
theorem map_text_eq_of_promptValue {one two : Resolved} (same : promptValue one = promptValue two) :
    one.dependencies.map Path.text = two.dependencies.map Path.text := by
  have injective : Function.Injective Value.string := fun first second same => by cases same; rfl
  simp only [promptValue, Value.record, pathsValue, Value.list, List.map_cons, Value.mapping.injEq,
    List.cons.injEq, Prod.mk.injEq, Value.sequence.injEq] at same
  obtain ⟨-, -, -, ⟨-, -, paths⟩, -⟩ := same
  refine List.map_injective_iff.mpr injective ?_
  rw [List.map_map, List.map_map]
  exact paths

theorem isReport_promptValue (resolved : Resolved) : (promptValue resolved).IsReport := by
  have missing : (Value.list (resolved.missing.map Value.text)).IsReport := by
    refine Value.isReport_list ?_
    simp only [List.forall_mem_map]
    exact fun name _ => Value.isReport_string _
  refine Value.isReport_record (by simp) ?_
  simp only [List.forall_mem_cons]
  exact ⟨Value.isReport_string _, Value.isReport_string _, isReport_pathsValue _, missing,
    fun _ absent => by cases absent⟩

end Report

/-! ### Results -/

/-- A finished prompt is reported as JSON if that is asked for. -/
theorem exists_showResolved_prompt {request : Request} (render : request.action = .render)
    (asJson : request.has .json = true) (resolved : Resolved) :
    ∃ output, showResolved request resolved = .ok output ∧
      Json.read? output = some (Report.promptValue resolved) := by
  obtain ⟨output, shown, read⟩ := Report.exists_json (Report.isReport_promptValue resolved)
  refine ⟨output, ?_, read⟩
  have other : request.action ≠ .dependencies := by
    rw [render]
    decide
  unfold showResolved
  rw [if_neg other, if_pos asJson]
  show (Report.json (Report.promptValue resolved)).mapError _ = _
  rw [shown]
  rfl

/-- The documents of a prompt are on the output: reported as JSON, or each on a line of its own. -/
def Lists (request : Request) (resolved : Resolved) (output : Text) : Prop :=
  if request.has .json then Json.read? output = some (Report.documentsValue resolved)
  else output = resolved.dependencies.flatMap fun path => Report.line path.text.toList

theorem exists_showResolved_documents {request : Request} (listing : request.action = .dependencies)
    (resolved : Resolved) :
    ∃ output, showResolved request resolved = .ok output ∧ Lists request resolved output := by
  unfold showResolved Lists
  rw [if_pos listing]
  split
  · obtain ⟨output, shown, read⟩ := Report.exists_json (Report.isReport_documentsValue resolved)
    refine ⟨output, ?_, read⟩
    show (Report.json (Report.documentsValue resolved)).mapError _ = _
    rw [shown]
    rfl
  · exact ⟨_, rfl, rfl⟩

/-! ### Commands -/

/-- What a request resolves its document to, with some variables. -/
def Request.resolve (configurations : Configurations) (world : World) (request : Request)
    (bindings : Option Mapping) : Except Fault Resolved :=
  (projectOf world request).bind fun project =>
    let (configurations, fetched) := configurations.fetch world project
    fetched.result.bind fun number =>
      let settings := (StandingResolver.start (.made number)).settings configurations world
      (baseDirectory world request settings.baseDir).bind fun base =>
        (Resolver.resolveDocument world settings request.path bindings base).result

/-- **A command** reads its variables, resolves its document and shows the result, unless it is about
messages. -/
theorem perform_result (configurations : Configurations) (world : World) {request : Request}
    (other : request.action ≠ .messages) :
    (perform configurations world request).2.result =
      (variablesOf world request).bind fun bindings =>
        (request.resolve configurations world bindings).bind (showResolved request) := by
  unfold perform Request.resolve
  cases variablesOf world request with
  | error fault => rfl
  | ok bindings =>
    cases projectOf world request with
    | error fault => rfl
    | ok project =>
      dsimp only [Except.bind]
      rw [Outcome.result_andThen]
      cases (configurations.fetch world project).2.result with
      | error fault => rfl
      | ok number =>
        dsimp only [Except.bind]
        cases baseDirectory world request ((StandingResolver.start (.made number)).settings
          (configurations.fetch world project).1 world).baseDir with
        | error fault => rfl
        | ok base =>
          dsimp only
          rw [if_neg other, Outcome.result_andThen]
          rfl

/-- Two requests name the same document, the same base directory and the same project. -/
structure SameDocument (one two : Request) : Prop where
  path : two.path = one.path
  baseDirectory : two.solid? .baseDirectory = one.solid? .baseDirectory
  projectRoot : two.solid? .projectRoot = one.solid? .projectRoot

/-- Requests for one document resolve it alike. -/
theorem SameDocument.resolve_eq {one two : Request} (same : SameDocument one two)
    (configurations : Configurations) (world : World) :
    two.resolve configurations world = one.resolve configurations world := by
  unfold Request.resolve projectOf Command.baseDirectory
  rw [same.path, same.baseDirectory, same.projectRoot]

/-- **A document that a request resolves with variables** is resolved without any to one with the same path
and the same documents. -/
theorem Request.exists_resolve_none {configurations : Configurations} {world : World} {request : Request}
    {bindings : Option Mapping} {resolved : Resolved}
    (done : request.resolve configurations world bindings = .ok resolved) :
    ∃ other, request.resolve configurations world none = .ok other ∧ other.path = resolved.path ∧
      other.dependencies = resolved.dependencies := by
  simp only [Request.resolve, Outcome.bind_eq_ok_iff] at done ⊢
  obtain ⟨project, projected, number, fetched, base, based, done⟩ := done
  obtain ⟨other, again⟩ := Resolver.exists_resolveDocument_none done
  have same := Resolver.documents_eq again done
  exact ⟨other, ⟨project, projected, number, fetched, base, based, again⟩, same⟩

/-! ### Runs -/

namespace Program

/-- **A run ends well** exactly when its command shows something, which is then its output. -/
theorem run_shows_iff {configurations : Configurations} {world : World} {words : List String}
    {isVerbose : Bool} {request : Request} {output : Text}
    (ask : asked words = .ok (isVerbose, request)) :
    (run configurations world words).2.status = .ok 0 ∧
        (run configurations world words).2.output = output ↔
      (perform configurations world request).2.result = .ok output := by
  unfold run
  rw [ask]
  dsimp only
  cases (perform configurations world request).2.result with
  | ok shown =>
    constructor
    · rintro ⟨-, same⟩
      exact congrArg Except.ok same
    · intro same
      cases same
      exact ⟨rfl, rfl⟩
  | error fault =>
    refine ⟨?_, fun same => by cases same⟩
    rintro ⟨well, -⟩
    unfold Ending.ofOutcome at well
    dsimp only at well
    split at well
    · split at well
      · cases well
      · cases well
    · cases well

/-- **What one command reports, the other one lists.** If a document is shown as JSON, its documents are
listed, and they are those that are reported. -/
theorem run_lists {configurations : Configurations} {world : World} {words others : List String}
    {isVerbose isLoud : Bool} {request listing : Request} (ask : asked words = .ok (isVerbose, request))
    (asks : asked others = .ok (isLoud, listing)) (render : request.action = .render)
    (asJson : request.has .json = true) (lists : listing.action = .dependencies)
    (same : SameDocument request listing) (well : (run configurations world words).2.status = .ok 0) :
    ∃ resolved,
      Json.read? (run configurations world words).2.output = some (Report.promptValue resolved) ∧
      (run configurations world others).2.status = .ok 0 ∧
      Lists listing resolved (run configurations world others).2.output := by
  have shows := (run_shows_iff ask).mp ⟨well, rfl⟩
  rw [perform_result _ _ (by rw [render]; decide)] at shows
  simp only [Outcome.bind_eq_ok_iff] at shows
  obtain ⟨bindings, -, resolved, done, shown⟩ := shows
  obtain ⟨output, written, read⟩ := exists_showResolved_prompt render asJson resolved
  rw [shown] at written
  cases written
  obtain ⟨other, again, path, dependencies⟩ := Request.exists_resolve_none done
  obtain ⟨listed, listedOf, contents⟩ := exists_showResolved_documents lists other
  have performed : (perform configurations world listing).2.result = .ok listed := by
    rw [perform_result _ _ (by rw [lists]; decide), variablesOf, if_pos lists, same.resolve_eq]
    show (request.resolve configurations world none).bind (showResolved listing) = _
    rw [again]
    exact listedOf
  obtain ⟨ends, output⟩ := (run_shows_iff asks).mpr performed
  refine ⟨resolved, read, ends, ?_⟩
  rw [output]
  simpa only [Lists, Report.documentsValue, path, dependencies] using contents

/-- **Variables decide nothing about documents.** A document is resolved in two phases, of which the first
one fails for all variables with the same fault or ends for all of them with the same text, and all prompts
that it is resolved to have the same path and the same documents. Hence the documents that are listed for
a command line are those that are reported with the prompt. -/
theorem documents_alike (resolver : StandingResolver) (configurations : Configurations) (world : World)
    (spelling : String) (given : Option Path) (first second : Option Mapping) :
    (∀ bindings, (resolver.resolveDocument configurations world spelling bindings given).2.result =
      (resolver.assemble configurations world spelling bindings given).bind Assembled.finish) ∧
    (∀ fault, resolver.assemble configurations world spelling first given = .error fault →
      (resolver.resolveDocument configurations world spelling second given).2.result = .error fault) ∧
    (∀ prompt, resolver.assemble configurations world spelling first given = .ok prompt →
      ∃ other, resolver.assemble configurations world spelling second given = .ok other ∧
        other.text = prompt.text) ∧
    (∀ one two,
      (resolver.resolveDocument configurations world spelling first given).2.result = .ok one →
      (resolver.resolveDocument configurations world spelling second given).2.result = .ok two →
        one.path = two.path ∧ one.dependencies = two.dependencies) ∧
    ∀ (words others : List String) (isVerbose isLoud : Bool) (request listing : Request),
      asked words = .ok (isVerbose, request) → asked others = .ok (isLoud, listing) →
      request.action = .render → request.has .json = true → listing.action = .dependencies →
      SameDocument request listing → (run configurations world words).2.status = .ok 0 →
        ∃ resolved,
          Json.read? (run configurations world words).2.output = some (Report.promptValue resolved) ∧
          (run configurations world others).2.status = .ok 0 ∧
          Lists listing resolved (run configurations world others).2.output := by
  have phases (bindings : Option Mapping) :
      (resolver.resolveDocument configurations world spelling bindings given).2.result =
        (resolver.assemble configurations world spelling bindings given).bind Assembled.finish := by
    rw [StandingResolver.resolveDocument_result_settings, Resolver.resolveDocument_result]
    rfl
  have alike : resolver.assemble configurations world spelling second given =
      (resolver.assemble configurations world spelling first given).map
        (Assembled.withBindings second) := Resolver.assembleDocument_bindings ..
  refine ⟨phases, ?_, ?_, ?_, ?_⟩
  · intro fault failed
    rw [phases, alike, failed]
    rfl
  · intro prompt assembled
    rw [alike, assembled]
    exact ⟨_, rfl, rfl⟩
  · intro one two here there
    rw [StandingResolver.resolveDocument_result_settings] at here there
    exact Resolver.documents_eq here there
  · intro words others isVerbose isLoud request listing ask asks render asJson lists same well
    exact run_lists ask asks render asJson lists same well

/-- What a command line asks for, whatever the ending of one that asks for nothing looks like. -/
theorem asked_of_toOption {words : List String} {found : Bool × Request}
    (same : (asked words).toOption = some found) : asked words = .ok found := by
  cases read : asked words with
  | error ending =>
    rw [read] at same
    cases same
  | ok other =>
    rw [read] at same
    exact congrArg Except.ok (Option.some.inj same)

/-! ### New processes -/

section

variable {world : World} (search : world.files.maySearch [] = true)
  (absent : ∀ name ∈ Project.fileNames, world.files.stored? [name] = none) (bare : world.environment = [])

include search absent bare

/-- In a new process and without a project file the configuration has the bundled settings. -/
theorem fetch_bundled : ∃ configurations : Configurations,
    Configurations.empty.fetch world (World.pathOf []) = (configurations, .quiet (.ok 0)) ∧
      configurations.value 0 = Configurations.bundled := by
  obtain ⟨label, entries, same, drafted⟩ :=
    Configurations.draft_of_no_file Configurations.sound_empty (Configurations.file?_of_absent search absent)
  obtain ⟨rfl, rfl⟩ := Shared.mapping.inj same
  rw [Configurations.fetch, Configurations.kept?, Configurations.make, drafted, bare]
  exact ⟨_, rfl, rfl⟩

/-- Hence a document of the root directory is resolved there as with a configuration in which nothing is set. -/
theorem resolve_bundled {request : Request} {base : Option Path}
    (project : projectOf world request = .ok (World.pathOf []))
    (based : baseDirectory world request (StandingResolver.plain.settings .empty world).baseDir = .ok base)
    (bindings : Option Mapping) :
    request.resolve .empty world bindings =
      (Resolver.resolveDocument world (StandingResolver.plain.settings .empty world) request.path bindings
        base).result := by
  obtain ⟨configurations, fetched, value⟩ := fetch_bundled search absent bare
  have known : StandingResolver.configuration configurations (.made 0) =
      Configurations.bundled.entriesOf := by
    rw [StandingResolver.configuration, value]
    rfl
  have settings : (StandingResolver.start (.made 0)).settings configurations world =
      StandingResolver.plain.settings .empty world := by
    unfold StandingResolver.settings
    simp only [StandingResolver.start, StandingResolver.sectionNow, known]
    rfl
  rw [Request.resolve, project]
  dsimp only [Except.bind]
  rw [fetched]
  dsimp only [Outcome.quiet]
  rw [settings, based]

end

/-! ### A greeting -/

/-- A command line that shows a document with a variable as JSON. -/
def greetingWords : List String := ["render", "--json", "--var", "x=1", "/r"]

/-- What this command line asks for. -/
def greetingRequest : Request := ⟨.render, "/r", [⟨.json, none⟩, ⟨.variable, some "x=1"⟩]⟩

theorem asked_greeting : asked greetingWords = .ok (false, greetingRequest) :=
  asked_of_toOption (by decide +kernel)

theorem resolve_greeting {bindings : Option Mapping} :
    greetingRequest.resolve .empty Expansion.greetingReading.world bindings =
      .ok StandingResolver.greetingResolved := by
  have project : projectOf Expansion.greetingReading.world greetingRequest = .ok (World.pathOf []) := by
    cbv
  have base : baseDirectory Expansion.greetingReading.world greetingRequest
      (StandingResolver.plain.settings .empty Expansion.greetingReading.world).baseDir =
        .ok (some (World.pathOf [])) := by cbv
  have resolved := @StandingResolver.resolveDocument_greeting bindings
  rw [StandingResolver.resolveDocument_result_settings] at resolved
  rw [resolve_bundled rfl (by decide +kernel) rfl project base]
  exact resolved

theorem run_greeting :
    (run .empty Expansion.greetingReading.world greetingWords).2.status = .ok 0 ∧
      Json.read? (run .empty Expansion.greetingReading.world greetingWords).2.output =
        some (Report.promptValue StandingResolver.greetingResolved) := by
  have render : greetingRequest.action = .render := rfl
  obtain ⟨output, shown, read⟩ :=
    exists_showResolved_prompt render (by decide) StandingResolver.greetingResolved
  have given : variablesOf Expansion.greetingReading.world greetingRequest =
      .ok (some [(Key.ofString "x", .integer 1)]) := by cbv
  have performed :
      (perform .empty Expansion.greetingReading.world greetingRequest).2.result = .ok output := by
    rw [perform_result _ _ (by decide), given]
    dsimp only [Except.bind]
    rw [resolve_greeting]
    exact shown
  obtain ⟨well, output⟩ := (run_shows_iff asked_greeting).mpr performed
  rw [output]
  exact ⟨well, read⟩

/-- The greeting is included with a variable and listed without one. -/
theorem documents_alike_greeting :
    (run .empty Expansion.greetingReading.world greetingWords).2.status = .ok 0 ∧
      (run .empty Expansion.greetingReading.world ["deps", "/r"]).2.status = .ok 0 ∧
      (run .empty Expansion.greetingReading.world ["deps", "/r"]).2.output = "/a\n".toList := by
  have asks : asked ["deps", "/r"] = .ok (false, ⟨.dependencies, "/r", []⟩) := by cbv
  obtain ⟨-, -, -, -, lists⟩ := documents_alike StandingResolver.plain .empty
    Expansion.greetingReading.world "/r" none none none
  obtain ⟨resolved, read, ends, listed⟩ := lists greetingWords ["deps", "/r"] _ _ _ _ asked_greeting
    asks rfl (by decide) rfl ⟨rfl, rfl, rfl⟩ run_greeting.1
  have paths : resolved.dependencies.map Path.text = ["/a"] :=
    Report.map_text_eq_of_promptValue (Option.some.inj (read.symm.trans run_greeting.2))
  have lines : (run .empty Expansion.greetingReading.world ["deps", "/r"]).2.output =
      (resolved.dependencies.map Path.text).flatMap fun path => Report.line path.toList := by
    rw [List.flatMap_map]
    exact listed
  rw [paths] at lines
  exact ⟨run_greeting.1, ends, lines⟩

end Program

end Command

end PromptWeave
