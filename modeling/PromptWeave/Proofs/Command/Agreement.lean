/-
**What the command prints of a prompt, and what a resolver gives.**

The command that shows a prompt makes a resolver for its project, chooses the directory that the document is
looked for in, and shows what the resolver gives. Between the two a mapping without entries is taken for no
variables at all, so that placeholders stay which the resolver would have replaced by nothing. For all other
variables the command prints what the resolver gives, and for a mapping without entries exactly if no name is
missing. Where the resolver fails, so does the command, and nothing is on its output. Main statements:

* `Request.byResolver`: what a resolver gives for a request;
* `Request.byResolver_nil`: a mapping without entries against no variables;
* `Prints`: a prompt is on the output;
* `Program.run_fails`: how a run ends that fails;
* `Program.render_agrees`: when the command agrees with the resolver.
-/

import PromptWeave.Proofs.Command.Failures
import PromptWeave.Proofs.Resolver.Unfilled
import PromptWeave.Proofs.Storage.DataFile

namespace PromptWeave

open Text

namespace Command

/-! ### Requests and resolvers -/

namespace Request

variable (configurations : Configurations) (world : World) (request : Request)

/-- What a new resolver for the project of a request resolves its document to, with some variables and from the
directory that the request or the configuration says. -/
def byResolver (bindings : Option Mapping) : Except Fault Resolved :=
  (projectOf world request).bind fun project =>
    let (configurations, fetched) := configurations.fetch world project
    fetched.result.bind fun number =>
      let resolver := StandingResolver.start (.made number)
      (baseDirectory world request (resolver.settings configurations world).baseDir).bind fun base =>
        (resolver.resolveDocument configurations world request.path bindings base).2.result

/-- The steps of a command come to the same. -/
theorem resolve_eq_byResolver (bindings : Option Mapping) :
    request.resolve configurations world bindings = request.byResolver configurations world bindings := by
  simp only [resolve, byResolver, StandingResolver.resolveDocument_result_settings]

/-- **No variables, and a mapping without entries**, for a request: one fails as the other does, and they give the
same prompt or only the same text exactly if the mapping leaves no name missing. -/
theorem byResolver_nil :
    (∀ fault, request.byResolver configurations world (some []) = .error fault →
      request.byResolver configurations world none = .error fault) ∧
    ∀ emptied, request.byResolver configurations world (some []) = .ok emptied →
      ∃ kept, request.byResolver configurations world none = .ok kept ∧
        (kept.content = emptied.content ↔ emptied.missing = []) ∧ (kept = emptied ↔ emptied.missing = []) := by
  -- both go the same way up to the document, and a way that ends before it gives no prompt
  have alike {result : Except Fault Resolved} (fails : ∀ resolved, result ≠ .ok resolved) :
      (∀ fault, result = .error fault → result = .error fault) ∧
      ∀ emptied, result = .ok emptied → ∃ kept, result = .ok kept ∧
        (kept.content = emptied.content ↔ emptied.missing = []) ∧ (kept = emptied ↔ emptied.missing = []) :=
    ⟨fun _ same => same, fun emptied done => absurd done (fails emptied)⟩
  rw [← resolve_eq_byResolver, ← resolve_eq_byResolver, resolve, resolve]
  cases projectOf world request with
  | error fault => exact alike (by simp [Except.bind])
  | ok project =>
    dsimp only [Except.bind]
    cases (configurations.fetch world project).2.result with
    | error fault => exact alike (by simp)
    | ok number =>
      dsimp only
      cases baseDirectory world request ((StandingResolver.start (.made number)).settings
        (configurations.fetch world project).1 world).baseDir with
      | error fault => exact alike (by simp)
      | ok base => exact Resolver.resolveDocument_nil ..

end Request

/-! ### What is printed -/

/-- A prompt is on the output: reported as JSON, or as its text on a line. -/
def Prints (request : Request) (resolved : Resolved) (output : Text) : Prop :=
  if request.has .json then Json.read? output = some (Report.promptValue resolved)
  else output = Report.line resolved.content

/-- A report of a prompt tells its text. -/
theorem Report.content_eq_of_promptValue {one two : Resolved} (same : promptValue one = promptValue two) :
    one.content = two.content := by
  simp only [promptValue, Value.record, List.map_cons, Value.mapping.injEq, List.cons.injEq, Prod.mk.injEq] at same
  exact String.ofList_injective (Atom.string.inj (Value.atom.inj same.2.2.1.2))

/-- **A prompt is shown**, and what shows it shows no prompt with another text. -/
theorem exists_showResolved_render {request : Request} (render : request.action = .render) (kept : Resolved) :
    ∃ output, showResolved request kept = .ok output ∧ Prints request kept output ∧
      ∀ other, Prints request other output → kept.content = other.content := by
  have apart : request.action ≠ .dependencies := by
    rw [render]
    decide
  by_cases asJson : request.has .json = true
  · obtain ⟨output, shown, read⟩ := exists_showResolved_prompt render asJson kept
    refine ⟨output, shown, ?_, ?_⟩
    · rw [Prints, if_pos asJson]
      exact read
    · intro other prints
      rw [Prints, if_pos asJson, read] at prints
      exact Report.content_eq_of_promptValue (Option.some.inj prints)
  · refine ⟨Report.line kept.content, ?_, ?_, ?_⟩
    · unfold showResolved
      rw [if_neg apart, if_neg asJson]
    · rw [Prints, if_neg asJson]
    · intro other prints
      rw [Prints, if_neg asJson] at prints
      exact List.append_cancel_right prints

/-! ### Runs -/

namespace Program

variable {configurations : Configurations} {world : World} {words : List String} {isVerbose : Bool}
  {request : Request}

/-- **How a run ends that fails** with a fault that is reported: nothing is on its output, and its status is that of
failures, unless a number of the fault is too long to be reported. -/
theorem run_fails {fault : Fault} (ask : asked words = .ok (isVerbose, request))
    (failed : (perform configurations world request).2.result = .error fault) (known : fault.IsOfPrompt)
    (reported : fault.isReported = true) :
    (run configurations world words).2.output = [] ∧
      ((run configurations world words).2.status = .ok 1 ↔
        (request.has .json = true → ∀ number ∈ fault.numbers, Numeral.IsShort number)) := by
  rw [← Report.exists_failure_iff known (request.has .json) request.action.failureCode ""]
  unfold run
  rw [ask]
  dsimp only
  rw [failed, Ending.ofOutcome, if_pos reported]
  cases Report.failure (request.has .json) request.action.failureCode "" fault with
  | ok shown => exact ⟨rfl, iff_of_true rfl ⟨shown, rfl⟩⟩
  | error wrong => simp

/-- The variables that a command hands on: a mapping without entries is taken for none. -/
def handed (bindings : Mapping) : Option Mapping := if bindings = [] then none else some bindings

/-- **What the command comes to**: what the resolver gives for the variables that are handed on is shown. -/
theorem perform_render (configurations : Configurations) (render : request.action = .render) {bindings : Mapping}
    (given : Variables.read world (request.word? .variablesFile) (request.words .variable) = .ok bindings) :
    (perform configurations world request).2.result =
      (request.byResolver configurations world (handed bindings)).bind (showResolved request) := by
  have taken : variablesOf world request = .ok (handed bindings) := by
    rw [variablesOf, if_neg (by rw [render]; decide), given, handed]
    cases bindings with
    | nil => rfl
    | cons entry bindings => rfl
  rw [perform_result _ _ (by rw [render]; decide), taken]
  dsimp only [Except.bind]
  rw [Request.resolve_eq_byResolver]

/-- What the resolver gives for variables as they are, and as they are handed on. -/
theorem byResolver_handed (configurations : Configurations) (world : World) (request : Request) (bindings : Mapping) :
    (∀ fault, request.byResolver configurations world (some bindings) = .error fault →
      request.byResolver configurations world (handed bindings) = .error fault) ∧
    ∀ resolved, request.byResolver configurations world (some bindings) = .ok resolved →
      ∃ shown, request.byResolver configurations world (handed bindings) = .ok shown ∧
        (shown.content = resolved.content ↔ (bindings = [] → resolved.missing = [])) ∧
        (shown = resolved ↔ (bindings = [] → resolved.missing = [])) := by
  cases bindings with
  | nil =>
    simp only [forall_const]
    exact request.byResolver_nil configurations world
  | cons entry bindings =>
    have inhabited : entry :: bindings ≠ [] := List.cons_ne_nil _ _
    refine ⟨fun fault fails => fails, fun resolved done => ⟨resolved, done, ?_, ?_⟩⟩
    · exact iff_of_true rfl fun empty => absurd empty inhabited
    · exact iff_of_true rfl fun empty => absurd empty inhabited

/-- **The command agrees with the resolver, but for a mapping without entries.** Let the variables of a command line
be read, all their strings being texts. If the resolver gives a prompt for them, then the command ends well; it prints this prompt exactly if there are variables or
no name is missing, and in any case the one that the resolver gives for the variables that are handed on. If the
resolver ends with a fault that is reported, then the command prints nothing, and its status is that of failures
unless the report would be JSON with too long a number. -/
theorem render_agrees (ask : asked words = .ok (isVerbose, request)) (render : request.action = .render)
    {bindings : Mapping}
    (given : Variables.read world (request.word? .variablesFile) (request.words .variable) = .ok bindings) :
    (∀ resolved, request.byResolver configurations world (some bindings) = .ok resolved →
      (run configurations world words).2.status = .ok 0 ∧
      (Prints request resolved (run configurations world words).2.output ↔
        (bindings = [] → resolved.missing = [])) ∧
      ∃ shown, request.byResolver configurations world (handed bindings) = .ok shown ∧
        Prints request shown (run configurations world words).2.output) ∧
    ∀ fault, request.byResolver configurations world (some bindings) = .error fault → fault.isReported = true →
      (run configurations world words).2.output = [] ∧
      ((run configurations world words).2.status = .ok 1 ↔
        (request.has .json = true → ∀ number ∈ fault.numbers, Numeral.IsShort number)) := by
  obtain ⟨fails, gives⟩ := byResolver_handed configurations world request bindings
  have performed := perform_render configurations render given
  constructor
  · intro resolved done
    obtain ⟨shown, handedOn, contents, same⟩ := gives resolved done
    obtain ⟨output, written, prints, only⟩ := exists_showResolved_render render shown
    have shows : (perform configurations world request).2.result = .ok output := by
      rw [performed, handedOn]
      exact written
    obtain ⟨well, printed⟩ := (run_shows_iff ask).mpr shows
    rw [printed]
    refine ⟨well, ⟨fun there => contents.mp (only resolved there), fun agree => ?_⟩, shown, handedOn, prints⟩
    rw [← same.mpr agree]
    exact prints
  · intro fault failed reported
    have known : fault.IsOfPrompt := by
      rw [← Request.resolve_eq_byResolver] at failed
      exact Request.isOfPrompt_of_resolve failed
    have stops : (perform configurations world request).2.result = .error fault := by
      rw [performed, fails fault failed]
      rfl
    exact run_fails ask stops known reported

/-! ### A greeting, and a directory -/

/-- A command line for a document that is a directory. -/
def directoryWords : List String := ["render", "--var", "x=1", "/"]

def directoryRequest : Request := ⟨.render, "/", [⟨.variable, some "x=1"⟩]⟩

/-- The failure that it ends with. -/
def directoryFailure : Failure := .unreadable ⟨.root, []⟩ isDirectoryWords none

theorem asked_directory : asked directoryWords = .ok (false, directoryRequest) :=
  asked_of_toOption (by decide +kernel)

theorem byResolver_directory {bindings : Option Mapping} :
    directoryRequest.byResolver .empty Expansion.greetingReading.world bindings =
      .error (.failure directoryFailure) := by
  have project : projectOf Expansion.greetingReading.world directoryRequest = .ok (World.pathOf []) := by cbv
  have base : baseDirectory Expansion.greetingReading.world directoryRequest
      (StandingResolver.plain.settings .empty Expansion.greetingReading.world).baseDir =
        .ok (some (World.pathOf [])) := by cbv
  have lost : (Resolver.locate Expansion.greetingReading.world
      (StandingResolver.plain.settings .empty Expansion.greetingReading.world).baseDir "/"
      (some (World.pathOf []))).result = .error (.failure directoryFailure) := by cbv
  rw [← Request.resolve_eq_byResolver, resolve_bundled rfl (by decide +kernel) rfl project base,
    Resolver.resolveDocument, Outcome.result_andThen]
  show ((Resolver.locate _ _ "/" _).result.bind _) = _
  rw [lost]
  rfl

/-- A greeting is printed as the resolver gives it, and of a directory nothing is printed. -/
theorem render_agrees_greeting :
    (run .empty Expansion.greetingReading.world greetingWords).2.status = .ok 0 ∧
      Prints greetingRequest StandingResolver.greetingResolved
        (run .empty Expansion.greetingReading.world greetingWords).2.output ∧
      (run .empty Expansion.greetingReading.world directoryWords).2.status = .ok 1 ∧
      (run .empty Expansion.greetingReading.world directoryWords).2.output = [] := by
  have given : Variables.read Expansion.greetingReading.world none [some "x=1"] =
      .ok [(Key.ofString "x", .integer 1)] := by cbv
  have found : greetingRequest.byResolver .empty Expansion.greetingReading.world
      (some [(Key.ofString "x", .integer 1)]) = .ok StandingResolver.greetingResolved := by
    rw [← Request.resolve_eq_byResolver]
    exact resolve_greeting
  obtain ⟨well, prints, -⟩ := (render_agrees asked_greeting rfl given).1 _ found
  obtain ⟨nothing, failure⟩ := (render_agrees asked_directory rfl given).2 _ byResolver_directory rfl
  exact ⟨well, prints.mpr fun empty => absurd empty (List.cons_ne_nil _ _),
    failure.mpr fun asJson => absurd asJson (by decide), nothing⟩

/-! ### A mapping without entries -/

def unfilledText : String := "a\x7b\x7b x \x7d\x7db"

/-- A document with a placeholder, and a file of variables that holds none. -/
def unfilledWorld : World := .ofDocuments [("r", unfilledText), ("v", "\x7b\x7d")]

def unfilledWords : List String := ["render", "--vars-file", "v", "r"]

def unfilledRequest : Request := ⟨.render, "r", [⟨.variablesFile, some "v"⟩]⟩

theorem asked_unfilled : asked unfilledWords = .ok (false, unfilledRequest) :=
  asked_of_toOption (by decide +kernel)

/-- Whether what was read is a mapping without entries. -/
def isVoid : Except HostFault Shared → Bool
  | .ok (.mapping 0 []) => true
  | _ => false

theorem eq_of_isVoid {read : Except HostFault Shared} (same : isVoid read = true) : read = .ok (.mapping 0 []) := by
  unfold isVoid at same
  split at same
  · rfl
  · cases same

theorem read_unfilled : Variables.read unfilledWorld (some "v") [] = .ok [] := by
  have parsed : Path.parse "v" = ⟨.here, ["v"]⟩ := by cbv
  have path : unfilledWorld.expandHome ⟨.here, ["v"]⟩ = .ok ⟨.here, ["v"]⟩ := by cbv
  have there : unfilledWorld.exists? ⟨.here, ["v"]⟩ = .ok true := by cbv
  have opened : unfilledWorld.readBytes ⟨.here, ["v"]⟩ = .ok (Utf8.encode "\x7b\x7d".toList) := by cbv
  have lines : Utf8.universalLines "\x7b\x7d".toList = "\x7b\x7d".toList := by cbv
  have data : Yaml.loader.whole (Utf8.universalLines "\x7b\x7d".toList) = .ok (.mapping 0 []) := by
    rw [lines]
    exact eq_of_isVoid (by decide +kernel)
  have decodes : Utf8.decode (Utf8.encode "\x7b\x7d".toList) = .ok "\x7b\x7d".toList := by cbv
  have makes : Yaml.loader.Makes (Utf8.encode "\x7b\x7d".toList) "\x7b\x7d".toList (.mapping 0 []) :=
    ⟨Loader.findSome?_fronts_eq_none fun _ _ _ _ _ => rfl, decodes, data⟩
  have file : Variables.ofFile unfilledWorld "v" = .ok [] := by
    rw [Variables.ofFile, parsed, path]
    dsimp only
    rw [World.readData, there]
    dsimp only [bind, Except.bind]
    rw [if_pos rfl, World.loadFile, opened]
    dsimp only [bind, Except.bind]
    rw [makes.load]
    rfl
  rw [Variables.read, file]
  · rfl
  · decide

/-- The document with its variables, when there is nothing to put in place. -/
def unfilled (bindings : Option Mapping) : Assembled where
  recipe := ⟨⟨unfilledWorld, 32, true⟩, some ⟨.root, []⟩, some ⟨.root, ["r"]⟩, bindings, 2⟩
  progress := ⟨Trace.empty.note (.running .includes), [], []⟩
  text := unfilledText.toList

theorem byResolver_unfilled (bindings : Option Mapping) :
    unfilledRequest.byResolver .empty unfilledWorld bindings = (unfilled bindings).finish := by
  have project : projectOf unfilledWorld unfilledRequest = .ok (World.pathOf []) := by cbv
  have base : baseDirectory unfilledWorld unfilledRequest
      (StandingResolver.plain.settings .empty unfilledWorld).baseDir = .ok (some (World.pathOf [])) := by cbv
  have located : (Resolver.locate unfilledWorld (StandingResolver.plain.settings .empty unfilledWorld).baseDir
      "r" (some (World.pathOf []))).result =
        .ok ⟨⟨.root, []⟩, ⟨.root, ["r"]⟩, unfilledText.toList⟩ := by cbv
  have made : Resolver.recipe? unfilledWorld (StandingResolver.plain.settings .empty unfilledWorld) ⟨.root, []⟩
      (some ⟨.root, ["r"]⟩) bindings = .ok (unfilled bindings).recipe := by cbv
  have ends : Expansion.step ⟨unfilledWorld, 32, true⟩ (.root ⟨.root, ["r"]⟩ unfilledText.toList) =
      .ends (.ok unfilledText.toList) := by cbv
  have begins : Resolver.beginning (unfilled bindings).recipe unfilledText.toList = unfilledText.toList := by cbv
  have ran : Pipeline.run (unfilled bindings).recipe [.includes] .empty unfilledText.toList =
      ((unfilled bindings).progress, .ok unfilledText.toList) := by
    rw [Pipeline.run_includes]
    have included : Expansion.transform (unfilled bindings).recipe.reading (unfilled bindings).recipe.baseDirectory
        (unfilled bindings).recipe.rootPath (Trace.empty.note (.running .includes)) unfilledText.toList = _ :=
      Expansion.transform_of_expands rfl (.ended ends) _
    rw [included]
    rfl
  have assembled : Resolver.assemble unfilledWorld (StandingResolver.plain.settings .empty unfilledWorld)
      ⟨.root, []⟩ (some ⟨.root, ["r"]⟩) bindings unfilledText.toList = .ok (unfilled bindings) := by
    rw [Resolver.assemble, made]
    dsimp only
    rw [begins, ran]
    rfl
  rw [← Request.resolve_eq_byResolver, resolve_bundled rfl (by decide +kernel) rfl project base,
    Resolver.resolveDocument_result, Resolver.assembleDocument]
  show ((Resolver.locate _ _ "r" _).result.bind _).bind _ = _
  rw [located]
  dsimp only [Except.bind]
  rw [assembled]

/-- Its placeholder. -/
def unfilledPlace : Placeholder.Spelling :=
  ⟨false, [' '], ['x'], [' '], isBlank_of_mem_space, isBlank_of_mem_space,
    (Placeholder.readName_spec (by decide +kernel : Placeholder.readName ['x'] = some (['x'], []))).2⟩

theorem cut_unfilled : Placeholder.Cut unfilledText.toList [(['a'], unfilledPlace)] ['b'] :=
  .of_eq ['b'] (by decide) (by decide +kernel) (.last (by decide +kernel))

/-- The resolver replaces the placeholder by nothing, and the command prints it. -/
theorem render_unfilled :
    asked unfilledWords = .ok (false, unfilledRequest) ∧
      Variables.read unfilledWorld (unfilledRequest.word? .variablesFile) (unfilledRequest.words .variable) = .ok [] ∧
      unfilledRequest.byResolver .empty unfilledWorld (some []) =
        .ok ⟨"ab".toList, some ⟨.root, ["r"]⟩, [], [['x']]⟩ ∧
      (run .empty unfilledWorld unfilledWords).2.status = .ok 0 ∧
      (run .empty unfilledWorld unfilledWords).2.output = Report.line unfilledText.toList ∧
      ¬ Prints unfilledRequest ⟨"ab".toList, some ⟨.root, ["r"]⟩, [], [['x']]⟩
        (run .empty unfilledWorld unfilledWords).2.output := by
  have emptied : unfilledRequest.byResolver .empty unfilledWorld (some []) =
      .ok ⟨"ab".toList, some ⟨.root, ["r"]⟩, [], [['x']]⟩ := by
    rw [byResolver_unfilled]
    have finished : ((unfilled none).withBindings (some [])).finish = .ok _ := Assembled.finish_nil cut_unfilled
    exact finished.trans rfl
  have performed : (perform .empty unfilledWorld unfilledRequest).2.result =
      .ok (Report.line unfilledText.toList) := by
    rw [perform_render _ rfl read_unfilled, byResolver_unfilled]
    rfl
  obtain ⟨well, output⟩ := (run_shows_iff asked_unfilled).mpr performed
  refine ⟨asked_unfilled, read_unfilled, emptied, well, output, ?_⟩
  rw [output, Prints, if_neg (by decide)]
  decide +kernel

end Program

end Command

end PromptWeave