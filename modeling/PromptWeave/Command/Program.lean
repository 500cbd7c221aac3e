/-
**The program.**

The program has three commands: one prints a finished prompt, one its messages, and one the
documents that it includes. A command line names a command and its document. Main definitions:

* `Action`: the commands with their summaries and grammars;
* `Program.asked`: what a command line asks for;
* `Program.run`: what it comes to in a world;
* `Program.runCommand`: the same for the words of a single command.
-/

import PromptWeave.Command.Help
import PromptWeave.Command.Report
import PromptWeave.Command.Variables
import PromptWeave.Composition.StandingResolver

namespace PromptWeave.Command

open Text

/-- The commands. -/
inductive Action
  | dependencies
  | messages
  | render
deriving DecidableEq, Repr

namespace Action

/-- All commands, in the order of their names. -/
def all : List Action := [.dependencies, .messages, .render]

/-- The name of a command. -/
def name : Action → String
  | dependencies => "deps"
  | messages => "messages"
  | render => "render"

/-- What a command does. -/
def summary : Action → String
  | dependencies => "List the documents a document includes (transitively)"
  | messages => "Resolve a document and print its role-tagged messages"
  | render => "Resolve includes and variables and print the prompt text"

/-- The command of a name. -/
def ofName? (name : String) : Option Action := all.find? fun action => action.name == name

/-- The code of a command's failures. -/
def failureCode (action : Action) : String := action.name ++ "_error"

end Action

/-! ### Grammars -/

/-- The switch that asks for the explanation. -/
def helpSwitch : Switch := ⟨.help, ["-h", "--help"], .none, ["show this help message and exit"]⟩

/-- The switches of all commands. -/
def documentSwitches : List Switch :=
  [helpSwitch,
    ⟨.baseDirectory, ["--base-dir"], .word "BASE_DIR",
      ["Directory relative document paths are resolved against", "(default: current directory)"]⟩,
    ⟨.projectRoot, ["--project-root"], .word "PROJECT_ROOT",
      ["Directory containing fml.yaml (default: current", "directory)"]⟩,
    ⟨.json, ["--json"], .none, ["Output as JSON"]⟩]

/-- The switches of commands with variables. -/
def variableSwitches : List Switch :=
  [⟨.variable, ["--var"], .word "NAME=VALUE",
      ["Variable to substitute; VALUE is parsed as JSON when", "possible (repeatable)"]⟩,
    ⟨.variablesFile, ["--vars-file"], .word "VARS_FILE",
      ["YAML or JSON file with a mapping of variables (--var", "entries win)"]⟩]

/-- The switches on messages. -/
def messageSwitches : List Switch :=
  [⟨.chat, ["--chat"], .choice (Chat.Provider.all.map Chat.Provider.name),
      ["Print a chat-completion payload for the given provider"]⟩,
    ⟨.stripComments, ["--strip-comments"], .none,
      ["Remove <comment> blocks from message contents"]⟩]

/-- The grammar of a command's words in a program of some name. -/
def Action.grammar (program : String) : Action → Grammar
  | .dependencies => ⟨program, documentSwitches, .document⟩
  | .messages => ⟨program, documentSwitches ++ variableSwitches ++ messageSwitches, .document⟩
  | .render => ⟨program, documentSwitches ++ variableSwitches, .document⟩

namespace Program

/-- The name of the program. -/
def name : String := "fml"

/-- The version of the program. -/
def version : String := "1.0.0"

/-- The grammar of the program. -/
def grammar : Grammar :=
  ⟨name,
    [helpSwitch,
      ⟨.version, ["--version"], .none, ["show program's version number and exit"]⟩,
      ⟨.verbose, ["--verbose", "-v"], .none, ["Enable debug logging on stderr"]⟩],
    .command (Action.all.map Action.name)⟩

/-- The explanation of a grammar. -/
def helpText (grammar : Grammar) : String :=
  match grammar.operand with
  | .command _ =>
    Help.text grammar ["Resolve FML prompt documents (includes + variables)"]
      [Help.switchPart grammar,
        Help.commandPart (Action.all.map fun action => (action.name, action.summary))]
  | .document => Help.text grammar [] [Help.documentPart, Help.switchPart grammar]

end Program

/-! ### Requests -/

/-- A command with what was given for it. -/
structure Request where
  action : Action
  path : String
  given : List Given
deriving DecidableEq, Repr

namespace Request

/-- What was given for a purpose, each time with its word. -/
def words (request : Request) (purpose : Purpose) : List (Option String) :=
  (request.given.filter fun given => given.purpose = purpose).map (·.word)

/-- The word that was given last for a purpose. -/
def word? (request : Request) (purpose : Purpose) : Option String :=
  (request.words purpose).getLast?.join

/-- Whether a switch was given. -/
def has (request : Request) (purpose : Purpose) : Bool := !(request.words purpose).isEmpty

/-- The last word given for a purpose, unless it is empty. -/
def solid? (request : Request) (purpose : Purpose) : Option String :=
  match request.word? purpose with
  | some "" => none
  | other => other

end Request

/-! ### Results -/

/-- The path of a result. -/
def pathText (path : Option Path) : String := (path.map Path.text).getD "None"

/-- The turns of messages as text: each under its role, with empty lines between them. -/
def turnsText : List Chat.Turn → Text
  | [] => []
  | turn :: turns =>
    let heading := '[' :: turn.speaker ++ [']']
    let block := Report.line heading ++ Report.line turn.content
    match turns with
    | [] => block
    | _ => block ++ Report.line [] ++ turnsText turns

/-- What a command shows of a finished prompt. -/
def showResolved (request : Request) (resolved : Resolved) : Except Fault Text :=
  let dependencies := Value.list (resolved.dependencies.map fun path => .string path.text)
  let path := Value.string (pathText resolved.path)
  let asJson := fun fields =>
    (Report.json (.record fields)).mapError fun fault => Fault.host (HostFault.ofJson fault)
  if request.action = .dependencies then
    if request.has .json then asJson [("path", path), ("dependencies", dependencies)]
    else .ok (resolved.dependencies.flatMap fun path => Report.line path.text.toList)
  else if request.has .json then
    asJson [("path", path), ("content", .text resolved.content), ("dependencies", dependencies),
      ("missingVariables", .list (resolved.missing.map Value.text))]
  else .ok (Report.line resolved.content)

/-- What a command shows of messages. -/
def showMessages (request : Request) (messages : List Message) : Except Fault Text :=
  let strips := request.has .stripComments
  let provider := (request.word? .chat).getD Chat.Provider.openai.name
  let conversation := messages.map Chat.Turn.ofMessage
  match Chat.payloadFor provider strips conversation with
  | .error failure => .error (.failure failure)
  | .ok payload =>
    if (request.word? .chat).isSome || request.has .json then
      (Report.json payload).mapError fun fault => Fault.host (HostFault.ofJson fault)
    else
      match Chat.turns strips conversation with
      | .error failure => .error (.failure failure)
      | .ok turns => .ok (turnsText turns)

/-! ### Running -/

/-- The directory that a document is looked for in, if the configuration does not say it. -/
def baseDirectory (world : World) (request : Request)
    (configured : Except HostFault (Option Path)) : Except Fault (Option Path) :=
  match request.solid? .baseDirectory with
  | some spelling =>
    match world.resolveDirectory (Path.parse spelling) with
    | .error fault => .error (.host fault)
    | .ok path => .ok (some path)
  | none =>
    match configured with
    | .error fault => .error (.host fault)
    | .ok (some _) => .ok none
    | .ok none => .ok (some (World.pathOf world.current))

/-- The variables of a request; without any there are none to fill in. -/
def variablesOf (world : World) (request : Request) : Except Fault (Option Mapping) :=
  if request.action = .dependencies then .ok none
  else
    (Variables.read world (request.word? .variablesFile) (request.words .variable)).map
      fun bindings => if bindings.isEmpty then none else some bindings

/-- The paths that a request names, and the project files that it may have. -/
def Request.paths (request : Request) : List Path :=
  let project := Path.parse ((request.solid? .projectRoot).getD "")
  let named := [request.solid? .baseDirectory, request.solid? .variablesFile].filterMap id
  Project.fileNames.map project.child ++ (named ++ [request.path]).map Path.parse

/-- The directory of a request's project. -/
def projectOf (world : World) (request : Request) : Except Fault Path :=
  (Project.root world (request.solid? .projectRoot)).mapError Fault.host

/-- What a request shows. -/
def perform (configurations : Configurations) (world : World) (request : Request) :
    Configurations × Outcome Text :=
  match variablesOf world request with
  | .error fault => (configurations, .quiet (.error fault))
  | .ok bindings =>
    match projectOf world request with
    | .error fault => (configurations, .quiet (.error fault))
    | .ok project =>
      let (configurations, fetched) := configurations.fetch world project
      let outcome := fetched.andThen fun number =>
        let resolver := StandingResolver.start (.made number)
        let settings := resolver.settings configurations world
        match baseDirectory world request settings.baseDir with
        | .error fault => .quiet (.error fault)
        | .ok base =>
          if request.action = .messages then
            (Resolver.parse world settings request.path bindings base).andThen fun messages =>
              .quiet (showMessages request messages)
          else
            (Resolver.resolveDocument world settings request.path bindings base).andThen
              fun resolved => .quiet (showResolved request resolved)
      (configurations, outcome)

/-- What a run of the program comes to. -/
structure Ending where
  /-- The status, unless a fault broke the run off. -/
  status : Except Fault Nat
  output : Text
  errors : Text
  /-- The fault that the run reported. -/
  reported : Option Fault

/-- The status of a run whose command line is wrong. -/
def misuseStatus : Nat := 2

namespace Ending

/-- A run that shows something and ends. -/
def shown (status : Nat) (output : String) : Ending := ⟨.ok status, output.toList, [], none⟩

/-- A run that was stopped by the reading of its command line. -/
def ofStop : Stop → Ending
  | .help grammar => shown 0 (Program.helpText grammar)
  | .version => shown 0 (Program.name ++ " " ++ Program.version ++ "\n")
  | .misuse grammar words =>
    let mistake := s!"{grammar.program}: error: {words}"
    ⟨.ok misuseStatus, [], (Help.usage grammar).toList ++ Report.line mistake.toList, none⟩

/-- A run of a request, its notices being shown as lines. -/
def ofOutcome (request : Request) (lines : List String) (result : Except Fault Text) : Ending :=
  let log := lines.flatMap fun text => Report.line text.toList
  match result with
  | .ok output => ⟨.ok 0, output, log, none⟩
  | .error fault =>
    if fault.isReported then
      match Report.failure (request.has .json) request.action.failureCode "" fault with
      | .ok words => ⟨.ok 1, [], log ++ words, some fault⟩
      | .error wrong => ⟨.error (.host (HostFault.ofJson wrong)), [], log, some fault⟩
    else ⟨.error fault, [], log, some fault⟩

end Ending

namespace Program

/-- The mistake of words that nothing takes. -/
def unrecognized (grammar : Grammar) (extras : List String) : Stop :=
  grammar.misuse ("unrecognized arguments: " ++ " ".intercalate extras)

/-- The words of a single command as a request, with the words that nothing takes. -/
def request? (action : Action) (program : String) (words : List String) :
    Except Stop (Request × List String) :=
  match (action.grammar program).read words with
  | .error stop => .error stop
  | .ok reading =>
    .ok (⟨action, ((reading.operands.getD []).headD ""), reading.given⟩, reading.extras)

/-- What the words of a command line ask for, and whether every notice is to be shown. Words that
ask for nothing end the run. -/
def asked (words : List String) : Except Ending (Bool × Request) :=
  match grammar.read words with
  | .error stop => .error (Ending.ofStop stop)
  | .ok reading =>
    let isVerbose := reading.given.any fun given => given.purpose = .verbose
    let extras := reading.extras
    match reading.operands with
    | some (command :: rest) =>
      match Action.ofName? command with
      | none => .error (Ending.shown 1 (helpText grammar))
      | some action =>
        match request? action (name ++ " " ++ action.name) rest with
        | .error stop => .error (Ending.ofStop stop)
        | .ok (request, more) =>
          if extras ++ more ≠ [] then
            .error (Ending.ofStop (unrecognized grammar (extras ++ more)))
          else .ok (isVerbose, request)
    | _ =>
      if extras ≠ [] then .error (Ending.ofStop (unrecognized grammar extras))
      else .error (Ending.shown 1 (helpText grammar))

/-- Runs the program on its words. -/
def run (configurations : Configurations) (world : World) (words : List String) :
    Configurations × Ending :=
  match asked words with
  | .error ending => (configurations, ending)
  | .ok (isVerbose, request) =>
    let (configurations, outcome) := perform configurations world request
    let lines := Notice.shown isVerbose outcome.notices
    (configurations, Ending.ofOutcome request lines outcome.result)

/-- Runs a single command on its words, in a program of its own. Of its notices the warnings are
shown, without their origin. -/
def runCommand (configurations : Configurations) (world : World) (action : Action)
    (program : String) (words : List String) : Configurations × Ending :=
  match request? action program words with
  | .error stop => (configurations, Ending.ofStop stop)
  | .ok (request, extras) =>
    if extras ≠ [] then
      (configurations, Ending.ofStop (unrecognized (action.grammar program) extras))
    else
      let (configurations, outcome) := perform configurations world request
      let lines := (outcome.notices.filter Notice.isWarning).map Notice.words
      (configurations, Ending.ofOutcome request lines outcome.result)

end Program

end PromptWeave.Command
