/-
**Failures.**

A failure says why a prompt could not be put together or a setting could not be used. Each has a
name, a wording and a context of named values. Faults of the host (numerals, files, data that cannot
be read) are kept apart from failures. Main definitions:

* `Failure.message`, `Failure.name`, `Failure.context`;
* `HostFault.message`;
* `Fault`: a failure, a fault of the host, or work without end.
-/

import PromptWeave.Json.Reading
import PromptWeave.Json.Writing
import PromptWeave.Storage.FileSystem
import PromptWeave.Text.Utf8
import PromptWeave.Value.Loop

namespace PromptWeave

/-- Why a prompt could not be put together. -/
inductive Failure
  /-- A failure of no special kind. -/
  | general (message : String) (context : Mapping)
  /-- A setting or an argument cannot be used. -/
  | configuration (message : String) (context : Mapping)
  /-- A document is not there. -/
  | notFound (path : Path) (includedFrom : Option Path) (chain : List Path)
  /-- A document is there and cannot be read as text. -/
  | unreadable (path : Path) (reason : String) (includedFrom : Option Path)
  /-- A document includes one of its ancestors; the last path of the chain is met again. -/
  | circular (chain : List Path)
  /-- Documents are nested more deeply than allowed. -/
  | tooDeep (limit : Int) (chain : List Path)
  /-- A directive cannot be read. -/
  | malformedDirective (reason : String) (document : Option Path) (offset : Option Int)
  /-- Role blocks are nested. -/
  | malformedDocument (message : String) (source role : Option String) (line : Option Int)
  /-- Tags are not balanced. -/
  | unbalanced (message : String) (source tag : Option String) (line : Option Int)
deriving Repr

namespace Failure

/-- The name that stands for an unnamed document in messages. -/
def unnamedDocument : String := "<string>"

/-- The name of a failure. -/
def name : Failure → String
  | general .. => "FmlError"
  | configuration .. => "ConfigurationError"
  | notFound .. => "IncludeNotFoundError"
  | unreadable .. => "IncludeReadError"
  | circular .. => "CircularDependencyError"
  | tooDeep .. => "IncludeDepthError"
  | malformedDirective .. => "MalformedDirectiveError"
  | malformedDocument .. => "MalformedDocumentError"
  | unbalanced .. => "DocumentSyntaxError"

/-- The wording of a failure. -/
def message : Failure → String
  | general message _ => message
  | configuration message _ => message
  | notFound path includedFrom chain =>
    let start := match includedFrom with
      | some parent => s!"Include not found: {path} (from {parent})"
      | none => s!"Document not found: {path}"
    if chain = [] then start else start ++ ". Chain: " ++ Path.chainText chain
  | unreadable path reason _ => s!"Failed to read {path}: {reason}"
  | circular chain => "Circular include detected: " ++ Path.chainText chain
  | tooDeep limit chain =>
    s!"Include depth exceeded (>{limit}). Chain: " ++ Path.chainText chain
  | malformedDirective reason document offset =>
    let place := match document with
      | some path => path.text
      | none => unnamedDocument
    let position := match offset with
      | some offset => s!" at offset {offset}"
      | none => ""
    s!"Malformed include directive in {place}{position}: {reason}"
  | malformedDocument message _ _ _ => message
  | unbalanced message _ _ line =>
    match line with
    | some line => s!"{message} (line {line})"
    | none => message

/-- An optional string as a value. -/
def optionalString (text : Option String) : Value := (text.map Value.string).getD .null

/-- An optional path as a value. -/
def optionalPath (path : Option Path) : Value := optionalString (path.map Path.text)

/-- An optional integer as a value. -/
def optionalInteger (number : Option Int) : Value := (number.map Value.integer).getD .null

/-- Paths as a value. -/
def pathList (paths : List Path) : Value := .list (paths.map fun path => .string path.text)

/-- Named values as the entries of a context. -/
def fields (named : List (String × Value)) : Mapping :=
  named.map fun field => (Key.ofString field.1, field.2)

/-- The named values that a failure carries. -/
def context : Failure → Mapping
  | general _ context => context
  | configuration _ context => context
  | notFound path includedFrom chain =>
    fields [("path", .string path.text), ("included_from", optionalPath includedFrom),
      ("chain", pathList chain)]
  | unreadable path _ includedFrom =>
    fields [("path", .string path.text), ("included_from", optionalPath includedFrom)]
  | circular chain => fields [("chain", pathList chain)]
  | tooDeep limit chain => fields [("max_depth", .integer limit), ("chain", pathList chain)]
  | malformedDirective _ document offset =>
    fields [("path", optionalPath document), ("offset", optionalInteger offset)]
  | malformedDocument _ source role line =>
    fields [("source", optionalString source), ("role", optionalString role),
      ("line", optionalInteger line)]
  | unbalanced _ source tag line =>
    fields [("source", optionalString source), ("tag", optionalString tag),
      ("line", optionalInteger line)]

/-- The failure as a value: its wording, its name and its context. -/
def report (failure : Failure) : Value :=
  .record [("message", .string failure.message), ("code", .string failure.name),
    ("context", .mapping false failure.context)]

/-- A setting that cannot be used, with the key that it stands under. -/
def setting (message key : String) : Failure :=
  .configuration message (fields [("key", .string key)])

end Failure

/-- Faults of the calendar in data. -/
inductive CalendarFault
  | year (value : Nat)
  | month
  | day
  | hour
  | minute
  | second
  | offset (minutes : Int)
deriving DecidableEq, Repr

/-- What goes on without end in data that stand inside themselves. -/
inductive Pursuit
  /-- The search for the main value of a mapping. -/
  | mainValue
  /-- The layout of a value. -/
  | layout
  /-- The answer to a question about data. -/
  | answer
deriving DecidableEq, Repr

/-- Faults of the host: what numerals, files and data can do wrong. -/
inductive HostFault
  /-- A numeral cannot be read or written. -/
  | numeral (fault : NumeralFault)
  /-- A key of this kind cannot be written as the name of a member. -/
  | unwritableKey (kind : String)
  /-- A value of this kind is no number. -/
  | notNumber (kind : String)
  /-- A value of this kind has no items. -/
  | notIterable (kind : String)
  /-- An item of this position cannot be taken apart into a key and a value. -/
  | notPair (position : Nat)
  /-- An item of this position has so many parts and not a key and a value. -/
  | wrongPair (position parts : Nat)
  /-- A value of this kind cannot be a key. -/
  | unhashable (kind : String)
  /-- A value of this kind has no such property. -/
  | noProperty (kind name : String)
  /-- A spelling holds the character that no path can hold. -/
  | nullCharacter
  /-- A link leads back to itself. -/
  | linkLoop (path : Path)
  /-- A home directory is not known. -/
  | homeless
  /-- A path cannot be looked up. -/
  | obstacle (obstacle : Obstacle) (path : Path)
  /-- A directory is read as a file. -/
  | isDirectory (path : Path)
  /-- A data file is not there. -/
  | missingFile (path : Path)
  /-- Bytes are no text. -/
  | undecodable (fault : Utf8.Fault)
  /-- A data file is malformed. -/
  | malformedData
  /-- A word is no truth value. -/
  | notTruth (word : String)
  /-- An index is beyond the end of a row. -/
  | noSuchItem (what : String)
  /-- A code point is beyond the last one. -/
  | noSuchCharacter (huge : Bool)
  /-- A string holds one unit of a pair of code units, which is no character. Such strings are no texts, and
  what is read from data that hold one is left out. -/
  | surrogate
  /-- A day or a time is not in the calendar. -/
  | calendar (fault : CalendarFault)
  /-- A number is too large for a fraction. -/
  | tooLargeForFraction
  /-- A value of this kind is no text. -/
  | notText (kind : String)
  /-- Something goes on without end. -/
  | endless (pursuit : Pursuit)
deriving DecidableEq, Repr

/-- The number and the words of the operating system for an obstacle. -/
def Obstacle.system : Obstacle → Nat × String
  | absent => (2, "No such file or directory")
  | notDirectory => (20, "Not a directory")
  | loop => (40, "Too many levels of symbolic links")
  | tooLong => (36, "File name too long")
  | denied => (13, "Permission denied")

/-- Whether it cannot be said of a place behind an obstacle whether it is there. -/
def Obstacle.isFault : Obstacle → Bool
  | tooLong => true
  | denied => true
  | _ => false

/-- The words for a directory that is read as a file. -/
def isDirectoryWords : String := "Is a directory"

/-- The wording of a fault of the calendar. -/
def CalendarFault.message : CalendarFault → String
  | year value => s!"year {value} is out of range"
  | month => "month must be in 1..12"
  | day => "day is out of range for month"
  | hour => "hour must be in 0..23"
  | minute => "minute must be in 0..59"
  | second => "second must be in 0..59"
  | offset minutes =>
    let shown := String.ofList (durationLiteral minutes)
    "offset must be a timedelta strictly between -timedelta(hours=24) and "
      ++ s!"timedelta(hours=24), not {shown}."

/-- The wording of what goes on without end. -/
def Pursuit.message : Pursuit → String
  | mainValue => "maximum recursion depth exceeded"
  | layout => Json.Fault.endless.message
  | answer => "maximum recursion depth exceeded in __instancecheck__"

/-- The wording of a fault of the host. -/
def HostFault.message : HostFault → String
  | numeral fault => fault.message
  | unwritableKey kind => (Json.Fault.unwritableKey kind).message
  | notNumber kind =>
    s!"int() argument must be a string, a bytes-like object or a real number, not '{kind}'"
  | notIterable kind => s!"'{kind}' object is not iterable"
  | notPair position =>
    s!"cannot convert dictionary update sequence element #{position} to a sequence"
  | wrongPair position parts =>
    s!"dictionary update sequence element #{position} has length {parts}; 2 is required"
  | unhashable kind => s!"unhashable type: '{kind}'"
  | noProperty kind name => s!"'{kind}' object has no attribute '{name}'"
  | nullCharacter => "embedded null byte"
  | linkLoop path => "Symlink loop from " ++ path.quotedText
  | homeless => "Could not determine home directory."
  | .obstacle why path =>
    let (number, words) := why.system
    s!"[Errno {number}] {words}: " ++ path.quotedText
  | isDirectory path => s!"[Errno 21] {isDirectoryWords}: " ++ path.quotedText
  | missingFile path => s!"File not found: {path}"
  | undecodable fault =>
    let bytes := if fault.stop = fault.start + 1 then
        "byte 0x" ++ String.ofList (Text.hex fault.byte.toNat 2) ++ s!" in position {fault.start}"
      else
        let last := fault.stop - 1
        s!"bytes in position {fault.start}-{last}"
    let words := fault.reason.text
    s!"'utf-8' codec can't decode {bytes}: {words}"
  | malformedData => "<yaml error>"
  | notTruth word => String.ofList (Text.quoted word.toList)
  | noSuchItem what => s!"{what} index out of range"
  | noSuchCharacter huge =>
    if huge then "Python int too large to convert to C int" else "chr() arg not in range(0x110000)"
  | surrogate => "surrogates not allowed"
  | calendar fault => fault.message
  | tooLargeForFraction => "int too large to convert to float"
  | notText kind => s!"expected string or bytes-like object, got '{kind}'"
  | endless pursuit => pursuit.message

/-- A value as the answer to a question, if it has an end. -/
def Value.asAnswer (value : Value) : Except HostFault Value :=
  if value.isFinite then .ok value else .error (.endless .answer)

/-- A fault of writing JSON as a fault of the host. -/
def HostFault.ofJson : Json.Fault → HostFault
  | .numeral fault => .numeral fault
  | .unwritableKey kind => .unwritableKey kind
  | .endless => .endless .layout

/-- The value of a text: its JSON if it is any, and a string otherwise. JSON with a string that is no
text has no value here. -/
def Json.valueOf (text : Text) : Except HostFault Value :=
  match Json.parse? text with
  | none => .ok (.text text)
  | some none => .error .surrogate
  | some (some value) => .ok value

/-- What can end an operation early. -/
inductive Fault
  /-- A failure. -/
  | failure (failure : Failure)
  /-- A fault of the host. -/
  | host (fault : HostFault)
  /-- The operation never ends, so that nothing comes of it. -/
  | endless
deriving Repr

/-- The wording of what ended an operation. -/
def Fault.message : Fault → String
  | .failure cause => cause.message
  | .host cause => cause.message
  | .endless => "the operation never ends"

/-- Whether a command reports the fault and ends instead of breaking off: all failures, and the
faults of files. -/
def Fault.isReported : Fault → Bool
  | .failure _ => true
  | .host (.obstacle _ _) => true
  | .host (.isDirectory _) => true
  | .host (.missingFile _) => true
  | _ => false

end PromptWeave
