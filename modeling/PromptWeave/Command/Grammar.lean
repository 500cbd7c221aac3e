/-
**The words of a command line.**

A command line is a row of words. A switch is known by its names; a long name may be shortened as
long as it stays clear which one is meant, and short names may share one dash. After `--` every word
is an operand. Main definitions:

* `Switch`, `Grammar`: what a command line may hold;
* `Grammar.classify`: whether a word is an operand or a switch;
* `Grammar.read`: the switches and operands of a command line, or why it ends early.
-/

import PromptWeave.Text.Digit
import PromptWeave.Text.Printable

namespace PromptWeave.Command

open Text

/-- What a switch is for. -/
inductive Purpose
  | help
  | version
  | verbose
  | baseDirectory
  | projectRoot
  | json
  | variable
  | variablesFile
  | chat
  | stripComments
deriving DecidableEq, Repr

/-- What follows a switch. -/
inductive Argument
  | none
  /-- A word, shown under a label. -/
  | word (label : String)
  /-- One of these words. -/
  | choice (words : List String)
deriving DecidableEq, Repr

/-- A switch. -/
structure Switch where
  purpose : Purpose
  names : List String
  argument : Argument
  /-- The lines that explain it. -/
  explanation : List String
deriving DecidableEq, Repr

/-- What the operand of a command line is. -/
inductive Operand
  /-- One of these commands, with all words after it. -/
  | command (names : List String)
  /-- The path of a document, which has to be there. -/
  | document
deriving DecidableEq, Repr

/-- What a command line may hold. -/
structure Grammar where
  /-- What the program is called. -/
  program : String
  switches : List Switch
  operand : Operand
deriving Repr

/-- Why the reading of a command line ends early. -/
inductive Stop
  /-- The explanation of a grammar is asked for. -/
  | help (grammar : Grammar)
  /-- The version is asked for. -/
  | version
  /-- The command line is wrong. -/
  | misuse (grammar : Grammar) (words : String)
deriving Repr

/-- A switch with the word that was given for it. A switch that takes no word has none, and two
dashes that an equals sign attaches stand for none. -/
structure Given where
  purpose : Purpose
  word : Option String
deriving DecidableEq, Repr

/-- A switch as it was found in a word. -/
structure Found where
  switch : Switch
  spelling : String
  /-- What is attached to it. -/
  attached : Option Text
deriving Repr

/-- Whether a switch was found under a name with two dashes. -/
def Found.isLong (found : Found) : Bool := found.spelling.toList.take 2 == ['-', '-']

/-- What a word is. -/
inductive Word
  /-- The mark that all words after it are operands. -/
  | dashes
  | operand (word : String)
  /-- A switch, known or not. -/
  | switch (word : String) (found : Option Found)
deriving Repr

/-- What has been read of a command line. -/
structure Reading where
  given : List Given
  /-- The operands that were taken. -/
  operands : Option (List String)
  /-- The words that nothing takes. -/
  extras : List String
deriving Repr

namespace Switch

/-- All names of a switch, as messages show them. -/
def title (switch : Switch) : String := "/".intercalate switch.names

end Switch

/-- How a word was written. -/
def Word.text : Word → String
  | .dashes => "--"
  | .operand word => word
  | .switch word _ => word

namespace Grammar

/-- A mistake in the use of a grammar. -/
def misuse (grammar : Grammar) (words : String) : Stop := .misuse grammar words

/-- A mistake in the use of an argument. -/
def misuseOf (grammar : Grammar) (title words : String) : Stop :=
  grammar.misuse s!"argument {title}: {words}"

/-- All names with their switches, in order. -/
def named (grammar : Grammar) : List (String × Switch) :=
  grammar.switches.flatMap fun switch => switch.names.map fun name => (name, switch)

/-- The switch of a name. -/
def switch? (grammar : Grammar) (name : String) : Option Switch :=
  (grammar.named.find? fun entry => entry.1 == name).map (·.2)

/-! ### Single words -/

/-- A word cut at its first equals sign, if it has one. -/
def cut (word : Text) : Text × Option Text :=
  let front := word.takeWhile (· != '=')
  match word.dropWhile (· != '=') with
  | _ :: back => (front, some back)
  | [] => (front, none)

/-- The switches that an unknown word that begins with a dash may mean. -/
def candidates (grammar : Grammar) (word : Text) : List Found :=
  if word.take 2 = ['-', '-'] then
    let (front, back) := cut word
    (grammar.named.filter fun entry => front.isPrefixOf entry.1.toList).map fun entry =>
      ⟨entry.2, entry.1, back⟩
  else
    (grammar.named.filter fun entry => entry.1.toList == word.take 2).map fun entry =>
      ⟨entry.2, entry.1, some (word.drop 2)⟩

/-- Whether a word is a negative number. -/
def isNegativeNumber (word : Text) : Bool :=
  let isDecimal := fun c => (decimalValue? c).isSome
  match word with
  | '-' :: rest =>
    let body := if rest.getLast? = some '\n' then rest.dropLast else rest
    let whole := body.takeWhile isDecimal
    match body.dropWhile isDecimal with
    | [] => !whole.isEmpty
    | '.' :: fraction => !fraction.isEmpty && fraction.all isDecimal
    | _ => false
  | _ => false

/-- What a word is when no `--` stands before it. -/
def classify (grammar : Grammar) (word : String) : Except Stop Word :=
  let text := word.toList
  if text.head? ≠ some '-' then .ok (.operand word)
  else match grammar.switch? word with
    | some switch => .ok (.switch word (some ⟨switch, word, none⟩))
    | none =>
      if text.length = 1 then .ok (.operand word)
      else
        let (front, back) := cut text
        match back, grammar.switch? (String.ofList front) with
        | some back, some switch =>
          .ok (.switch word (some ⟨switch, String.ofList front, some back⟩))
        | _, _ =>
          match grammar.candidates text with
          | [found] => .ok (.switch word (some found))
          | [] =>
            if isNegativeNumber text ∨ text.contains ' ' then .ok (.operand word)
            else .ok (.switch word none)
          | several =>
            let names := ", ".intercalate (several.map (·.spelling))
            .error (grammar.misuse s!"ambiguous option: {word} could match {names}")

/-- What the words of a command line are. -/
def classifyAll (grammar : Grammar) : List String → Except Stop (List Word)
  | [] => .ok []
  | word :: words =>
    if word = "--" then .ok (.dashes :: words.map Word.operand)
    else match grammar.classify word with
      | .error stop => .error stop
      | .ok first => (grammar.classifyAll words).map (first :: ·)

/-! ### Switches -/

/-- The names of words to choose from. -/
def choicesText (words : List String) : String :=
  ", ".intercalate (words.map fun word => String.ofList (quoted word.toList))

/-- The mistake of a word that is none of those to choose from. -/
def invalidChoice (grammar : Grammar) (title word : String) (words : List String) : Stop :=
  let shown := String.ofList (quoted word.toList)
  let choices := choicesText words
  grammar.misuseOf title s!"invalid choice: {shown} (choose from {choices})"

/-- The mistake of a word that is attached to a switch without an argument. -/
def ignoredWord (grammar : Grammar) (switch : Switch) (word : Text) : Stop :=
  let shown := String.ofList (quoted word)
  grammar.misuseOf switch.title s!"ignored explicit argument {shown}"

/-- A switch takes effect: some end the reading. -/
def apply (grammar : Grammar) (reading : Reading) (switch : Switch) (word : Option String) :
    Except Stop Reading :=
  let result : Reading := { reading with given := reading.given ++ [⟨switch.purpose, word⟩] }
  match switch.purpose, switch.argument, word with
  | .help, _, _ => .error (.help grammar)
  | .version, _, _ => .error .version
  | _, .choice words, some word =>
    if words.contains word then .ok result
    else .error (grammar.invalidChoice switch.title word words)
  | _, _, _ => .ok result

/-- Switches without arguments take effect one after another. -/
def applyAll (grammar : Grammar) (reading : Reading) : List Switch → Except Stop Reading
  | [] => .ok reading
  | switch :: switches =>
    match grammar.apply reading switch none with
    | .error stop => .error stop
    | .ok reading => grammar.applyAll reading switches

/-- What a switch found in a word comes to: the switches of the word without an argument, and the
last switch if it has one, with the word attached to it. -/
structure Cluster where
  plain : List Switch
  last : Option (Switch × Option String)

/-- Reads the switches that share a word. Each character behind a short switch has to be a short
switch as well. -/
def cluster (grammar : Grammar) : (fuel : Nat) → Found → List Switch → Except Stop Cluster
  | 0, _, plain => .ok ⟨plain, none⟩
  | fuel + 1, found, plain =>
    match found.attached, found.switch.argument with
    | none, .none => .ok ⟨plain ++ [found.switch], none⟩
    | none, _ => .ok ⟨plain, some (found.switch, none)⟩
    | some text, .none =>
      let name := String.ofList ('-' :: text.take 1)
      match found.isLong || text.isEmpty, grammar.switch? name with
      | false, some switch =>
        let attached := if text.tail = [] then none else some text.tail
        grammar.cluster fuel ⟨switch, name, attached⟩ (plain ++ [found.switch])
      | _, _ => .error (grammar.ignoredWord found.switch text)
    | some text, _ => .ok ⟨plain, some (found.switch, some (String.ofList text))⟩

/-- A switch takes effect together with the words that belong to it; the rest is given back. -/
def readSwitch (grammar : Grammar) (reading : Reading) (found : Found) (rest : List Word) :
    Except Stop (Reading × List Word) := do
  let cluster ← grammar.cluster (found.attached.elim 0 List.length + 1) found []
  match cluster.last with
  | none => return (← grammar.applyAll reading cluster.plain, rest)
  | some (switch, some word) =>
    let reading ← grammar.applyAll reading cluster.plain
    return (← grammar.apply reading switch (if word = "--" then none else some word), rest)
  | some (switch, none) =>
    match rest with
    | .operand word :: rest =>
      let reading ← grammar.applyAll reading cluster.plain
      return (← grammar.apply reading switch (some word), rest)
    | _ => throw (grammar.misuseOf switch.title "expected one argument")

/-! ### Command lines -/

/-- The operands that a row of words begins with, and the rest. A command takes all words after it;
a document is one word, and the mark before or behind it belongs to it. -/
def takeOperands (operand : Operand) (words : List Word) : Option (List String × List Word) :=
  match operand, words with
  | .command _, .operand word :: rest => some (word :: rest.map Word.text, [])
  | .command _, .dashes :: .operand word :: rest => some ("--" :: word :: rest.map Word.text, [])
  | .document, .dashes :: .operand word :: rest => some ([word], rest)
  | .document, .operand word :: .dashes :: rest => some ([word], rest)
  | .document, .operand word :: rest => some ([word], rest)
  | _, _ => none

/-- Takes operands if they are still missing. -/
def readOperands (grammar : Grammar) (reading : Reading) (words : List Word) :
    Except Stop (Option (Reading × List Word)) :=
  if reading.operands.isSome then .ok none
  else match takeOperands grammar.operand words with
    | none => .ok none
    | some (operands, rest) =>
      let reading := { reading with operands := some operands }
      match grammar.operand, operands with
      | .command names, name :: _ =>
        if names.contains name then .ok (some (reading, rest))
        else .error (grammar.invalidChoice "<command>" name names)
      | _, _ => .ok (some (reading, rest))

/-- Reads words. Operands that nothing takes are extras. -/
def readWords (grammar : Grammar) : (fuel : Nat) → Reading → List Word → Except Stop Reading
  | 0, reading, _ => .ok reading
  | fuel + 1, reading, words =>
    match words with
    | .switch word none :: rest =>
      grammar.readWords fuel { reading with extras := reading.extras ++ [word] } rest
    | .switch _ (some found) :: rest =>
      match grammar.readSwitch reading found rest with
      | .error stop => .error stop
      | .ok (reading, rest) => grammar.readWords fuel reading rest
    | words =>
      match grammar.readOperands reading words with
      | .error stop => .error stop
      | .ok (some (reading, rest)) => grammar.readWords fuel reading rest
      | .ok none =>
        match words with
        | [] => .ok reading
        | word :: rest =>
          grammar.readWords fuel { reading with extras := reading.extras ++ [word.text] } rest

/-- Reads a command line. -/
def read (grammar : Grammar) (words : List String) : Except Stop Reading :=
  match grammar.classifyAll words with
  | .error stop => .error stop
  | .ok classified =>
    match grammar.readWords (2 * classified.length + 2) ⟨[], none, []⟩ classified with
    | .error stop => .error stop
    | .ok reading =>
      if grammar.operand = .document ∧ reading.operands = none then
        .error (grammar.misuse "the following arguments are required: path")
      else .ok reading

end Grammar

end PromptWeave.Command
