/-
**The explanation of a command line.**

The explanation begins with the usage, broken into lines of at most 78 characters, and goes on with
sections of entries: a title on the left, and the lines that explain it in a column on the right.
Main definitions:

* `Help.usage`: the usage of a grammar;
* `Help.Entry.lines`: an entry with its explanation;
* `Help.text`: the explanation of a grammar.
-/

import PromptWeave.Command.Grammar

namespace PromptWeave.Command.Help

/-- The most characters of a line. -/
def lineWidth : Nat := 78

/-- The column of explanations if the titles leave it free. -/
def farColumn : Nat := 24

/-- Blanks. -/
def blanks (count : Nat) : String := String.ofList (List.replicate count ' ')

/-- A text filled up with blanks. -/
def filled (width : Nat) (text : String) : String := text ++ blanks (width - text.length)

/-! ### Usage -/

/-- What a switch looks like with its argument, under one of its names. -/
def spelled (switch : Switch) (name : String) : String :=
  match switch.argument with
  | .none => name
  | .word label => name ++ " " ++ label
  | .choice words => name ++ " \x7b" ++ ",".intercalate words ++ "\x7d"

/-- A switch in the usage. -/
def bracketed (switch : Switch) : String :=
  "[" ++ spelled switch (switch.names.headD "") ++ "]"

/-- The operand in the usage. -/
def operandUsage : Operand → List String
  | .command _ => ["<command>", "..."]
  | .document => ["path"]

/-- Lines of parts, each line as long as it may be. A line holds one part at least; `used` counts
the characters before the parts of the present one. -/
def broken (indent used : Nat) (line : List String) : List String → List (List String)
  | [] => if line = [] then [] else [line]
  | part :: parts =>
    if lineWidth < used + 1 + part.length ∧ line ≠ [] then
      line :: broken indent (indent - 1 + part.length + 1) [part] parts
    else broken indent (used + part.length + 1) (line ++ [part]) parts

/-- The usage of a grammar, with its line ends. -/
def usage (grammar : Grammar) : String :=
  let heading := "usage: "
  let options := grammar.switches.map bracketed
  let operands := operandUsage grammar.operand
  let whole := " ".intercalate (grammar.program :: options ++ operands)
  if heading.length + whole.length ≤ lineWidth then heading ++ whole ++ "\n"
  else
    let indent := heading.length + grammar.program.length + 1
    let first := broken indent (heading.length - 1) [] (grammar.program :: options)
    let lines := first ++ broken indent (indent - 1) [] operands
    let texts := lines.map fun line => " ".intercalate line
    heading ++ ("\n" ++ blanks indent).intercalate texts ++ "\n"

/-! ### Sections -/

/-- An entry: its title, how far it is indented, and the lines that explain it. -/
structure Entry where
  indent : Nat
  title : String
  explanation : List String

/-- The lines of an entry whose explanation begins at a column. -/
def Entry.lines (column : Nat) (entry : Entry) : String :=
  let title := blanks entry.indent ++ entry.title
  match entry.explanation with
  | [] => title ++ "\n"
  | first :: others =>
    let below := others.map fun line => blanks column ++ line ++ "\n"
    let start :=
      if title.length + 2 ≤ column then filled column title ++ first ++ "\n"
      else title ++ "\n" ++ blanks column ++ first ++ "\n"
    start ++ String.join below

/-- A section with its entries. -/
structure Part where
  title : String
  entries : List Entry

/-- The lines of a section. -/
def Part.lines (column : Nat) (part : Part) : String :=
  part.title ++ ":\n" ++ String.join (part.entries.map (Entry.lines column))

/-- The entry of a switch. -/
def switchEntry (switch : Switch) : Entry :=
  ⟨2, ", ".intercalate (switch.names.map (spelled switch)), switch.explanation⟩

/-- The section of the switches. -/
def switchPart (grammar : Grammar) : Part := ⟨"options", grammar.switches.map switchEntry⟩

/-- The explanation of the path of a document. -/
def documentPart : Part :=
  ⟨"positional arguments",
    [⟨2, "path", ["FML document to resolve (relative paths use --base-", "dir, default: cwd)"]⟩]⟩

/-- The section of the commands with their summaries. -/
def commandPart (summaries : List (String × String)) : Part :=
  ⟨"commands", ⟨2, "<command>", []⟩ :: summaries.map fun entry => ⟨4, entry.1, [entry.2]⟩⟩

/-- The column of the explanations of some sections. -/
def columnOf (parts : List Part) : Nat :=
  let widths := parts.flatMap fun part => part.entries.map fun entry =>
    entry.indent + entry.title.length
  min (widths.foldl max 0 + 2) farColumn

/-- The explanation of a grammar: its usage, what it is for, and its sections. -/
def text (grammar : Grammar) (aim : List String) (parts : List Part) : String :=
  let blocks := aim.map (· ++ "\n") ++ parts.map (Part.lines (columnOf parts))
  "\n".intercalate (usage grammar :: blocks)

end PromptWeave.Command.Help
