/-
**Paths.**

A path is an anchor and a row of names. Reading one drops empty names and single dots, so that
different spellings which differ only in these are one path; two dots are kept. A path that begins
with exactly two slashes has an anchor of its own. Main statements:

* `Path.parse`: the path of a spelling;
* `Path.text`: the spelling of a path.
-/

import PromptWeave.Text.Printable

namespace PromptWeave

open Text

/-- Where a path begins. -/
inductive Anchor
  /-- At the current directory. -/
  | here
  /-- At the root. -/
  | root
  /-- At the root, spelled with two slashes. -/
  | doubleRoot
deriving DecidableEq, Repr

/-- A path: its anchor and its names. -/
structure Path where
  anchor : Anchor
  parts : List String
deriving DecidableEq, Repr

namespace Path

/-- The names of a spelling: the pieces between slashes but for empty ones and single dots. -/
def names (spelling : Text) : List String :=
  ((splitOn '/' spelling).filter fun piece => piece ≠ [] ∧ piece ≠ ['.']).map String.ofList

/-- The anchor of a spelling. -/
def anchorOf : Text → Anchor
  | '/' :: '/' :: '/' :: _ => .root
  | '/' :: '/' :: _ => .doubleRoot
  | '/' :: _ => .root
  | _ => .here

/-- The path of a spelling. -/
def parse (spelling : String) : Path := ⟨anchorOf spelling.toList, names spelling.toList⟩

/-- The spelling of an anchor. -/
def anchorText : Anchor → String
  | .here => ""
  | .root => "/"
  | .doubleRoot => "//"

/-- The spelling of a path; the path without names is a dot. -/
def text (path : Path) : String :=
  if path.anchor = .here ∧ path.parts = [] then "."
  else anchorText path.anchor ++ "/".intercalate path.parts

instance : ToString Path := ⟨text⟩

/-- Whether a path begins at the root. -/
def isAbsolute (path : Path) : Bool := path.anchor != .here

/-- A path from another one on; an absolute path replaces it. -/
def join (base path : Path) : Path :=
  if path.isAbsolute then path else ⟨base.anchor, base.parts ++ path.parts⟩

/-- A path from another one on, as an operator on a name. -/
def child (path : Path) (name : String) : Path := ⟨path.anchor, path.parts ++ [name]⟩

/-- The path without its last name. -/
def parent (path : Path) : Path := ⟨path.anchor, path.parts.dropLast⟩

/-- The last name of a path, or nothing. -/
def name (path : Path) : String := path.parts.getLast?.getD ""

/-- The path with its spelling between quotes. -/
def quotedText (path : Path) : String := String.ofList (quoted path.text.toList)

/-- Paths with arrows between them. -/
def chainText (paths : List Path) : String := " -> ".intercalate (paths.map text)

@[simp] theorem join_of_isAbsolute {base path : Path} (absolute : path.isAbsolute = true) :
    join base path = path := by
  simp [join, absolute]

@[simp] theorem parent_child (path : Path) (name : String) : (path.child name).parent = path := by
  simp [child, parent]

end Path

end PromptWeave
