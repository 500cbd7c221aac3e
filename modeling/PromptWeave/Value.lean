/-
**Values.**

Variables, settings and data files hold values: atoms, sequences, mappings and sets. A mapping is
its entries in order of first insertion. Its keys are atoms or tuples of keys, and two keys are the
same when they are equal as data: a truth value equals nought or one, a fraction that is an integer
equals that integer, and moments are equal when they are the same instant. A collection may stand
inside itself; then it has a label, and the places where it stands again name the label. Main
statements:

* `Key.same_refl`: a key is the same as itself;
* `Value.kind`: the name of a value's kind in messages.
-/

import PromptWeave.Calendar
import PromptWeave.Number.Shortest

namespace PromptWeave

open Text

/-- Values without parts. -/
inductive Atom
  | null
  | bool (value : Bool)
  | integer (value : Int)
  | fraction (value : Binary64)
  | string (value : String)
  | date (value : Date)
  | moment (value : Moment)
  | bytes (value : List UInt8)
deriving DecidableEq, Repr

/-- The keys of mappings and the members of sets. -/
inductive Key
  | atom (value : Atom)
  | tuple (items : List Key)
deriving Repr

/-- Values. A frozen sequence is a tuple, and a frozen mapping is a view that cannot be changed. -/
inductive Value
  | atom (value : Atom)
  | sequence (frozen : Bool) (items : List Value)
  | mapping (frozen : Bool) (entries : List (Key × Value))
  | set (members : List Key)
  /-- A collection that stands somewhere inside itself, under a label. -/
  | loop (label : Nat) (inside : Value)
  /-- The collection of a label around this place. -/
  | again (label : Nat)
deriving Repr

/-! ### Sameness of keys -/

/-- The integer that an atom counts as, if it counts as one; otherwise the atom itself. -/
def Atom.canonical : Atom → Atom
  | .bool value => .integer (if value then 1 else 0)
  | .fraction value =>
    match value.toInt? with
    | some whole => .integer whole
    | none => .fraction value
  | other => other

/-- Whether two atoms are equal as data. An undefined fraction equals those of its own mark. -/
def Atom.same : Atom → Atom → Bool
  | .moment first, .moment second => first.same second
  | first, second => first.canonical == second.canonical

/-- An atom is the same as itself. -/
theorem Atom.same_refl (atom : Atom) : Atom.same atom atom = true := by
  cases atom <;> simp [Atom.same, Moment.same_refl]

mutual

/-- Whether two keys are equal as data. -/
def Key.same : Key → Key → Bool
  | .atom first, .atom second => Atom.same first second
  | .tuple first, .tuple second => Key.sameAll first second
  | _, _ => false

/-- Whether two rows of keys are equal as data, one by one. -/
def Key.sameAll : List Key → List Key → Bool
  | [], [] => true
  | first :: firsts, second :: seconds => Key.same first second && Key.sameAll firsts seconds
  | _, _ => false

end

mutual

/-- A key is the same as itself. -/
theorem Key.same_refl : (key : Key) → Key.same key key = true
  | .atom value => by simp [Key.same, Atom.same_refl value]
  | .tuple items => by simp [Key.same, Key.sameAll_refl items]

theorem Key.sameAll_refl : (keys : List Key) → Key.sameAll keys keys = true
  | [] => by simp [Key.sameAll]
  | key :: keys => by simp [Key.sameAll, Key.same_refl key, Key.sameAll_refl keys]

end

namespace Key

/-- The key that is a given text. -/
def ofText (text : Text) : Key := .atom (.string (String.ofList text))

/-- The key that is a given string. -/
def ofString (name : String) : Key := .atom (.string name)

end Key

mutual

/-- A key as a value. -/
def Key.toValue : Key → Value
  | .atom value => .atom value
  | .tuple items => .sequence true (Key.toValues items)

/-- A row of keys as values. -/
def Key.toValues : List Key → List Value
  | [] => []
  | key :: keys => Key.toValue key :: Key.toValues keys

end

/-- The entries of a mapping. -/
abbrev Mapping := Entries Key Value

namespace Mapping

/-- The value stored under a key. -/
def get? (key : Key) (entries : Mapping) : Option Value := Entries.get? Key.same key entries

/-- The value stored under a name. -/
def named? (name : String) (entries : Mapping) : Option Value := get? (Key.ofString name) entries

/-- Stores a value under a key. -/
def put (key : Key) (value : Value) (entries : Mapping) : Mapping :=
  Entries.put Key.same key value entries

/-- The entries of a list of pairs, the last value of a key winning. -/
def ofPairs (pairs : List (Key × Value)) : Mapping := Entries.ofPairs Key.same pairs

end Mapping

namespace Value

/-- No value. -/
def null : Value := .atom .null

/-- A truth value. -/
def bool (value : Bool) : Value := .atom (.bool value)

/-- An integer. -/
def integer (value : Int) : Value := .atom (.integer value)

/-- A string. -/
def string (value : String) : Value := .atom (.string value)

/-- A text as a string. -/
def text (value : Text) : Value := .atom (.string (String.ofList value))

/-- A sequence that can be changed. -/
def list (items : List Value) : Value := .sequence false items

/-- A mapping that can be changed, with strings as keys. -/
def record (fields : List (String × Value)) : Value :=
  .mapping false (fields.map fun field => (Key.ofString field.1, field.2))

/-- Whether a value is no value. -/
def isNull : Value → Bool
  | .atom .null => true
  | _ => false

/-- Whether a value counts as true: noughts, empty texts and empty collections do not. -/
def isTruthy : Value → Bool
  | .atom .null => false
  | .atom (.bool value) => value
  | .atom (.integer value) => value != 0
  | .atom (.fraction value) => !value.isNought
  | .atom (.string value) => value != ""
  | .atom (.date _) => true
  | .atom (.moment _) => true
  | .atom (.bytes value) => !value.isEmpty
  | .sequence _ items => !items.isEmpty
  | .mapping _ entries => !entries.isEmpty
  | .set members => !members.isEmpty
  | .loop _ inside => isTruthy inside
  | .again _ => true

end Value

/-- The name of an atom's kind in messages. -/
def Atom.kind : Atom → String
  | .null => "NoneType"
  | .bool _ => "bool"
  | .integer _ => "int"
  | .fraction _ => "float"
  | .string _ => "str"
  | .date _ => "date"
  | .moment _ => "datetime"
  | .bytes _ => "bytes"

/-- The name of a key's kind in messages. -/
def Key.kind : Key → String
  | .atom value => value.kind
  | .tuple _ => "tuple"

/-- The name of a value's kind in messages. -/
def Value.kind : Value → String
  | .atom value => value.kind
  | .sequence false _ => "list"
  | .sequence true _ => "tuple"
  | .mapping false _ => "dict"
  | .mapping true _ => "mappingproxy"
  | .set _ => "set"
  | .loop _ inside => kind inside
  | .again _ => "list"

mutual

/-- A value as a key. What can be changed cannot be one, and then the first such kind in it is
given. -/
def Value.toKey : Value → Except String Key
  | .atom value => .ok (.atom value)
  | .sequence true items => (Value.toKeys items).map Key.tuple
  | .loop _ inside => Value.toKey inside
  | other => .error other.kind

/-- A row of values as keys. -/
def Value.toKeys : List Value → Except String (List Key)
  | [] => .ok []
  | value :: values =>
    match Value.toKey value with
    | .error kind => .error kind
    | .ok key => (Value.toKeys values).map (key :: ·)

end

end PromptWeave
