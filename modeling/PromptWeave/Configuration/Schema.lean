/-
**What a configuration may hold.**

A schema says of what kind a value is and which settings a section has. A configuration may violate
its schema in several ways, of which one is reported: one that is not inside a section rather than
one that is, then one of a later name. Main statements:

* `Schema.violations`: all violations of a schema by a value;
* `Schema.accepts`: whether there is none;
* `Schema.check`: the failure that reports a violation;
* `Schema.configuration`: the schema of configurations, and `Schema.document`, its written form.
-/

import PromptWeave.Failure
import PromptWeave.Text.Order
import PromptWeave.Value.Loop

namespace PromptWeave

open Text

/-- What a value may be. -/
inductive Schema
  /-- A mapping with no other entries than these. -/
  | fields (properties : List (String × Schema))
  /-- A string or no value. -/
  | optionalString
  /-- An integer that is not less than a minimum. -/
  | integer (minimum : Int)
  | boolean
deriving Repr

namespace Schema

/-- The kinds of values that a schema allows. -/
def kinds : Schema → List String
  | fields _ => ["object"]
  | optionalString => ["string", "null"]
  | integer _ => ["integer"]
  | boolean => ["boolean"]

/-- Whether a value is of a kind that a schema allows. A fraction that is an integer is one. -/
def isOfKind (schema : Schema) (value : Value) : Bool :=
  match schema, value.opened with
  | fields _, .mapping false _ => true
  | optionalString, .atom (.string _) => true
  | optionalString, .atom .null => true
  | integer _, .atom (.integer _) => true
  | integer _, .atom (.fraction value) => value.isIntegral
  | boolean, .atom (.bool _) => true
  | _, _ => false

/-- Whether a value is a number below a minimum. -/
def isBelow (minimum : Int) : Value → Bool
  | .atom (.integer value) => value < minimum
  | .atom (.fraction value) => value.ltInt minimum
  | _ => false

/-- A violation of a schema: where it is, and how it is worded. -/
structure Violation where
  location : List String
  words : Except NumeralFault Text

/-- The wording of a value of the wrong kind. -/
def kindWords (schema : Schema) (value : Value) : Except NumeralFault Text := do
  let shown ← value.literal
  let kinds := schema.kinds.map fun kind => quoted kind.toList
  return shown ++ " is not of type ".toList ++ joinWith [',', ' '] kinds

/-- The wording of a value below a minimum. -/
def minimumWords (minimum : Int) (value : Value) : Except NumeralFault Text := do
  let shown ← value.literal
  return shown ++ " is less than the minimum of ".toList ++ Numeral.ofInt minimum

/-- The wording of entries that do not belong into a mapping, in the order of their texts. -/
def surplusWords (keys : List Key) : Except NumeralFault Text := do
  let texts ← keys.mapM fun key => key.toValue.display
  let ordered := (sortBy (·.1) (texts.zip keys)).map (·.2)
  let shown ← ordered.mapM Key.literal
  let verb := if keys.length = 1 then " was" else " were"
  return "Additional properties are not allowed (".toList ++ joinWith [',', ' '] shown
    ++ verb.toList ++ " unexpected)".toList

/-- The violation of a value of the wrong kind, if it is one. -/
def kindViolations (schema : Schema) (location : List String) (value : Value) : List Violation :=
  if schema.isOfKind value then [] else [⟨location, schema.kindWords value⟩]

/-- The violation of entries that do not belong into a mapping, if there are any. -/
def surplusViolations (names : List String) (location : List String) (value : Value) :
    List Violation :=
  match value.opened with
  | .mapping false entries =>
    let isKnown := fun key => names.any fun name => Key.same key (Key.ofString name)
    let surplus := (entries.map (·.1)).filter fun key => !isKnown key
    if surplus.isEmpty then [] else [⟨location, surplusWords surplus⟩]
  | _ => []

mutual

/-- All violations of a schema by a value at a location. -/
def violations (location : List String) (value : Value) : Schema → List Violation
  | fields properties =>
    kindViolations (fields properties) location value
      ++ propertyViolations location value properties
      ++ surplusViolations (properties.map (·.1)) location value
  | integer minimum =>
    kindViolations (integer minimum) location value
      ++ (if isBelow minimum value then [⟨location, minimumWords minimum value⟩] else [])
  | optionalString => kindViolations optionalString location value
  | boolean => kindViolations boolean location value

/-- All violations by the entries of a value. -/
def propertyViolations (location : List String) (value : Value) :
    List (String × Schema) → List Violation
  | [] => []
  | (name, schema) :: properties =>
    let here := match value.opened with
      | .mapping false entries =>
        match Mapping.named? name entries with
        | some item => violations (location ++ [name]) item schema
        | none => []
      | _ => []
    here ++ propertyViolations location value properties

end

/-- Whether a value violates a schema nowhere. -/
def accepts (schema : Schema) (value : Value) : Bool := (schema.violations [] value).isEmpty

/-! ### The violation that is reported -/

/-- Whether a violation is to be reported rather than another one that comes before it. -/
def Violation.outranks (violation before : Violation) : Bool :=
  violation.location.length < before.location.length
    || (violation.location.length == before.location.length
      && decide (before.location < violation.location))

/-- The violation to be reported, given one before the others. -/
def Violation.leading (first : Violation) (others : List Violation) : Violation :=
  others.foldl (fun best other => if other.outranks best then other else best) first

/-- The text of a location. -/
def locationText (location : List String) : String :=
  if location = [] then "<root>" else ".".intercalate location

/-- The failure that reports a violation. -/
def Violation.failure (location : List String) (words : Text) : Failure :=
  let place := locationText location
  let words := String.ofList words
  .setting s!"Invalid configuration at {place}: {words}" place

/-- Reports a violation of a schema by a value. All violations are worded before one is chosen. -/
def check (schema : Schema) (value : Value) : Except Fault Unit :=
  match schema.violations [] value with
  | [] => .ok ()
  | first :: others =>
    match (first :: others).mapM (·.words) with
    | .error fault => .error (.host (.numeral fault))
    | .ok _ =>
      let leading := Violation.leading first others
      match leading.words with
      | .error fault => .error (.host (.numeral fault))
      | .ok words => .error (.failure (Violation.failure leading.location words))

/-! ### The schema of configurations -/

/-- The schema of configurations. -/
def configuration : Schema :=
  .fields
    [("resolution", .fields
      [("base_dir", .optionalString), ("max_depth", .integer 1), ("trim_documents", .boolean)]),
    ("interpolation", .fields [("json_indent", .integer 0)])]

/-- The names of kinds in a written schema: a single one stands alone. -/
def kindsValue (kinds : List String) : Value :=
  match kinds with
  | [kind] => .string kind
  | kinds => .list (kinds.map Value.string)

mutual

/-- The written form of a schema. -/
def toValue : Schema → Value
  | fields properties =>
    .record [("type", kindsValue ["object"]), ("properties", .mapping false (toEntries properties)),
      ("additionalProperties", .bool false)]
  | integer minimum => .record [("type", kindsValue ["integer"]), ("minimum", .integer minimum)]
  | optionalString => .record [("type", kindsValue ["string", "null"])]
  | boolean => .record [("type", kindsValue ["boolean"])]

/-- The written forms of the schemas of entries. -/
def toEntries : List (String × Schema) → Mapping
  | [] => []
  | (name, schema) :: properties => (Key.ofString name, toValue schema) :: toEntries properties

end

/-- The schema of configurations as a document with a title. -/
def document : Value :=
  let heading := Failure.fields
    [("$schema", .string "http://json-schema.org/draft-07/schema#"),
      ("title", .string "fml configuration")]
  match configuration.toValue with
  | .mapping frozen entries => .mapping frozen (heading ++ entries)
  | other => other

end Schema

end PromptWeave
