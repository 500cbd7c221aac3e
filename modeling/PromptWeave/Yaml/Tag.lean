/-
**What the scalars of a data file mean.**

A tag says what a node is. A plain scalar without a tag has the tag that its text suggests. Main
definitions:

* `Tag.ofAddress`, `Tag.ofPlain`: the tag of an address and of a plain scalar;
* `Tag.atom`: the atom that a scalar with a tag stands for.
-/

import PromptWeave.Text.Case
import PromptWeave.Yaml.Timestamp

namespace PromptWeave.Yaml

/-- What a node is. -/
inductive Tag
  | null
  | bool
  | integer
  | fraction
  | binary
  | timestamp
  | orderedMap
  | pairs
  | set
  | string
  | sequence
  | mapping
  /-- The mark of mappings that are merged into another one. -/
  | merge
  /-- The mark of a mapping's main value. -/
  | main
  /-- A tag without a meaning. -/
  | unknown
deriving DecidableEq, Repr

namespace Tag

/-- Whether the nodes of a tag are atoms. -/
def isAtomic : Tag → Bool
  | null | bool | integer | fraction | binary | timestamp | string => true
  | _ => false

/-- What the addresses of the known tags begin with. -/
def known : Text := "tag:yaml.org,2002:".toList

/-- The tags by the end of their addresses. -/
def names : List (String × Tag) :=
  [("null", .null), ("bool", .bool), ("int", .integer), ("float", .fraction),
    ("binary", .binary), ("timestamp", .timestamp), ("omap", .orderedMap), ("pairs", .pairs),
    ("set", .set), ("str", .string), ("seq", .sequence), ("map", .mapping), ("merge", .merge),
    ("value", .main)]

/-- The tag of an address. -/
def ofAddress (address : Text) : Tag :=
  match names.find? fun entry => known ++ entry.1.toList == address with
  | some (_, tag) => tag
  | none => .unknown

/-! ### Plain scalars -/

/-- The text after a sign, if there is one. -/
def unsigned : Text → Text
  | c :: rest => if c = '+' ∨ c = '-' then rest else c :: rest
  | [] => []

/-- Whether a text is not empty and holds only characters of a class. -/
def isRow (isIn : Char → Bool) (text : Text) : Bool := !text.isEmpty && text.all isIn

/-- A digit or an underscore. -/
def isSpaced (c : Char) : Bool := c.isDigit || c == '_'

/-- Whether a text is a row of digits and underscores that begins with a digit. -/
def isSpacedRow (text : Text) : Bool :=
  (text.head?.any Char.isDigit) && text.all isSpaced

/-- Whether a text is one or two digits with a value below sixty. -/
def isSixtieth : Text → Bool
  | [c] => c.isDigit
  | [c, d] => '0' ≤ c && c ≤ '5' && d.isDigit
  | _ => false

/-- Whether a text is a numeral to base sixty, of at least two parts. -/
def isSexagesimal (isFirst : Text → Bool) (text : Text) : Bool :=
  match Text.splitOn ':' text with
  | first :: second :: rest => isFirst first && (second :: rest).all isSixtieth
  | _ => false

/-- Whether a row of digits and underscores does not begin with nought. -/
def isPositiveRow (text : Text) : Bool := isSpacedRow text && text.head? != some '0'

/-- Whether a plain scalar is an integer. -/
def isInteger (text : Text) : Bool :=
  match unsigned text with
  | ['0'] => true
  | '0' :: 'b' :: rest => isRow (fun c => c == '0' || c == '1' || c == '_') rest
  | '0' :: 'x' :: rest => isRow (fun c => Numeral.digitValue c < 16 || c == '_') rest
  | '0' :: rest => isRow (fun c => Numeral.digitValue c < 8 || c == '_') rest
  | row => isPositiveRow row || isSexagesimal isPositiveRow row

/-- Whether a text is empty or an exponent with a sign. -/
def isExponent : Text → Bool
  | [] => true
  | mark :: sign :: rest =>
    (mark == 'e' || mark == 'E') && (sign == '+' || sign == '-') && isRow Char.isDigit rest
  | _ => false

/-- Whether a plain scalar is a fraction. -/
def isFraction (text : Text) : Bool :=
  let body := unsigned text
  let whole := body.takeWhile (· != '.')
  match body.dropWhile (· != '.') with
  | [] => false
  | _ :: rest =>
    let tail := rest.dropWhile isSpaced
    if whole = [] then
      ([".inf", ".Inf", ".INF"].any fun name => name.toList == body)
        || ([".nan", ".NaN", ".NAN"].any fun name => name.toList == text)
        || (text.head? == some '.' && (rest.head?.any Char.isDigit) && isExponent tail)
    else if isSpacedRow whole then isExponent tail
    else isSexagesimal isSpacedRow whole && tail.isEmpty

/-- The words for no value. -/
def nullWords : List String := ["~", "null", "Null", "NULL", ""]

/-- The words for truth values. -/
def boolWords : List String :=
  ["yes", "Yes", "YES", "no", "No", "NO", "true", "True", "TRUE", "false", "False", "FALSE",
    "on", "On", "ON", "off", "Off", "OFF"]

/-- A text without a line break at its end. -/
def withoutFinalBreak (text : Text) : Text :=
  if text.getLast? = some '\n' then text.dropLast else text

/-- The tag of a plain scalar. -/
def ofPlain (text : Text) : Tag :=
  if text = ['\n'] then .string
  else
    let body := withoutFinalBreak text
    let word := String.ofList body
    if nullWords.contains word then .null
    else if boolWords.contains word then .bool
    else if isFraction body then .fraction
    else if isInteger body then .integer
    else if word = "<<" then .merge
    else if word = "=" then .main
    else if Timestamp.isBare body then .timestamp
    else .string

/-! ### The atoms of scalars -/

/-- A sign and the text after it; an empty text has neither. -/
def signed (text : Text) : Except HostFault (Bool × Text) :=
  if text = [] then .error (.noSuchItem "string") else .ok (Numeral.sign text)

/-- An integer numeral as a value. -/
def numeral (base : Nat) (text : Text) : Except HostFault Int :=
  (Numeral.read base text).mapError HostFault.numeral

/-- A number with a sign. -/
def withSign (isNegative : Bool) (number : Int) : Int := if isNegative then -number else number

/-- The integer of a scalar. -/
def integerOf (text : Text) : Except HostFault Int := do
  let (isNegative, row) ← signed (text.filter (· != '_'))
  withSign isNegative <$> match row with
    | ['0'] => pure 0
    | '0' :: 'b' :: rest => numeral 2 rest
    | '0' :: 'x' :: rest => numeral 16 rest
    | '0' :: _ => numeral 8 row
    | [] => throw (.noSuchItem "string")
    | _ =>
      if row.contains ':' then do
        let parts ← (Text.splitOn ':' row).mapM (numeral 10)
        return parts.foldl (fun total part => total * 60 + part) 0
      else numeral 10 row

/-- A decimal fraction as a value. -/
def decimal (text : Text) : Except HostFault Binary64 :=
  (Binary64.read text).mapError HostFault.numeral

/-- The sum of the parts of a numeral to base sixty, the last part first. -/
def sixtieths (total : Binary64) (base : Nat) : List Binary64 → Except HostFault Binary64
  | [] => .ok total
  | part :: parts =>
    match Binary64.ofInt base with
    | .infinite _ => .error .tooLargeForFraction
    | scale => sixtieths (total.add (part.mul scale)) (base * 60) parts

/-- The fraction of a scalar. The word for an undefined value means one and the same; a value that
comes out undefined gets a mark. -/
def fractionOf (mark : Nat) (text : Text) : Except HostFault Binary64 := do
  let (isNegative, row) ← signed (Text.lower (text.filter (· != '_')))
  let magnitude ←
    if row = ".inf".toList then pure (Binary64.infinite false)
    else if row = ".nan".toList then pure (Binary64.undefined 0)
    else if row.contains ':' then do
      let parts ← (Text.splitOn ':' row).mapM decimal
      Binary64.marked mark <$> sixtieths (Binary64.nought false) 1 parts.reverse
    else Binary64.marked mark <$> decimal row
  return if isNegative then magnitude.negate else magnitude

/-- The truth value of a scalar. -/
def truthOf (text : Text) : Except HostFault Bool :=
  let word := String.ofList (Text.lower text)
  if ["yes", "true", "on"].contains word then .ok true
  else if ["no", "false", "off"].contains word then .ok false
  else .error (.notTruth word)

/-- The value of a character of binary data, six bits. -/
def sixBits? (c : Char) : Option Nat :=
  let code := c.toNat
  if 'A' ≤ c ∧ c ≤ 'Z' then some (code - 65)
  else if 'a' ≤ c ∧ c ≤ 'z' then some (code - 71)
  else if '0' ≤ c ∧ c ≤ '9' then some (code + 4)
  else if c = '+' then some 62
  else if c = '/' then some 63
  else none

/-- The bytes of binary data in characters of six bits after some of them: `held` bits are left of
the characters so far, `place` of which stand in the group, and `pads` marks of filling follow the
last one. Other characters do not count. -/
def bytesFrom (bytes : List UInt8) (held place pads : Nat) : Text → Option (List UInt8)
  | [] => if place = 0 then some bytes else none
  | c :: rest =>
    if c = '=' then
      if 2 ≤ place then
        if 4 ≤ place + (pads + 1) then some bytes else bytesFrom bytes held place (pads + 1) rest
      else bytesFrom bytes held place pads rest
    else match sixBits? c with
      | none => bytesFrom bytes held place pads rest
      | some bits =>
        let all := held * 64 + bits
        if place = 0 then bytesFrom bytes bits 1 0 rest
        else if place = 1 then
          bytesFrom (bytes ++ [(all / 16).toUInt8]) (all % 16) 2 0 rest
        else if place = 2 then
          bytesFrom (bytes ++ [(all / 4).toUInt8]) (all % 4) 3 0 rest
        else bytesFrom (bytes ++ [all.toUInt8]) 0 0 0 rest

/-- The bytes of binary data. -/
def bytesOf (text : Text) : Except HostFault (List UInt8) :=
  if text.all fun c => c.toNat < 128 then
    match bytesFrom [] 0 0 0 text with
    | some bytes => .ok bytes
    | none => .error .malformedData
  else .error .malformedData

/-- The timestamp of a scalar. -/
def timestampOf (text : Text) : Except HostFault Atom :=
  match Timestamp.read? (withoutFinalBreak text) with
  | some stamp => stamp.toAtom.mapError HostFault.calendar
  | none => .error (.noProperty Atom.null.kind "groupdict")

/-- The atom that a scalar with a tag stands for, if the tag is one of atoms. An undefined fraction
gets a mark. -/
def atom (mark : Nat) (text : Text) : Tag → Except HostFault Atom
  | .null => .ok .null
  | .bool => (truthOf text).map Atom.bool
  | .integer => (integerOf text).map Atom.integer
  | .fraction => (fractionOf mark text).map Atom.fraction
  | .binary => (bytesOf text).map Atom.bytes
  | .timestamp => timestampOf text
  | .string => .ok (.string (String.ofList text))
  | _ => .error .malformedData

end Tag

end PromptWeave.Yaml
