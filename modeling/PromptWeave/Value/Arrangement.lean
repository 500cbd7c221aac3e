/-
**The order of the members of a set.**

A set of numbers has a row of places, at least eight and otherwise the least power of two that is
more than twice the number of members. A member takes the place of its residue modulo the number of
places. If that is taken, it takes the next free place of a short run where the row is long enough,
and otherwise jumps on to another place. The members are shown by place. A set with another member
keeps the order in which its members came. Main definitions:

* `Atom.residue?`: the number that places an atom;
* `Key.arranged`: the members of a set in their order.
-/

import PromptWeave.Value

namespace PromptWeave

/-- The modulus of residues, a prime. -/
def residueModulus : Nat := Nat.pow 2 61 - 1

/-- The residue of a number of this sign and this residue of its magnitude, other than -1. -/
def signedResidue (negative : Bool) (magnitude : Nat) : Int :=
  let residue : Int := if negative then -(magnitude : Int) else magnitude
  if residue = -1 then -2 else residue

/-- The residue of a fraction that has a value. As a power of two is the same as one 61 powers
further, the exponent counts modulo 61. -/
def Binary64.residue? : Binary64 → Option Int
  | .undefined _ => none
  | .infinite negative => some (signedResidue negative 314159)
  | .finite negative significand exponent =>
    let shift := (exponent % 61).toNat
    some (signedResidue negative (significand * Nat.pow 2 shift % residueModulus))

/-- The residue of a number. Equal numbers have equal residues. -/
def Atom.residue? (atom : Atom) : Option Int :=
  match atom.canonical with
  | .integer value => some (signedResidue (value < 0) (value.natAbs % residueModulus))
  | .fraction value => value.residue?
  | _ => none

/-- The residue of a key that is a number, as a natural of 64 bits. -/
def Key.residue? : Key → Option Nat
  | .atom value => value.residue?.map fun residue => (residue % Int.ofNat (Nat.pow 2 64)).toNat
  | .tuple _ => none

namespace Arrangement

/-- The number of places for so many members. -/
def size (members : Nat) : Nat :=
  if members < 5 then 8 else Nat.pow 2 (Nat.log2 (2 * members) + 1)

/-- The places that are tried in one run from a place on. -/
def run (size place : Nat) : List Nat :=
  if place + 9 < size then (List.range 10).map (place + ·) else [place]

/-- The first free place of the runs from a place on. Each jump takes five more bits off the
residue, and once these are used up the jumps reach every place. -/
def free? (row : Array (Option Key)) : (fuel : Nat) → (place rest : Nat) → Option Nat
  | 0, _, _ => none
  | fuel + 1, place, rest =>
    match (run row.size place).find? fun place => row[place]?.any Option.isNone with
    | some place => some place
    | none =>
      let rest := rest / 32
      free? row fuel ((place * 5 + 1 + rest) % row.size) rest

/-- Puts a member with a residue into its place. -/
def place (row : Array (Option Key)) (member : Key × Nat) : Array (Option Key) :=
  match free? row (row.size + 14) (member.2 % row.size) member.2 with
  | some place => row.setIfInBounds place (some member.1)
  | none => row

end Arrangement

/-- The members of a set in their order. -/
def Key.arranged (members : List Key) : List Key :=
  match members.mapM fun key => key.residue?.map (key, ·) with
  | none => members
  | some pairs =>
    let row := Array.replicate (Arrangement.size members.length) none
    (pairs.foldl Arrangement.place row).toList.filterMap id

end PromptWeave
