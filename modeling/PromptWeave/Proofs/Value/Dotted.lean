/-
**Dotted names.**

Every part of nested values has a name: the keys and positions of a way to it, joined by dots. If no key on the
way holds a dot, the name is cut into just these parts, a key made of digits is looked for in a mapping and a
position in a sequence, so looking the name up comes to the part. A key of the variables that holds a dot itself
stands only for its own name. Main statements:

* `Numeral.read_digits`: the decimal digits of a position are read as the position;
* `Value.Leads` and `Value.walk_of_leads`: a way through nested values and the search for its parts;
* `Mapping.lookup_put_of_dotted`: what a key with a dot changes;
* `Mapping.lookup_joined`: looking joined names up.
-/

import Mathlib
import PromptWeave.Proofs.Value.Lookup
import PromptWeave.Proofs.Value.Paths

namespace PromptWeave

open Text

/-! ### Positions in decimal digits -/

namespace Numeral

/-- A number below a power of ten has no more digits than the power has noughts. -/
theorem length_digits_le {number bound : Nat} (positive : 0 < bound) (small : number < 10 ^ bound) :
    (digits number).length ≤ bound := by
  rw [digits]
  split
  · exact positive
  · rename_i large
    obtain ⟨rest, rfl⟩ := Nat.exists_eq_add_of_lt positive
    rw [Nat.zero_add, Nat.pow_succ] at small
    have inhabited : 0 < rest := by
      rcases Nat.eq_zero_or_pos rest with rfl | some
      · omega
      · exact some
    have fewer : (digits (number / 10)).length ≤ rest := length_digits_le inhabited (by omega)
    rw [List.length_append, List.length_singleton]
    omega
termination_by number
decreasing_by omega

/-- **The digits of a number are read as the number**, if they are few enough. -/
theorem read_digits {number : Nat} (few : (digits number).length ≤ digitLimit) :
    read 10 (digits number) = .ok number := by
  rw [read_row (digits_allDigits number) (digits_ne_nil number), if_neg (Nat.not_lt.mpr few), value_digits]

theorem all_isDigit_digits (number : Nat) : (digits number).all isDigit = true := by
  refine List.all_eq_true.mpr fun c inside => ?_
  have digit := digits_allDigits number c inside
  exact (isDigit_iff_of_small (Nat.lt_of_le_of_lt (toNat_of_isDigit digit).2 (by decide))).mpr digit

theorem dot_notMem_digits (number : Nat) : '.' ∉ digits number := fun inside =>
  absurd (digits_allDigits number '.' inside) (by decide)

end Numeral

/-! ### Ways through nested values -/

namespace Value

/-- The most items that a sequence can have; so the digits of a position are few. -/
def longest : Nat := 9223372036854775807

/-- **A way through nested values**: by keys without dots through mappings, and by positions in decimal digits
through sequences. -/
inductive Leads : List Text → Value → Value → Prop
  | stay (value : Value) : Leads [] value value
  | key {parts : List Text} {value inner last : Value} {frozen : Bool} {entries : Mapping} {key : Text}
    (met : value.opened = .mapping frozen entries) (undotted : '.' ∉ key)
    (found : Mapping.get? (Key.ofText key) entries = some inner) (more : Leads parts inner last) :
    Leads (key :: parts) value last
  | item {parts : List Text} {value inner last : Value} {frozen : Bool} {items : List Value} {position : Nat}
    (met : value.opened = .sequence frozen items) (bounded : items.length ≤ longest)
    (found : items[position]? = some inner) (more : Leads parts inner last) :
    Leads (Numeral.digits position :: parts) value last

variable {parts : List Text} {value last : Value}

/-- No part of a way holds a dot. -/
theorem Leads.undotted (leads : Leads parts value last) : ∀ part ∈ parts, '.' ∉ part := by
  induction leads with
  | stay value => exact fun _ none => absurd none List.not_mem_nil
  | key _ undotted _ _ ih => exact List.forall_mem_cons.mpr ⟨undotted, ih⟩
  | item _ _ _ _ ih => exact List.forall_mem_cons.mpr ⟨Numeral.dot_notMem_digits _, ih⟩

/-- The digits of a position lead to the item there. -/
theorem step_digits {frozen : Bool} {items : List Value} {position : Nat} {inner : Value}
    (met : value.opened = .sequence frozen items) (bounded : items.length ≤ longest)
    (found : items[position]? = some inner) : value.step (Numeral.digits position) = .ok (some inner) := by
  have inside : position < items.length := (List.getElem?_eq_some_iff.mp found).1
  have below : position < 10 ^ 19 := (inside.trans_le bounded).trans (by decide)
  have few : (Numeral.digits position).length ≤ Numeral.digitLimit :=
    (Numeral.length_digits_le (by decide) below).trans (by decide)
  unfold step
  rw [met]
  dsimp only
  rw [if_pos ⟨Numeral.digits_ne_nil _, Numeral.all_isDigit_digits _⟩, Numeral.read_digits few]
  dsimp only [Except.map]
  rw [if_neg (Int.not_lt.mpr (Int.natCast_nonneg position)), Int.toNat_natCast, found]

/-- **The search for the parts of a way comes to its end.** -/
theorem walk_of_leads (leads : Leads parts value last) : walk parts value = .ok (some last) := by
  induction leads with
  | stay value => rfl
  | key met _ found _ ih =>
    rw [walk, step, met]
    dsimp only
    rw [found]
    exact ih
  | item met bounded found _ ih =>
    rw [walk, step_digits met bounded found]
    exact ih

end Value

/-! ### Names among variables -/

namespace Mapping

variable {bindings : Mapping}

/-- No key of a mapping is a name with a dot. -/
def Undotted (bindings : Mapping) : Prop :=
  ∀ entry ∈ bindings, ∀ name, entry.1 = Key.ofText name → '.' ∉ name

theorem Undotted.of_get? (undotted : bindings.Undotted) {name : Text} {value : Value}
    (found : get? (Key.ofText name) bindings = some value) : '.' ∉ name := by
  induction bindings with
  | nil => cases found
  | cons entry bindings ih =>
    obtain ⟨first, later⟩ := List.forall_mem_cons.mp undotted
    unfold get? at found
    rw [Entries.get?] at found
    split at found
    · rename_i here
      exact first name (Key.same_ofString_iff.mp here)
    · exact ih later found

/-- **A joined name is looked up part by part**, or it is its only part. -/
theorem lookup_of_leads (undotted : bindings.Undotted) {parts : List Text} {value : Value} (nonempty : parts ≠ [])
    (leads : Value.Leads parts (.mapping true bindings) value) :
    lookup bindings (joinWith ['.'] parts) = .ok (some value) := by
  have pieces := splitOn_joinWith nonempty leads.undotted
  have walked := Value.walk_of_leads leads
  unfold lookup
  cases found : get? (Key.ofText (joinWith ['.'] parts)) bindings with
  | none =>
    dsimp only
    rw [pieces, walked]
  | some item =>
    have single := splitOn_of_notMem (undotted.of_get? found)
    rw [pieces] at single
    rw [single, Value.walk, Value.step] at walked
    dsimp only [Value.opened] at walked
    rw [found] at walked
    exact walked

/-- **A key with a dot stands for its own name only.** -/
theorem lookup_put_of_dotted {name : Text} (dotted : '.' ∈ name) (item : Value) {other : Text}
    (apart : other ≠ name) : lookup (put (Key.ofText name) item bindings) other = lookup bindings other := by
  have elsewhere : ∀ {text : Text}, text ≠ name →
      get? (Key.ofText text) (put (Key.ofText name) item bindings) = get? (Key.ofText text) bindings :=
    fun different => get?_put_of_ne ⟨_, rfl⟩ (fun same => different
      (String.ofList_injective (Atom.string.inj (Key.atom.inj same)))) item
  unfold lookup
  rw [elsewhere apart]
  cases get? (Key.ofText other) bindings with
  | some value => rfl
  | none =>
    cases pieces : splitOn '.' other with
    | nil => exact absurd pieces (splitOn_ne_nil '.' other)
    | cons part parts =>
      have undotted : '.' ∉ part := (of_mem_splitOn (pieces ▸ List.mem_cons_self)).1
      dsimp only
      rw [Value.walk, Value.walk, Value.step, Value.step]
      dsimp only [Value.opened]
      rw [elsewhere (by rintro rfl; exact undotted dotted)]

/-- **Every part of the variables is found under its joined name.** A variable whose name holds a dot is found
under this name, and makes no other search come to anything else. -/
theorem lookup_joined (undotted : bindings.Undotted) :
    (∀ parts value, parts ≠ [] → Value.Leads parts (.mapping true bindings) value →
      lookup bindings (joinWith ['.'] parts) = .ok (some value)) ∧
    ∀ name item, '.' ∈ name →
      lookup (put (Key.ofText name) item bindings) name = .ok (some item) ∧
      ∀ other, other ≠ name → lookup (put (Key.ofText name) item bindings) other = lookup bindings other := by
  refine ⟨fun parts value nonempty leads => lookup_of_leads undotted nonempty leads, fun name item dotted => ⟨?_, ?_⟩⟩
  · exact lookup_of_get? (Entries.get?_put (Key.same_refl _))
  · exact fun other apart => lookup_put_of_dotted dotted item apart

/-- Mappings with an empty key and with one made of digits, around a sequence in a sequence. -/
def nestedVariables : Mapping :=
  [(Key.ofString "b", .record [("", .record [("0", .sequence true [.null, .list [.integer 6]])])])]

/-- The keys and the positions are told apart, and a longer name that is a key hides nothing. -/
theorem lookup_joined_nestedVariables :
    lookup nestedVariables "b..0.1.0".toList = .ok (some (.integer 6)) ∧
    lookup (put (Key.ofText "b..0".toList) .null nestedVariables) "b..0.1.0".toList = .ok (some (.integer 6)) ∧
    lookup (put (Key.ofText "b..0".toList) .null nestedVariables) "b..0".toList = .ok (some .null) := by
  have undotted : nestedVariables.Undotted := by
    intro entry inside name same
    rw [nestedVariables, List.mem_singleton] at inside
    rw [inside] at same
    have text : "b" = String.ofList name := Atom.string.inj (Key.atom.inj same)
    rw [show name = ['b'] by rw [← String.toList_ofList (l := name), ← text]; rfl]
    decide
  have leads : Value.Leads ["b".toList, [], "0".toList, Numeral.digits 1, Numeral.digits 0]
      (.mapping true nestedVariables) (.integer 6) := by
    refine .key rfl (by decide) rfl (.key rfl (by decide) rfl (.key rfl (by decide) rfl ?_))
    exact .item rfl (by decide) rfl (.item rfl (by decide) rfl (.stay _))
  have spelled : joinWith ['.'] ["b".toList, [], "0".toList, Numeral.digits 1, Numeral.digits 0] =
      "b..0.1.0".toList := by cbv
  obtain ⟨joined, dotted⟩ := lookup_joined undotted
  have found := joined _ _ (List.cons_ne_nil _ _) leads
  rw [spelled] at found
  obtain ⟨own, others⟩ := dotted "b..0".toList .null (by decide)
  exact ⟨found, (others _ (by decide)).trans found, own⟩

end Mapping

end PromptWeave
