/-
**Where an element ends.**

A search for the closing tag of an element counts along the tags of its name. An opening tag asks for one more
closing tag, a closing tag answers one, and a single tag changes nothing. So the element ends with the first
tag up to which there is one closing tag more than there are opening ones, whatever follows; and if there is
no such tag, it is never closed. Main statements:

* `Tag.surplus`: the closing tags of a row less the opening ones;
* `Tag.afterClosing?_goes`: the step of a search at a tag that does not end the element;
* `Tag.afterClosing?_along`: a search passes over a row that does not end it;
* `Tag.afterClosing?_balanced`: and stops behind the first tag that does;
* `Tag.closingAt?_row`: the position that is found, or that none is.
-/

import Mathlib.Order.Bounds.Defs
import PromptWeave.Proofs.Tag.Nesting
import PromptWeave.Proofs.Tag.Printing

namespace PromptWeave

open Text

namespace Tag

/-- The position behind the closing tag that balances an element whose content begins at a position. -/
def closingAt? (name text : Text) (position : Nat) : Option Nat :=
  (afterClosing? name 0 (text.drop position)).map fun after => text.length - after.length

/-! ### Counting -/

/-- Whether a tag of a row opens an element. -/
def Mark.isOpening : Mark → Bool
  | opening _ => true
  | _ => false

/-- Whether a tag of a row is a closing tag. -/
def Mark.isClosing : Mark → Bool
  | closing => true
  | _ => false

/-- What a tag adds to the surplus of closing tags. -/
def Mark.weight : Mark → Int
  | opening _ => -1
  | single _ => 0
  | closing => 1

theorem Mark.weight_le_one (mark : Mark) : mark.weight ≤ 1 := by
  cases mark <;> simp [Mark.weight]

variable {name : Text}

/-- The characters of the tags of a row, each with the text in front of it. -/
def ledText (items : List (Chunk name × Mark)) : Text :=
  items.flatMap fun item => item.1.text ++ item.2.text name

@[simp] theorem ledText_nil : ledText ([] : List (Chunk name × Mark)) = [] := rfl

@[simp] theorem ledText_cons (item : Chunk name × Mark) (items : List (Chunk name × Mark)) :
    ledText (item :: items) = item.1.text ++ (item.2.text name ++ ledText items) := by
  simp [ledText]

@[simp] theorem ledText_append (items others : List (Chunk name × Mark)) :
    ledText (items ++ others) = ledText items ++ ledText others :=
  List.flatMap_append

/-- The closing tags of a row less the opening ones. -/
def surplus (items : List (Chunk name × Mark)) : Int :=
  items.countP (·.2.isClosing) - items.countP (·.2.isOpening)

@[simp] theorem surplus_nil : surplus ([] : List (Chunk name × Mark)) = 0 := rfl

@[simp] theorem surplus_cons (item : Chunk name × Mark) (items : List (Chunk name × Mark)) :
    surplus (item :: items) = item.2.weight + surplus items := by
  obtain ⟨chunk, mark⟩ := item
  cases mark <;> simp [surplus, Mark.weight, Mark.isOpening, Mark.isClosing] <;> omega

@[simp] theorem surplus_append (items others : List (Chunk name × Mark)) :
    surplus (items ++ others) = surplus items + surplus others := by
  simp only [surplus, List.countP_append]
  omega

/-! ### One tag -/

/-- **A search stops behind a tag that ends the element.** -/
theorem afterClosing?_ending (named : IsName name) (item : Chunk name × Mark) {inner : Nat}
    (ends : item.2.weight = inner + 1) (rest : Text) :
    afterClosing? name inner (item.1.text ++ (item.2.text name ++ rest)) = some rest := by
  obtain ⟨chunk, mark⟩ := item
  rw [afterClosing?_chunk named chunk (endsOrOpens_mark mark rest)]
  cases mark with
  | opening inside =>
    simp only [Mark.weight] at ends
    omega
  | single inside =>
    simp only [Mark.weight] at ends
    omega
  | closing =>
    simp only [Mark.weight] at ends
    obtain rfl : inner = 0 := by omega
    exact afterClosing?_closing named rest

/-- **A search goes on behind any other tag**, with the elements that are open then. -/
theorem afterClosing?_goes (named : IsName name) (item : Chunk name × Mark) {inner later : Nat}
    (goes : (later : Int) + item.2.weight = inner) (rest : Text) :
    afterClosing? name inner (item.1.text ++ (item.2.text name ++ rest)) =
      afterClosing? name later rest := by
  obtain ⟨chunk, mark⟩ := item
  rw [afterClosing?_chunk named chunk (endsOrOpens_mark mark rest)]
  cases mark with
  | opening inside =>
    simp only [Mark.weight] at goes
    obtain rfl : later = inner + 1 := by omega
    exact afterClosing?_spelled named inside false inner rest
  | single inside =>
    simp only [Mark.weight] at goes
    obtain rfl : later = inner := by omega
    exact afterClosing?_spelled named inside true later rest
  | closing =>
    simp only [Mark.weight] at goes
    obtain rfl : inner = later + 1 := by omega
    exact afterClosing?_closing_succ named later rest

/-! ### A row of tags -/

/-- **A search passes over a row that does not end the element.** The inner elements that are open behind the
row are those that were open in front of it, less the surplus of the row. -/
theorem afterClosing?_along (named : IsName name) {items : List (Chunk name × Mark)} {inner : Nat}
    (unended : ∀ count, surplus (items.take count) ≠ inner + 1) (rest : Text) :
    ∃ later : Nat, (later : Int) + surplus items = inner ∧
      afterClosing? name inner (ledText items ++ rest) = afterClosing? name later rest := by
  induction items generalizing inner with
  | nil => exact ⟨inner, by simp, rfl⟩
  | cons item items ih =>
    have here : item.2.weight ≠ inner + 1 := by simpa using unended 1
    have bound := item.2.weight_le_one
    -- One tag closes at most one element, so what is open behind it is a number again.
    obtain ⟨next, goes⟩ : ∃ next : Nat, (next : Int) + item.2.weight = inner :=
      ⟨(inner - item.2.weight).toNat, by omega⟩
    have unended' : ∀ count, surplus (items.take count) ≠ next + 1 := by
      intro count same
      have whole := unended (count + 1)
      rw [List.take_succ_cons, surplus_cons] at whole
      omega
    obtain ⟨later, left, passes⟩ := ih unended'
    refine ⟨later, ?_, ?_⟩
    · rw [surplus_cons]
      omega
    · rw [ledText_cons, List.append_assoc, List.append_assoc, afterClosing?_goes named item goes, passes]

/-- **A search stops behind the first tag that ends the element.** -/
theorem afterClosing?_balanced (named : IsName name) {items : List (Chunk name × Mark)}
    {item : Chunk name × Mark} {inner : Nat}
    (unended : ∀ count, surplus (items.take count) ≠ inner + 1)
    (ends : surplus (items ++ [item]) = inner + 1) (rest : Text) :
    afterClosing? name inner (ledText (items ++ [item]) ++ rest) = some rest := by
  obtain ⟨later, left, passes⟩ := afterClosing?_along named unended (ledText [item] ++ rest)
  rw [ledText_append, List.append_assoc, passes, ledText_cons, ledText_nil, List.append_nil,
    List.append_assoc]
  refine afterClosing?_ending named item ?_ rest
  rw [surplus_append, surplus_cons, surplus_nil] at ends
  omega

/-- The first tag that ends an element, with what is in front of it. -/
theorem exists_take_of_isLeast {items : List (Chunk name × Mark)} {count : Nat}
    (least : IsLeast {count | surplus (items.take count) = 1} count) :
    ∃ front item, items.take count = front ++ [item] ∧ ∀ fewer, surplus (front.take fewer) ≠ 1 := by
  obtain ⟨ends, least⟩ := least
  cases count with
  | zero => cases ends
  | succ count =>
    have inside : count < items.length := by
      by_contra beyond
      have same : items.take (count + 1) = items.take count := by
        rw [List.take_of_length_le (by omega), List.take_of_length_le (by omega)]
      have earlier : surplus (items.take count) = 1 := by rw [← same]; exact ends
      have := least earlier
      omega
    refine ⟨items.take count, items[count], (List.take_append_getElem inside).symm, fun fewer same => ?_⟩
    rw [List.take_take] at same
    have := least same
    omega

/-- **The search for the end of an element finds the balancing tag.** In a row of tags of one name with texts
between them in which none begins, it is the first tag up to which there is one closing tag more than there
are opening ones, and the position behind it is found, whatever text follows the row. If there is no such
tag, nothing is found. -/
theorem closingAt?_row (named : IsName name) (items : List (Chunk name × Mark)) (last : Chunk name) :
    (∀ count, IsLeast {count | surplus (items.take count) = 1} count → ∀ rest,
      closingAt? name (ledText items ++ last.text ++ rest) 0 = some (ledText (items.take count)).length) ∧
    ((∀ count, surplus (items.take count) ≠ 1) → closingAt? name (ledText items ++ last.text) 0 = none) := by
  constructor
  · intro count least rest
    obtain ⟨front, item, taken, unended⟩ := exists_take_of_isLeast least
    have ends : surplus (front ++ [item]) = 1 := by rw [← taken]; exact least.1
    have whole : ledText items ++ last.text ++ rest =
        ledText (front ++ [item]) ++ (ledText (items.drop count) ++ last.text ++ rest) := by
      rw [← taken, ← List.append_assoc, ← List.append_assoc, ← ledText_append, List.take_append_drop]
    rw [closingAt?, List.drop_zero, whole, afterClosing?_balanced named unended ends, Option.map_some,
      taken, List.length_append, Nat.add_sub_cancel]
  · intro unended
    obtain ⟨later, _, passes⟩ := afterClosing?_along named unended last.text
    rw [closingAt?, List.drop_zero, passes, afterClosing?_of_freeOf last.freeOf, Option.map_none]

/-- A row with an opening tag whose value holds `/>`, a single tag and three closing ones. -/
def nestedRow : List (Chunk ['b'] × Mark) :=
  [ (⟨['x'], by decide, by decide⟩, .opening repeatedAttribute),
    (⟨['<', 'i', '>'], by decide, by decide⟩, .single ⟨[], [], isBlank_of_mem_nil⟩),
    (⟨[], by decide, by decide⟩, .closing),
    (⟨['y'], by decide, by decide⟩, .closing),
    (⟨[], by decide, by decide⟩, .closing) ]

/-- The fourth tag of that row is the first one that ends an element around it, and its first three tags do not
end one. -/
theorem closingAt?_row_nested :
    IsName ['b'] ∧ IsLeast {count | surplus (nestedRow.take count) = 1} 4 ∧
      closingAt? ['b'] "x<b a=\"1\"\nb='/>' a = \"2\" ><i><b/></b>y</b></b>z<b".toList 0 = some 42 ∧
      (∀ count, surplus ((nestedRow.take 3).take count) ≠ 1) ∧
      closingAt? ['b'] "x<b a=\"1\"\nb='/>' a = \"2\" ><i><b/></b>z".toList 0 = none := by
  have named : IsName ['b'] := ⟨rfl, by simp⟩
  have early : ∀ count < 4, surplus (nestedRow.take count) ≠ 1 := by decide
  have least : IsLeast {count | surplus (nestedRow.take count) = 1} 4 := by
    refine ⟨rfl, fun count ends => ?_⟩
    by_contra short
    exact early count (Nat.lt_of_not_le short) ends
  have unended : ∀ count, surplus ((nestedRow.take 3).take count) ≠ 1 := by
    intro count
    rw [List.take_take]
    exact early _ (by omega)
  exact ⟨named, least, (closingAt?_row named nestedRow ⟨['z'], by decide, by decide⟩).1 4 least ['<', 'b'],
    unended, (closingAt?_row named (nestedRow.take 3) ⟨['z'], by decide, by decide⟩).2 unended⟩

end Tag

end PromptWeave
