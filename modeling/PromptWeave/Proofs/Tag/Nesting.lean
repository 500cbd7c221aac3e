/-
**Rows of tags of one name.**

A row is made of tags of one name, opening, single and closing ones in any order, with text between
them in which none begins. A search for the closing tag of an element walks along the row and counts
the elements that are still open, and nothing inside a tag or between two tags disturbs it. Main
statements:

* `Tag.Mark`, `Tag.Chunk`, `Tag.rowText`: rows and how they are written;
* `Tag.behind?`: what stands behind the closing tag that balances an element, by counting;
* `Tag.afterClosing?_row`: the search finds just that.
-/

import PromptWeave.Proofs.Tag.Likeness
import PromptWeave.Proofs.Tag.Spelling

namespace PromptWeave

open Text

namespace Tag

/-! ### Rows -/

/-- A tag in a row of tags of one name. -/
inductive Mark
  /-- A tag that opens an element. -/
  | opening (inside : Inside)
  /-- A tag that is an element of its own. -/
  | single (inside : Inside)
  /-- A closing tag. -/
  | closing

/-- The characters of a tag of a name. -/
def Mark.text (name : Text) : Mark → Text
  | opening inside => spelled name inside false
  | single inside => spelled name inside true
  | closing => closingOf name

/-- A text in which no tag of a name begins. -/
structure Chunk (name : Text) where
  text : Text
  unopened : ¬ ('<' :: name) <:+: text
  unclosed : ¬ ('<' :: '/' :: name) <:+: text

variable {name : Text}

/-- The characters of the tags of a row, each with the text behind it. -/
def rowText (items : List (Mark × Chunk name)) : Text :=
  items.flatMap fun item => item.1.text name ++ item.2.text

@[simp] theorem rowText_nil : rowText ([] : List (Mark × Chunk name)) = [] := rfl

@[simp] theorem rowText_cons (mark : Mark) (chunk : Chunk name) (items : List (Mark × Chunk name)) :
    rowText ((mark, chunk) :: items) = mark.text name ++ (chunk.text ++ rowText items) := by
  simp [rowText]

/-- A text ends, or goes on with the `<` of a tag. -/
def EndsOrOpens (rest : Text) : Prop := rest = [] ∨ ∃ later, rest = '<' :: later

theorem endsOrOpens_mark (mark : Mark) (rest : Text) : EndsOrOpens (mark.text name ++ rest) := by
  cases mark <;> exact Or.inr ⟨_, rfl⟩

theorem endsOrOpens_rowText (items : List (Mark × Chunk name)) : EndsOrOpens (rowText items) := by
  cases items with
  | nil => exact Or.inl rfl
  | cons item items =>
    obtain ⟨mark, chunk⟩ := item
    rw [rowText_cons]
    exact endsOrOpens_mark mark _

/-! ### Where tags of a name begin -/

theorem namesStart_prefix {text : Text} (starts : namesStart name text = true) : name <+: text := by
  simp only [namesStart, Bool.and_eq_true, List.isPrefixOf_iff_prefix] at starts
  exact starts.1

/-- A tag of a name begins with `<` or `</` and the name. -/
theorem prefix_of_mayStart {rest : Text} (starts : mayStart name ('<' :: rest) = true) :
    ('<' :: name) <+: '<' :: rest ∨ ('<' :: '/' :: name) <+: '<' :: rest := by
  unfold mayStart at starts
  split at starts
  · rename_i none
    cases none
  · rename_i later same
    cases same
    refine Or.inr ?_
    simpa using namesStart_prefix starts
  · rename_i same
    cases same
    exact Or.inl (List.cons_prefix_cons.mpr ⟨rfl, namesStart_prefix starts⟩)

/-- **No tag of the name begins in a chunk.** -/
theorem Chunk.freeOf (chunk : Chunk name) : FreeOf name chunk.text := by
  intro rest inside
  by_contra starts
  rw [Bool.not_eq_false] at starts
  rcases prefix_of_mayStart starts with opens | closes
  · exact chunk.unopened (opens.isInfix.trans inside.isInfix)
  · exact chunk.unclosed (closes.isInfix.trans inside.isInfix)

/-- Nor does one begin there and go on behind the chunk. -/
theorem Chunk.mayStart_append (named : IsName name) (chunk : Chunk name) {later rest : Text}
    (inside : '<' :: later <:+ chunk.text) (follows : EndsOrOpens rest) :
    mayStart name ('<' :: later ++ rest) = false := by
  have free := chunk.freeOf later inside
  rcases follows with rfl | ⟨more, rfl⟩
  · rwa [List.append_nil]
  · by_contra starts
    rw [Bool.not_eq_false] at starts
    have alone := Tag.mayStart_append (lt_notMem_of_isName named) '<' more starts
    rw [free] at alone
    cases alone

/-- An opening or single tag begins as a tag of its name may. -/
theorem mayStart_spelled (named : IsName name) (inside : Inside) (selfClosing : Bool) (rest : Text) :
    mayStart name (spelled name inside selfClosing ++ rest) = true := by
  have whole : spelled name inside selfClosing ++ rest =
      '<' :: (name ++ (inside.text ++ (ending selfClosing ++ rest))) := by simp [spelled]
  have ends : EndsName (inside.text ++ (ending selfClosing ++ rest)) := by
    rw [Inside.text, List.append_assoc]
    exact endsName_attributes _ inside.gap_blank selfClosing rest
  rw [whole, mayStart]
  · rw [namesStart, List.drop_left, Bool.and_eq_true]
    refine ⟨List.isPrefixOf_iff_prefix.mpr (List.prefix_append _ _), ?_⟩
    split
    · rfl
    · rename_i c later same
      have stops := ends.boundary c (by rw [same]; rfl)
      simpa [or_assoc] using stops
  · exact startsName_ne_slash named

/-! ### Looking for the closing tag -/

/-- What stands behind the closing tag that balances an element in a row, of which so many inner
elements are still open: a chunk and the rest of the row. -/
def behind? : Nat → List (Mark × Chunk name) → Option (Chunk name × List (Mark × Chunk name))
  | _, [] => none
  | inner, (.opening _, _) :: items => behind? (inner + 1) items
  | inner, (.single _, _) :: items => behind? inner items
  | 0, (.closing, chunk) :: items => some (chunk, items)
  | inner + 1, (.closing, _) :: items => behind? inner items

theorem behind?_length_lt {inner : Nat} {items later : List (Mark × Chunk name)} {chunk : Chunk name}
    (found : behind? inner items = some (chunk, later)) : later.length < items.length := by
  fun_induction behind? inner items with
  | case1 => cases found
  | case2 inner inside chunk items ih => exact Nat.lt_succ_of_lt (ih found)
  | case3 inner inside chunk items ih => exact Nat.lt_succ_of_lt (ih found)
  | case4 chunk items =>
    cases found
    exact Nat.lt_succ_self _
  | case5 inner chunk items ih => exact Nat.lt_succ_of_lt (ih found)

/-- A search for a closing tag finds nothing in a text in which no tag of the name begins. -/
theorem afterClosing?_of_freeOf {body : Text} (free : FreeOf name body) (inner : Nat) :
    afterClosing? name inner body = none := by
  induction body with
  | nil => rw [afterClosing?]
  | cons c body ih =>
    have nothing : ¬ (c = '<' ∧ mayStart name (c :: body) = true) := by
      rintro ⟨rfl, starts⟩
      rw [free body List.suffix_rfl] at starts
      cases starts
    rw [afterClosing?, if_neg nothing]
    exact ih free.of_cons

/-- A search for a closing tag passes over a chunk. -/
theorem afterClosing?_chunk (named : IsName name) (chunk : Chunk name) {rest : Text}
    (follows : EndsOrOpens rest) (inner : Nat) :
    afterClosing? name inner (chunk.text ++ rest) = afterClosing? name inner rest := by
  rcases follows with rfl | ⟨later, rfl⟩
  · rw [List.append_nil, afterClosing?_of_freeOf chunk.freeOf, afterClosing?]
  · exact afterClosing?_skip named chunk.freeOf inner later

/-- A search for a closing tag at an opening or single tag of the name. -/
theorem afterClosing?_spelled (named : IsName name) (inside : Inside) (selfClosing : Bool)
    (inner : Nat) (rest : Text) :
    afterClosing? name inner (spelled name inside selfClosing ++ rest) =
      afterClosing? name (if selfClosing then inner else inner + 1) rest := by
  have reads := read?_spelled named inside selfClosing rest
  have starts := mayStart_spelled named inside selfClosing rest
  rw [spelled, List.cons_append] at reads starts ⊢
  rw [afterClosing?_of_read inner reads, if_pos ⟨starts, rfl⟩, if_neg Bool.false_ne_true]

/-- A search for a closing tag at one, with inner elements open. -/
theorem afterClosing?_closing_succ (named : IsName name) (inner : Nat) (rest : Text) :
    afterClosing? name (inner + 1) (closingOf name ++ rest) = afterClosing? name inner rest := by
  have reads := read?_closing named rest
  have starts := mayStart_closing name rest
  rw [closingOf, List.cons_append] at reads starts ⊢
  rw [afterClosing?_of_read (inner + 1) reads, if_pos ⟨starts, rfl⟩, if_pos rfl]

/-- **The search for the closing tag of an element finds the one that balances it**, and nothing if
there is none. -/
theorem afterClosing?_row (named : IsName name) (inner : Nat) (chunk : Chunk name)
    (items : List (Mark × Chunk name)) :
    afterClosing? name inner (chunk.text ++ rowText items) =
      (behind? inner items).map fun left => left.1.text ++ rowText left.2 := by
  rw [afterClosing?_chunk named chunk (endsOrOpens_rowText items)]
  fun_induction behind? inner items with
  | case1 => rw [rowText_nil, afterClosing?, Option.map_none]
  | case2 inner inside chunk items ih =>
    rw [rowText_cons, Mark.text, afterClosing?_spelled named, if_neg Bool.false_ne_true,
      afterClosing?_chunk named chunk (endsOrOpens_rowText items), ih]
  | case3 inner inside chunk items ih =>
    rw [rowText_cons, Mark.text, afterClosing?_spelled named, if_pos rfl,
      afterClosing?_chunk named chunk (endsOrOpens_rowText items), ih]
  | case4 chunk items => rw [rowText_cons, Mark.text, afterClosing?_closing named, Option.map_some]
  | case5 inner chunk items ih =>
    rw [rowText_cons, Mark.text, afterClosing?_closing_succ named,
      afterClosing?_chunk named chunk (endsOrOpens_rowText items), ih]

end Tag

end PromptWeave
