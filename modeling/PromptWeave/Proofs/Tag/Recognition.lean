/-
**Recognising tags by their names.**

The searches inside elements do not read every tag: they first test whether a tag of the name may begin.
The test wants the name to end with a blank, a slash or the end of the tag, whereas reading a tag lets its
name run on into an attribute at once. So the test passes over just those tags that run on, all of which
open an element. Main statements:

* `Tag.mayStart_iff_of_read`: at a whole tag the test tells its name, unless the name runs on;
* `Tag.not_runsOn_of_closing`: the name of a closing tag never does;
* `Tag.met_iff_begins`: reading with and without the test recognises the same tags exactly if none runs on;
* `Tag.afterClosing?_eq_afterReadClosing?`: then the search for a closing tag does without the test.
-/

import PromptWeave.Proofs.Tag.Nesting

namespace PromptWeave

open Text

namespace Tag

/-! ### Names that run on -/

/-- The name of an opening tag runs on into an attribute. -/
def RunsOn (name text : Text) : Prop :=
  ∃ c rest, text = '<' :: (name ++ c :: rest) ∧ inAttribute c = true

/-- Behind the name of a tag stands what ends it, or an attribute of an opening tag. -/
theorem exists_head_of_readAttributes {closing : Bool} {attributes : Entries Text Text} {text : Text}
    {found : Entries Text Text × Bool × Text}
    (read : readAttributes closing attributes text = some found) :
    ∃ c rest, text = c :: rest ∧ ((isBlank c = true ∨ c = '/' ∨ c = '>') ∨
      closing = false ∧ inAttribute c = true) := by
  cases text with
  | nil =>
    rw [readAttributes] at read
    cases read
  | cons c rest =>
    refine ⟨c, rest, rfl, ?_⟩
    rw [readAttributes] at read
    split_ifs at read with blank ends slash opens inside
    · exact Or.inl (Or.inl blank)
    · exact Or.inl (Or.inr (Or.inr ends))
    · exact Or.inl (Or.inr (Or.inl slash.1))
    · exact Or.inr ⟨(Bool.not_eq_true _).mp opens, inside⟩

/-- What ends a name is no character of an attribute. -/
theorem not_inAttribute_of_ends {c : Char} (ends : isBlank c = true ∨ c = '/' ∨ c = '>') :
    inAttribute c = false := by
  rcases ends with blank | rfl | rfl
  · exact inAttribute_of_isBlank blank
  · rfl
  · rfl

/-- What ends a name does not go on with it. -/
theorem not_continuesName_of_ends {c : Char} (ends : isBlank c = true ∨ c = '/' ∨ c = '>') :
    continuesName c = false := by
  rcases ends with blank | rfl | rfl
  · exact continuesName_of_isBlank blank
  · decide
  · decide

/-- The body of a tag is its name, and behind it what ends the name or an attribute. -/
theorem exists_behind_of_readBody {closing : Bool} {text after : Text} {tag : Tag}
    (read : readBody closing text = some (tag, after)) :
    ∃ c rest, text = tag.name ++ c :: rest ∧ continuesName c = false ∧
      ((isBlank c = true ∨ c = '/' ∨ c = '>') ∨ closing = false ∧ inAttribute c = true) := by
  unfold readBody at read
  split at read
  · cases read
  · rename_i first rest
    split at read
    · obtain ⟨found, inner, same⟩ := Option.map_eq_some_iff.mp read
      cases same
      obtain ⟨c, more, behind, ends⟩ := exists_head_of_readAttributes inner
      refine ⟨c, more, ?_, ?_, ends⟩
      · rw [List.cons_append, ← behind, List.takeWhile_append_dropWhile]
      · have stops := List.head?_dropWhile_not continuesName rest
        rw [behind] at stops
        exact stops
    · cases read

theorem ne_nil_of_isName {name : Text} (named : IsName name) : name ≠ [] := by
  rintro rfl
  exact named

/-- A name is told by where it ends. -/
theorem name_unique {first second rest others : Text} {c d : Char} (named : IsName first)
    (namedToo : IsName second) (same : first ++ c :: rest = second ++ d :: others)
    (ends : continuesName c = false) (endsToo : continuesName d = false) : first = second := by
  cases first with
  | nil => exact named.elim
  | cons a first =>
    cases second with
    | nil => exact namedToo.elim
    | cons b second =>
      obtain ⟨rfl, tails⟩ := List.cons.inj same
      have left : (first ++ c :: rest).takeWhile continuesName = first :=
        (span_append named.2 fun e begins => by cases begins; exact ends).1
      have right : (second ++ d :: others).takeWhile continuesName = second :=
        (span_append namedToo.2 fun e begins => by cases begins; exact endsToo).1
      rw [← left, ← right]
      exact congrArg (fun text => a :: text.takeWhile continuesName) tails

/-- The test of a name: the name stands at the start, and the text ends there or the name does. -/
theorem namesStart_iff {name text : Text} :
    namesStart name text = true ↔ text = name ∨
      ∃ c rest, text = name ++ c :: rest ∧ (isBlank c = true ∨ c = '/' ∨ c = '>') := by
  rw [namesStart, Bool.and_eq_true, List.isPrefixOf_iff_prefix]
  constructor
  · rintro ⟨⟨behind, rfl⟩, ends⟩
    rw [List.drop_left] at ends
    cases behind with
    | nil => exact Or.inl (List.append_nil name)
    | cons c rest => exact Or.inr ⟨c, rest, rfl, by simpa [or_assoc] using ends⟩
  · rintro (rfl | ⟨c, rest, rfl, ends⟩)
    · simp
    · rw [List.drop_left]
      exact ⟨List.prefix_append _ _, by simpa [or_assoc] using ends⟩

/-- Where a body is read, the test in front of it tells its name if nothing runs on behind that. -/
theorem namesStart_iff_of_readBody {closing : Bool} {name text after : Text} {tag : Tag}
    (named : IsName name) (read : readBody closing text = some (tag, after)) :
    namesStart name text = true ↔
      tag.name = name ∧ ∀ c rest, text = name ++ c :: rest → inAttribute c = false := by
  obtain ⟨c, rest, rfl, stops, ends⟩ := exists_behind_of_readBody read
  have reads : IsName tag.name := (readBody_local read).1
  rw [namesStart_iff]
  constructor
  · rintro (same | ⟨d, others, same, boundary⟩)
    · -- The name would hold the character behind the name that is read.
      obtain ⟨first, begun, whole⟩ := List.exists_cons_of_ne_nil (ne_nil_of_isName reads)
      rw [← same, whole] at named
      rw [named.2 c (by simp)] at stops
      cases stops
    · obtain rfl := name_unique reads named same stops (not_continuesName_of_ends boundary)
      refine ⟨rfl, fun e more again => ?_⟩
      rw [same] at again
      cases List.append_cancel_left again
      exact not_inAttribute_of_ends boundary
  · rintro ⟨rfl, apart⟩
    refine Or.inr ⟨c, rest, rfl, ?_⟩
    rcases ends with ends | ⟨_, inside⟩
    · exact ends
    · rw [apart c rest rfl] at inside
      cases inside

/-- The name of a closing tag is ended. -/
theorem not_runsOn_of_closing {name text after : Text} {tag : Tag} (named : IsName name)
    (read : read? text = some (tag, after)) (closing : tag.closing = true) : ¬ RunsOn name text := by
  rintro ⟨c, rest, rfl, _⟩
  rw [read?] at read
  · rw [(readBody_local read).2.1] at closing
    cases closing
  · exact startsName_ne_slash named

/-- **At a whole tag the test tells its name**, unless the name runs on. -/
theorem mayStart_iff_of_read {name text after : Text} {tag : Tag} (named : IsName name)
    (read : read? text = some (tag, after)) :
    mayStart name text = true ↔ tag.name = name ∧ ¬ RunsOn name text := by
  have whole := read
  unfold read? at read
  split at read
  · rename_i rest
    rw [mayStart, namesStart_iff_of_readBody named read]
    refine and_congr_right ?_
    rintro rfl
    refine ⟨fun _ => not_runsOn_of_closing named whole (readBody_local read).2.1, fun _ => ?_⟩
    obtain ⟨c, more, split, _, ends | ⟨opens, _⟩⟩ := exists_behind_of_readBody read
    · intro d others same
      rw [split] at same
      cases List.append_cancel_left same
      exact not_inAttribute_of_ends ends
    · cases opens
  · rename_i rest opens
    rw [mayStart, namesStart_iff_of_readBody named read]
    · refine and_congr_right fun _ => ⟨?_, ?_⟩
      · rintro apart ⟨c, more, same, inside⟩
        rw [apart c more (List.cons.inj same).2] at inside
        cases inside
      · intro apart c more same
        by_contra inside
        rw [Bool.not_eq_false] at inside
        exact apart ⟨c, more, by rw [same], inside⟩
    · exact opens
  · cases read

/-! ### Recognising tags of one name -/

/-- A tag begins with `<`. -/
theorem eq_lt_of_read {c : Char} {rest after : Text} {tag : Tag}
    (read : read? (c :: rest) = some (tag, after)) : c = '<' := by
  by_contra apart
  rw [read?_of_ne apart] at read
  cases read

/-- A tag of a name begins a text. -/
def Begins (name text : Text) : Prop := ∃ tag after, read? text = some (tag, after) ∧ tag.name = name

/-- A tag of a name begins a text and passes the test of the name: the searches inside elements meet it
there. -/
def Met (name text : Text) : Prop := mayStart name text = true ∧ Begins name text

/-- No tag of a name runs on anywhere in a text. -/
def SetApart (name text : Text) : Prop :=
  ∀ place, Begins name (text.drop place) → ¬ RunsOn name (text.drop place)

theorem SetApart.of_suffix {name text rest : Text} (apart : SetApart name text)
    (inside : rest <:+ text) : SetApart name rest := by
  obtain ⟨front, rfl⟩ := inside
  intro place
  have here := apart (front.length + place)
  rwa [List.drop_length_add_append] at here

/-- **A tag of a name is met exactly if it does not run on.** -/
theorem met_iff {name text : Text} (named : IsName name) :
    Met name text ↔ Begins name text ∧ ¬ RunsOn name text := by
  constructor
  · rintro ⟨starts, tag, after, read, same⟩
    exact ⟨⟨tag, after, read, same⟩, ((mayStart_iff_of_read named read).mp starts).2⟩
  · rintro ⟨⟨tag, after, read, same⟩, apart⟩
    exact ⟨(mayStart_iff_of_read named read).mpr ⟨same, apart⟩, tag, after, read, same⟩

/-- **All tags of a name in a text are met exactly if none runs on.** -/
theorem met_iff_begins {name : Text} (named : IsName name) (text : Text) :
    (∀ place, Met name (text.drop place) ↔ Begins name (text.drop place)) ↔ SetApart name text := by
  constructor
  · intro same place begins
    exact ((met_iff named).mp ((same place).mpr begins)).2
  · intro apart place
    exact ⟨fun met => met.2, fun begins => (met_iff named).mpr ⟨begins, apart place begins⟩⟩

/-! ### Looking for a closing tag by reading alone -/

/-- The text after the closing tag that balances an element, all tags of its name being counted. -/
def afterReadClosing? (name : Text) (inner : Nat) (text : Text) : Option Text :=
  match text with
  | [] => none
  | c :: rest =>
    match reading : read? (c :: rest) with
    | none => afterReadClosing? name inner rest
    | some (tag, after) =>
      if tag.name ≠ name then afterReadClosing? name inner rest
      else if tag.closing then
        match inner with
        | 0 => some after
        | inner + 1 => afterReadClosing? name inner after
      else afterReadClosing? name (if tag.selfClosing then inner else inner + 1) after
termination_by text.length
decreasing_by
  all_goals first
    | exact read?_length_lt reading
    | simp

/-- The step of the search at a tag of the name. -/
theorem afterClosing?_of_begins {name rest after : Text} {tag : Tag} (named : IsName name) (inner : Nat)
    (apart : SetApart name ('<' :: rest)) (read : read? ('<' :: rest) = some (tag, after))
    (same : tag.name = name) :
    afterClosing? name inner ('<' :: rest) =
      if tag.closing then
        match inner with
        | 0 => some after
        | inner + 1 => afterClosing? name inner after
      else afterClosing? name (if tag.selfClosing then inner else inner + 1) after := by
  have starts : mayStart name ('<' :: rest) = true :=
    (mayStart_iff_of_read named read).mpr ⟨same, apart 0 ⟨tag, after, read, same⟩⟩
  exact (afterClosing?_of_read inner read).trans (if_pos ⟨starts, same⟩)

/-- **If no tag of the name runs on**, the search for a closing tag is one by reading alone. -/
theorem afterClosing?_eq_afterReadClosing? {name : Text} (named : IsName name) (inner : Nat) {text : Text}
    (apart : SetApart name text) : afterClosing? name inner text = afterReadClosing? name inner text := by
  fun_induction afterReadClosing? name inner text with
  | case1 => rw [afterClosing?]
  | case2 inner c rest unread ih =>
    rw [← ih (apart.of_suffix (List.suffix_cons c rest)), afterClosing?, unread]
    simp only [ite_self]
  | case3 inner c rest tag after read other ih =>
    obtain rfl := eq_lt_of_read read
    rw [afterClosing?_of_read inner read, if_neg fun met => other met.2]
    exact ih (apart.of_suffix (List.suffix_cons '<' rest))
  | case4 c rest tag after read same closes =>
    obtain rfl := eq_lt_of_read read
    rw [afterClosing?_of_begins named 0 apart read (not_not.mp same), if_pos closes]
  | case5 c rest tag after read same closes inner ih =>
    obtain rfl := eq_lt_of_read read
    rw [afterClosing?_of_begins named (inner + 1) apart read (not_not.mp same), if_pos closes]
    exact ih (apart.of_suffix (read?_suffix read))
  | case6 inner c rest tag after read same opens ih =>
    obtain rfl := eq_lt_of_read read
    rw [afterClosing?_of_begins named inner apart read (not_not.mp same), if_neg opens]
    exact ih (apart.of_suffix (read?_suffix read))

end Tag

end PromptWeave
