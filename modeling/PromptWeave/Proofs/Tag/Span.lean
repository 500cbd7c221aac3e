/-
**Tags and their spans.**

A tag that is read at a position goes from a `<` to a `>` of the text, with its name behind the `<` or the
`</`. It is a single tag exactly if a `/` stands in front of the `>`: a value without quotes stops there, and
one in quotes ends with its quote. Only the characters of its span matter, so the same tag is read at the
position in every text that has them, and none in a text that is cut off before the `>`. Main statements:

* `Tag.StopsPlainly`: a way of reading takes no `/` in front of a `>`;
* `Tag.selfClosing_iff_of_readAttributes`: a tag is a single one exactly if it ends with `/>`;
* `Tag.spells_of_read`: what stands between the signs of a tag;
* `Tag.stands_of_readAt`: how a tag stands in its text;
* `Tag.readAt?_of_agree`: the same tag is read where the same characters stand;
* `Tag.readAt?_stands`: every tag that is read stands in its text, and is local.
-/

import Mathlib
import PromptWeave.Proofs.Tag.Printing
import PromptWeave.Proofs.Tag.Recognition

namespace PromptWeave

open Text

namespace Tag

/-! ### The character in front of an end -/

/-- The character in front of an end of a text is the last one of what stands in front of it. -/
theorem cons_suffix_iff {c : Char} {front rest : Text} :
    c :: rest <:+ front ++ rest ↔ front.getLast? = some c := by
  rw [List.getLast?_eq_some_iff]
  constructor
  · rintro ⟨before, same⟩
    have parts : front ++ rest = before ++ [c] ++ rest := by
      rw [← same, List.append_assoc, List.singleton_append]
    exact ⟨before, List.append_cancel_right parts⟩
  · rintro ⟨before, rfl⟩
    exact ⟨before, by rw [List.append_assoc, List.singleton_append]⟩

theorem not_cons_suffix_self (c : Char) (rest : Text) : ¬ c :: rest <:+ rest :=
  fun ends => absurd ends.length_le (by simp)

theorem cons_suffix_cons_iff {c d : Char} (apart : c ≠ d) (rest after : Text) :
    c :: after <:+ d :: rest ↔ c :: after <:+ rest := by
  rw [List.suffix_cons_iff]
  refine ⟨?_, Or.inr⟩
  rintro (same | inside)
  · exact absurd (List.cons.inj same).1 apart
  · exact inside

/-- An end that begins with a character does not begin in a part without that character. -/
theorem cons_suffix_append_iff {c : Char} {front : Text} (absent : c ∉ front) (back after : Text) :
    c :: after <:+ front ++ back ↔ c :: after <:+ back := by
  induction front with
  | nil => rfl
  | cons d front ih =>
    obtain ⟨apart, absent⟩ : c ≠ d ∧ c ∉ front := by simpa using absent
    rw [List.cons_append, cons_suffix_cons_iff apart, ih absent]

theorem slash_notMem_of_forall {p : Char → Bool} {text : Text} (inside : ∀ c ∈ text, p c = true)
    (stops : p '/' = false) : '/' ∉ text := by
  intro member
  rw [inside _ member] at stops
  cases stops

/-! ### Values -/

/-- A way of reading takes no `/` that stands in front of a `>`: where it stops at a `>`, another character
stands there. -/
def StopsPlainly (reader : Text → Option (Text × Text)) : Prop :=
  ∀ text value after, reader text = some (value, '>' :: after) → ¬ '/' :: '>' :: after <:+ text

theorem stopsPlainly_readBare : StopsPlainly fun text => some (readBare text) := by
  intro text value after read
  dsimp only at read
  induction text generalizing value with
  | nil =>
    have empty := congrArg Prod.snd (Option.some.inj read)
    simp [readBare] at empty
  | cons c rest ih =>
    cases ends : endsBare (c :: rest) with
    | true =>
      rw [readBare_of_ends ends] at read
      obtain ⟨_, same⟩ := Prod.mk.inj (Option.some.inj read)
      rw [same]
      exact not_cons_suffix_self '/' _
    | false =>
      rw [readBare_cons ends] at read
      obtain ⟨_, left⟩ := Prod.mk.inj (Option.some.inj read)
      rw [List.suffix_cons_iff]
      rintro (whole | inside)
      · rw [← whole] at ends
        cases ends
      · exact ih _ (congrArg some (Prod.ext rfl left)) inside

/-- Blanks in front do no harm. -/
theorem StopsPlainly.stripLeft {reader : Text → Option (Text × Text)} (stops : StopsPlainly reader) :
    StopsPlainly fun text => reader (stripLeft text) := by
  intro text value after read
  have blanks : '/' ∉ text.takeWhile isBlank :=
    slash_notMem_of_forall (fun c => List.mem_takeWhile_imp) rfl
  have parts : text.takeWhile isBlank ++ Text.stripLeft text = text := List.takeWhile_append_dropWhile
  rw [← parts, cons_suffix_append_iff blanks]
  exact stops _ _ _ read

theorem stopsPlainly_readWord : StopsPlainly readWord := by
  intro text value after read
  cases text with
  | nil => cases read
  | cons c rest =>
    rw [readWord] at read
    split at read
    · rename_i quoted
      obtain ⟨_, rfl⟩ := readQuoted_eq_some_iff.mp read
      have whole : c :: (value ++ c :: '>' :: after) = (c :: value ++ [c]) ++ '>' :: after := by simp
      rw [whole, cons_suffix_iff, List.getLast?_concat]
      rintro ⟨⟩
      rcases quoted with impossible | impossible <;> cases impossible
    · exact stopsPlainly_readBare _ _ _ read

theorem stopsPlainly_readAssigned : StopsPlainly readAssigned := by
  intro text value after read
  unfold readAssigned at read
  split at read
  · rename_i assigned
    rw [cons_suffix_cons_iff (by decide)]
    exact stopsPlainly_readWord.stripLeft _ _ _ read
  · cases read
    exact not_cons_suffix_self '/' _

theorem stopsPlainly_readValue : StopsPlainly readValue := stopsPlainly_readAssigned.stripLeft

/-! ### The two ways to end -/

/-- **A tag is a single one exactly if a `/` stands in front of its `>`.** -/
theorem selfClosing_iff_of_readAttributes {closing selfClosing : Bool}
    {attributes found : Entries Text Text} {text after : Text}
    (read : readAttributes closing attributes text = some (found, selfClosing, after)) :
    selfClosing = true ↔ '/' :: '>' :: after <:+ text := by
  fun_induction readAttributes closing attributes text with
  | case1 => cases read
  | case2 attributes c rest blank ih =>
    have solid : '/' ≠ c := by
      rintro rfl
      cases blank
    rw [cons_suffix_cons_iff solid]
    exact ih read
  | case3 attributes rest _ =>
    cases read
    exact iff_of_false Bool.false_ne_true (not_cons_suffix_self '/' _)
  | case4 attributes c rest _ _ closes =>
    obtain ⟨rfl, head⟩ := closes
    obtain ⟨rest, rfl⟩ := List.head?_eq_some_iff.mp head
    cases read
    exact iff_of_true rfl List.suffix_rfl
  | case5 => cases read
  | case6 => cases read
  | case7 attributes c rest _ _ _ _ inside value between reading ih =>
    have later := ih read
    obtain ⟨front, rfl, _⟩ := readAttributes_local read
    obtain ⟨start, split, _⟩ := isLocal_readValue _ _ _ _ reading
    have plain : '/' ∉ c :: rest.takeWhile inAttribute :=
      slash_notMem_of_forall
        (List.forall_mem_cons.mpr ⟨inside, fun d => List.mem_takeWhile_imp⟩) rfl
    have parts : c :: rest.takeWhile inAttribute ++ rest.dropWhile inAttribute = c :: rest := by
      rw [List.cons_append, List.takeWhile_append_dropWhile]
    rw [← parts, cons_suffix_append_iff plain]
    cases front with
    | nil =>
      -- The value stops at the `>` of the tag.
      exact iff_of_false (fun single => not_cons_suffix_self '/' _ (later.mp single))
        (stopsPlainly_readValue _ _ _ reading)
    | cons d front =>
      -- More of the tag follows the value, and ends alike with the attribute in front of it and without.
      rw [cons_suffix_iff] at later
      rw [split, ← List.append_assoc, cons_suffix_iff, later, List.getLast?_append_cons]
  | case8 => cases read

/-- A closing tag has no attributes. -/
theorem readAttributes_of_closing {closing selfClosing : Bool} {attributes found : Entries Text Text}
    {text after : Text} (closes : closing = true)
    (read : readAttributes closing attributes text = some (found, selfClosing, after)) :
    found = attributes := by
  fun_induction readAttributes closing attributes text with
  | case1 => cases read
  | case2 attributes c rest _ ih => exact ih read
  | case3 => cases read; rfl
  | case4 => cases read; rfl
  | case5 => cases read
  | case6 => cases read
  | case7 attributes c rest _ _ _ opens => exact absurd closes opens
  | case8 => cases read

/-! ### Between the signs -/

/-- What stands between the `<` and the `>` of a tag: its name, with a `/` in front of it in a closing tag, and
a `/` at the end in a single one. -/
structure Spells (tag : Tag) (inside : Text) : Prop where
  isName : IsName tag.name
  named : (if tag.closing then '/' :: tag.name else tag.name) <+: inside
  closing_iff : tag.closing = true ↔ inside.head? = some '/'
  selfClosing_iff : tag.selfClosing = true ↔ inside.getLast? = some '/'
  bare : tag.closing = true → tag.attributes = []

theorem Spells.ne_nil {tag : Tag} {inside : Text} (spells : Spells tag inside) : inside ≠ [] := by
  rintro rfl
  have none := List.prefix_nil.mp spells.named
  split at none
  · cases none
  · exact ne_nil_of_isName spells.isName none

/-- What stands between the place where the body of a tag begins and its `>`. -/
theorem spells_of_readBody {closing : Bool} {inside after : Text} {tag : Tag}
    (read : readBody closing (inside ++ '>' :: after) = some (tag, after)) :
    IsName tag.name ∧ tag.closing = closing ∧ tag.name <+: inside ∧
      (tag.selfClosing = true ↔ inside.getLast? = some '/') ∧ (closing = true → tag.attributes = []) := by
  unfold readBody at read
  split at read
  · cases read
  · rename_i c rest begins
    split at read
    · rename_i starts
      obtain ⟨⟨attributes, selfClosing, left⟩, inner, same⟩ := Option.map_eq_some_iff.mp read
      cases same
      have named : IsName (c :: rest.takeWhile continuesName) := ⟨starts, fun d => List.mem_takeWhile_imp⟩
      obtain ⟨front, split, _⟩ := readAttributes_local inner
      have whole : inside ++ '>' :: after = c :: rest.takeWhile continuesName ++ front ++ '>' :: after := by
        rw [begins, List.append_assoc, ← split, List.cons_append, List.takeWhile_append_dropWhile]
      obtain rfl : inside = c :: rest.takeWhile continuesName ++ front := List.append_cancel_right whole
      refine ⟨named, rfl, List.prefix_append _ _, ?_, fun closes => ?_⟩
      · rw [← cons_suffix_iff, List.append_assoc, cons_suffix_append_iff (slash_notMem_of_isName named),
          ← split]
        exact selfClosing_iff_of_readAttributes inner
      · exact readAttributes_of_closing closes inner
    · cases read

/-- **What stands between the signs of a tag** spells it. -/
theorem spells_of_read {inside after : Text} {tag : Tag}
    (read : read? ('<' :: (inside ++ '>' :: after)) = some (tag, after)) : Spells tag inside := by
  by_cases slash : inside.head? = some '/'
  · obtain ⟨body, rfl⟩ := List.head?_eq_some_iff.mp slash
    have behind : readBody true (body ++ '>' :: after) = some (tag, after) := read
    obtain ⟨isName, closes, named, single, bare⟩ := spells_of_readBody behind
    obtain ⟨c, later, rfl⟩ : ∃ c later, body = c :: later := by
      refine List.exists_cons_of_ne_nil ?_
      rintro rfl
      exact ne_nil_of_isName isName (List.prefix_nil.mp named)
    refine ⟨isName, ?_, iff_of_true closes rfl, ?_, fun _ => bare rfl⟩
    · rw [if_pos closes]
      exact List.cons_prefix_cons.mpr ⟨rfl, named⟩
    · rw [single, List.getLast?_cons_cons]
  · rw [read?] at read
    · obtain ⟨isName, closes, named, single, bare⟩ := spells_of_readBody read
      have opens : ¬ tag.closing = true := by
        rw [closes]
        exact Bool.false_ne_true
      refine ⟨isName, ?_, iff_of_false opens slash, single, fun closing => absurd closing opens⟩
      rw [if_neg opens]
      exact named
    · intro rest begins
      cases inside with
      | nil => cases begins
      | cons c inside =>
        cases begins
        exact slash rfl

/-! ### In a text -/

/-- How a tag stands in a text: it goes from a `<` to a `>`, with its name behind the `<` or the `</`, and
with a `/` in front of the `>` exactly if it is a single one. -/
structure Stands (text : Text) (placed : Placed) : Prop where
  isName : IsName placed.tag.name
  long : placed.start + 3 ≤ placed.stop
  inside : placed.stop ≤ text.length
  opens : text[placed.start]? = some '<'
  ends : text[placed.stop - 1]? = some '>'
  named : '<' :: (if placed.tag.closing then '/' :: placed.tag.name else placed.tag.name) <+:
    text.drop placed.start
  closing_iff : placed.tag.closing = true ↔ text[placed.start + 1]? = some '/'
  selfClosing_iff : placed.tag.selfClosing = true ↔ text[placed.stop - 2]? = some '/'
  bare : placed.tag.closing = true → placed.tag.attributes = []

theorem stands_of_spells {tag : Tag} {inside : Text} (spells : Spells tag inside) (before after : Text) :
    Stands (before ++ '<' :: (inside ++ '>' :: after))
      ⟨tag, before.length, before.length + (inside.length + 2)⟩ := by
  have there (place : Nat) : (before ++ '<' :: (inside ++ '>' :: after))[before.length + place]? =
      ('<' :: (inside ++ '>' :: after))[place]? := by
    rw [List.getElem?_append_right (Nat.le_add_right _ _), Nat.add_sub_cancel_left]
  obtain ⟨c, later, rfl⟩ := List.exists_cons_of_ne_nil spells.ne_nil
  refine ⟨spells.isName, ?_, ?_, there 0, ?_, ?_, ?_, ?_, spells.bare⟩
  · simp only [List.length_cons]
    omega
  · simp only [List.length_append, List.length_cons]
    omega
  · refine (there ((c :: later).length + 1)).trans ?_
    rw [List.getElem?_cons_succ, List.getElem?_append_right le_rfl, Nat.sub_self]
    rfl
  · rw [List.drop_left]
    exact List.cons_prefix_cons.mpr ⟨rfl, spells.named.trans (List.prefix_append _ _)⟩
  · rw [there 1]
    exact spells.closing_iff
  · have last : ('<' :: (c :: later ++ '>' :: after))[(c :: later).length]? = (c :: later).getLast? := by
      rw [List.length_cons, List.getElem?_cons_succ, List.getElem?_append_left (Nat.lt_succ_self _),
        List.getLast?_eq_getElem?]
      rfl
    rw [spells.selfClosing_iff, ← last, ← there]
    rfl

/-- A text in which a tag is read, taken apart at the signs of the tag. -/
theorem exists_split_of_readAt {text : Text} {position : Nat} {placed : Placed}
    (read : readAt? text position = some placed) :
    ∃ before inside after tag, text = before ++ '<' :: (inside ++ '>' :: after) ∧
      position = before.length ∧
      placed = ⟨tag, before.length, before.length + (inside.length + 2)⟩ ∧ Spells tag inside ∧
      ∀ other, read? ('<' :: (inside ++ '>' :: other)) = some (tag, other) := by
  obtain ⟨⟨tag, after⟩, found, same⟩ := Option.map_eq_some_iff.mp read
  obtain ⟨_, inside, here, again⟩ := read?_local found
  simp only [List.cons_append] at here again
  have spells : Spells tag inside := spells_of_read (again after)
  have long : text.length - position = inside.length + 2 + after.length := by
    rw [← List.length_drop, here]
    simp only [List.length_cons, List.length_append]
    omega
  have place : (text.take position).length = position := List.length_take_of_le (by omega)
  refine ⟨text.take position, inside, after, tag, ?_, place.symm, ?_, spells, again⟩
  · rw [← here, List.take_append_drop]
  · rw [← same, place]
    simp only [Placed.mk.injEq, true_and]
    omega

/-- A tag is read at its place. -/
theorem readAt?_of_read {before inside after : Text} {tag : Tag}
    (read : read? ('<' :: (inside ++ '>' :: after)) = some (tag, after)) :
    readAt? (before ++ '<' :: (inside ++ '>' :: after)) before.length =
      some ⟨tag, before.length, before.length + (inside.length + 2)⟩ := by
  rw [readAt?, List.drop_left, read, Option.map_some]
  simp only [List.length_append, List.length_cons, Option.some.injEq, Placed.mk.injEq, true_and]
  omega

/-- **A tag that is read stands in its text.** -/
theorem stands_of_readAt {text : Text} {position : Nat} {placed : Placed}
    (read : readAt? text position = some placed) : placed.start = position ∧ Stands text placed := by
  obtain ⟨before, inside, after, tag, rfl, rfl, rfl, spells, _⟩ := exists_split_of_readAt read
  exact ⟨rfl, stands_of_spells spells before after⟩

/-! ### Other texts with the same span -/

/-- Two texts have the same characters between two positions. -/
def Agree (start stop : Nat) (text other : Text) : Prop :=
  ∀ place, start ≤ place → place < stop → other[place]? = text[place]?

/-- A text that agrees with another one on a part of it holds that part at the same place. -/
theorem Agree.exists_split {before middle after other : Text} (filled : middle ≠ [])
    (agree : Agree before.length (before.length + middle.length) (before ++ (middle ++ after)) other) :
    ∃ front rest, other = front ++ (middle ++ rest) ∧ front.length = before.length := by
  have held : (other.drop before.length).take middle.length = middle := by
    refine List.ext_getElem? fun place => ?_
    rw [List.getElem?_take, List.getElem?_drop]
    split
    · rename_i within
      rw [agree _ (Nat.le_add_right _ _) (Nat.add_lt_add_left within _),
        List.getElem?_append_right (Nat.le_add_right _ _), Nat.add_sub_cancel_left,
        List.getElem?_append_left within]
    · rename_i beyond
      exact (List.getElem?_eq_none (Nat.le_of_not_lt beyond)).symm
  have reached : before.length ≤ other.length := by
    by_contra short
    rw [List.drop_eq_nil_of_le (by omega), List.take_nil] at held
    exact filled held.symm
  refine ⟨other.take before.length, (other.drop before.length).drop middle.length, ?_,
    List.length_take_of_le reached⟩
  calc other = other.take before.length ++ other.drop before.length :=
        (List.take_append_drop _ _).symm
    _ = other.take before.length ++ ((other.drop before.length).take middle.length ++
          (other.drop before.length).drop middle.length) := by rw [List.take_append_drop middle.length]
    _ = other.take before.length ++ (middle ++ (other.drop before.length).drop middle.length) := by
        rw [held]

/-- **The same tag is read where the same characters stand**, whatever is before and behind them. -/
theorem readAt?_of_agree {text other : Text} {position : Nat} {placed : Placed}
    (read : readAt? text position = some placed) (agree : Agree position placed.stop text other) :
    readAt? other position = some placed := by
  obtain ⟨before, inside, after, tag, rfl, rfl, rfl, _, again⟩ := exists_split_of_readAt read
  have whole (rest : Text) : '<' :: (inside ++ '>' :: rest) = ('<' :: (inside ++ ['>'])) ++ rest := by simp
  have span : inside.length + 2 = ('<' :: (inside ++ ['>'])).length := by simp
  dsimp only at agree
  rw [whole, span] at agree
  obtain ⟨front, rest, rfl, place⟩ := agree.exists_split (List.cons_ne_nil _ _)
  rw [← whole, ← place]
  exact readAt?_of_read (again rest)

/-- **No tag is read in a text that is cut off inside it.** A tag that were read there would be read in the
whole text as well, and end too early. -/
theorem readAt?_take {text : Text} {position length : Nat} {placed : Placed}
    (read : readAt? text position = some placed) (short : length < placed.stop) :
    readAt? (text.take length) position = none := by
  cases cut : readAt? (text.take length) position with
  | none => rfl
  | some other =>
    have ends : other.stop ≤ length :=
      (stands_of_readAt cut).2.inside.trans (List.length_take_le _ _)
    have agree : Agree position other.stop (text.take length) text := by
      intro place _ within
      rw [List.getElem?_take_of_lt (by omega)]
    have same := readAt?_of_agree cut agree
    rw [read] at same
    cases same
    omega

/-- **A tag that is read at a position stands there and is local**: every text with the same characters from
its `<` to its `>` has the same tag there, and a text that is cut off before the `>` has none. -/
theorem readAt?_stands {text : Text} {position : Nat} {placed : Placed}
    (read : readAt? text position = some placed) :
    placed.start = position ∧ Stands text placed ∧
      (∀ other, Agree position placed.stop text other → readAt? other position = some placed) ∧
      ∀ length < placed.stop, readAt? (text.take length) position = none := by
  obtain ⟨start, stands⟩ := stands_of_readAt read
  exact ⟨start, stands, fun other agree => readAt?_of_agree read agree,
    fun length short => readAt?_take read short⟩

/-- A text with a single tag whose value holds the end of a tag. -/
def quotedEnd : Text := "a<b c='/>' d=x//>e".toList

/-- The tag in that text. -/
def quotedEndTag : Placed := ⟨⟨['b'], false, true, [(['c'], ['/', '>']), (['d'], ['x', '/'])]⟩, 1, 17⟩

/-- A tag does not end inside a value in quotes, and a value without quotes leaves the `/>` alone. -/
theorem readAt?_stands_quotedEnd :
    readAt? quotedEnd 1 = some quotedEndTag ∧ quotedEndTag.start = 1 ∧ Stands quotedEnd quotedEndTag ∧
      (∀ other, Agree 1 17 quotedEnd other → readAt? other 1 = some quotedEndTag) ∧
      ∀ length < 17, readAt? (quotedEnd.take length) 1 = none := by
  have read : readAt? quotedEnd 1 = some quotedEndTag := by cbv
  exact ⟨read, readAt?_stands read⟩

end Tag

end PromptWeave
