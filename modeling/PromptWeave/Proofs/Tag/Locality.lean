/-
**Reading a tag is local.**

Whether a tag begins at a place and which one it is hangs on the characters from its `<` to its `>`
alone: whatever stands behind them is left over as it is. So does the question whether a tag of some
name may begin there. Main statements:

* `Tag.readQuoted_eq_some_iff`: a value in quotes ends at the first such quote;
* `Tag.readAttributes_local`: the attributes and the end of a tag are read up to a `>`;
* `Tag.read?_local`: a tag is read alike in front of every other text;
* `Tag.mayStart_local`: a name is found in it or not, whatever follows;
* `Tag.read?_suffix` and `Tag.afterClosing?_suffix`: what is left over is the end of the text.
-/

import Mathlib.Data.List.TakeWhile
import PromptWeave.Markup.Tag

namespace PromptWeave

open Text

namespace Tag

/-! ### Kinds of characters -/

theorem head?_local (front after other : Text) :
    (front ++ '>' :: after).head? = (front ++ '>' :: other).head? := by
  cases front <;> rfl

/-- Where a text is taken apart in front of a `>`, it is so whatever follows the `>`. -/
theorem span_local {p : Char → Bool} {text front after : Text}
    (split : text.dropWhile p = front ++ '>' :: after) (other : Text) :
    (text.takeWhile p ++ (front ++ '>' :: other)).takeWhile p = text.takeWhile p ∧
      (text.takeWhile p ++ (front ++ '>' :: other)).dropWhile p = front ++ '>' :: other := by
  refine span_append (fun c => List.mem_takeWhile_imp) fun c begins => ?_
  rw [head?_local front other after, ← split] at begins
  have stops := List.head?_dropWhile_not p text
  rw [begins] at stops
  exact stops

/-! ### Values -/

/-- **A value in quotes ends at the first such quote.** -/
theorem readQuoted_eq_some_iff {quote : Char} {text value after : Text} :
    readQuoted quote text = some (value, after) ↔
      quote ∉ value ∧ text = value ++ quote :: after := by
  induction text generalizing value with
  | nil => simp [readQuoted]
  | cons c rest ih =>
    rw [readQuoted]
    by_cases same : c = quote
    · subst same
      rw [if_pos rfl]
      cases value with
      | nil => simp
      | cons d value =>
        simp only [Option.some.injEq, Prod.mk.injEq, List.mem_cons, List.cons_append,
          List.cons.injEq, not_or]
        constructor
        · rintro ⟨impossible, _⟩
          cases impossible
        · rintro ⟨⟨other, _⟩, equal, _⟩
          exact absurd equal other
    · rw [if_neg same]
      cases value with
      | nil =>
        simp only [Option.map_eq_some_iff, Prod.mk.injEq, List.nil_append, List.cons.injEq]
        constructor
        · rintro ⟨_, _, impossible, _⟩
          cases impossible
        · rintro ⟨_, equal, _⟩
          exact absurd equal same
      | cons d value =>
        simp only [Option.map_eq_some_iff, Prod.mk.injEq, List.cons.injEq, List.mem_cons,
          List.cons_append, not_or]
        constructor
        · rintro ⟨⟨inner, left⟩, found, ⟨rfl, rfl⟩, rfl⟩
          obtain ⟨free, split⟩ := ih.mp found
          exact ⟨⟨Ne.symm same, free⟩, rfl, split⟩
        · rintro ⟨⟨_, free⟩, rfl, split⟩
          exact ⟨(value, after), ih.mpr ⟨free, split⟩, ⟨rfl, rfl⟩, rfl⟩

/-- Whether a value without quotes is over where a text begins. -/
def endsBare : Text → Bool
  | [] => true
  | c :: rest =>
    isBlank c || c == '>' || c == '"' || c == '\'' || c == '<'
      || (c == '/' && rest.head? == some '>')

theorem readBare_of_ends {text : Text} (ends : endsBare text = true) :
    readBare text = ([], text) := by
  cases text with
  | nil => rfl
  | cons c rest => exact if_pos ends

theorem readBare_cons {c : Char} {rest : Text} (goes : endsBare (c :: rest) = false) :
    readBare (c :: rest) = (c :: (readBare rest).1, (readBare rest).2) :=
  if_neg ((Bool.not_eq_true _).mpr goes)

/-- Up to a `>` the end of a value does not hang on what follows. -/
theorem endsBare_local (front after other : Text) :
    endsBare (front ++ '>' :: after) = endsBare (front ++ '>' :: other) := by
  cases front with
  | nil => rfl
  | cons c front => cases front <;> rfl

/-- A way of reading that hangs on the text up to the next `>` only: what is read in front of a
text with a `>` is read in front of every text that is the same up to there. -/
def IsLocal (reader : Text → Option (Text × Text)) : Prop :=
  ∀ text value front after, reader text = some (value, front ++ '>' :: after) →
    ∃ start, text = start ++ (front ++ '>' :: after) ∧
      ∀ other, reader (start ++ (front ++ '>' :: other)) = some (value, front ++ '>' :: other)

theorem isLocal_readBare : IsLocal fun text => some (readBare text) := by
  intro text value front after read
  dsimp only at read ⊢
  induction text generalizing value with
  | nil =>
    have empty := congrArg Prod.snd (Option.some.inj read)
    simp [readBare] at empty
  | cons c rest ih =>
    cases ends : endsBare (c :: rest) with
    | true =>
      rw [readBare_of_ends ends] at read
      obtain ⟨rfl, split⟩ := Prod.mk.inj (Option.some.inj read)
      refine ⟨[], split, fun other => ?_⟩
      rw [split, endsBare_local front after other] at ends
      exact congrArg some (readBare_of_ends ends)
    | false =>
      rw [readBare_cons ends] at read
      obtain ⟨rfl, left⟩ := Prod.mk.inj (Option.some.inj read)
      obtain ⟨start, split, again⟩ := ih _ (congrArg some (Prod.ext rfl left))
      refine ⟨c :: start, by rw [split, List.cons_append], fun other => ?_⟩
      have goes : endsBare (c :: (start ++ (front ++ '>' :: other))) = false := by
        rw [← ends, split, ← List.append_assoc, ← List.append_assoc]
        exact endsBare_local (c :: (start ++ front)) other after
      rw [List.cons_append, readBare_cons goes, Option.some.inj (again other)]

/-- A value in quotes or without, where no blank is in front of it. -/
def readWord : Text → Option (Text × Text)
  | [] => none
  | c :: rest => if c = '"' ∨ c = '\'' then readQuoted c rest else some (readBare (c :: rest))

theorem isLocal_readWord : IsLocal readWord := by
  intro text value front after read
  cases text with
  | nil => cases read
  | cons c rest =>
    rw [readWord] at read
    split at read
    · rename_i quoted
      obtain ⟨free, rfl⟩ := readQuoted_eq_some_iff.mp read
      refine ⟨c :: value ++ [c], by simp, fun other => ?_⟩
      simp only [List.cons_append, List.append_assoc, List.nil_append]
      rw [readWord, if_pos quoted]
      exact readQuoted_eq_some_iff.mpr ⟨free, rfl⟩
    · rename_i bare
      obtain ⟨start, split, again⟩ := isLocal_readBare _ _ _ _ read
      refine ⟨start, split, fun other => ?_⟩
      have head : (start ++ (front ++ '>' :: other)).head? = some c := by
        rw [← List.append_assoc, head?_local (start ++ front) other after, List.append_assoc,
          ← split]
        rfl
      obtain ⟨rest', same⟩ := List.head?_eq_some_iff.mp head
      rw [same, readWord, if_neg bare, ← same]
      exact again other

/-- Blanks in front do no harm. -/
theorem IsLocal.stripLeft {reader : Text → Option (Text × Text)} (isLocal : IsLocal reader) :
    IsLocal fun text => reader (stripLeft text) := by
  intro text value front after read
  obtain ⟨start, split, again⟩ := isLocal _ _ _ _ read
  have parts : text.takeWhile isBlank ++ (start ++ (front ++ '>' :: after)) = text := by
    rw [← split]
    exact List.takeWhile_append_dropWhile
  refine ⟨text.takeWhile isBlank ++ start, by rw [List.append_assoc, parts], fun other => ?_⟩
  rw [← List.append_assoc] at split
  have stripped : Text.stripLeft (text.takeWhile isBlank ++ (start ++ front ++ '>' :: other)) =
      start ++ front ++ '>' :: other := (span_local split other).2
  rw [List.append_assoc] at stripped
  dsimp only
  rw [List.append_assoc, stripped]
  exact again other

/-- The value after the name of an attribute, where no blank is in front of the sign. -/
def readAssigned : Text → Option (Text × Text)
  | '=' :: assigned => readWord (Text.stripLeft assigned)
  | other => some ([], other)

theorem readValue_eq (text : Text) : readValue text = readAssigned (Text.stripLeft text) := rfl

theorem isLocal_readAssigned : IsLocal readAssigned := by
  intro text value front after read
  unfold readAssigned at read
  split at read
  · rename_i assigned
    obtain ⟨start, rfl, again⟩ := isLocal_readWord.stripLeft _ _ _ _ read
    exact ⟨'=' :: start, rfl, again⟩
  · rename_i unsigned
    cases read
    refine ⟨[], rfl, fun other => ?_⟩
    rw [List.nil_append, readAssigned]
    intro assigned begins
    have head := head?_local front after other
    rw [begins] at head
    obtain ⟨rest, same⟩ := List.head?_eq_some_iff.mp head
    exact unsigned rest same

theorem isLocal_readValue : IsLocal readValue := isLocal_readAssigned.stripLeft

/-! ### Attributes -/

section Attributes

variable {closing selfClosing : Bool} {attributes found : Entries Text Text}

theorem readAttributes_blank {c : Char} (blank : isBlank c = true) (rest : Text) :
    readAttributes closing attributes (c :: rest) = readAttributes closing attributes rest := by
  rw [readAttributes, if_pos blank]

theorem readAttributes_end (rest : Text) :
    readAttributes closing attributes ('>' :: rest) = some (attributes, false, rest) := by
  rw [readAttributes, if_neg (by decide), if_pos rfl]

theorem readAttributes_slash (rest : Text) :
    readAttributes closing attributes ('/' :: '>' :: rest) = some (attributes, true, rest) := by
  rw [readAttributes, if_neg (by decide), if_neg (by decide), if_pos ⟨rfl, rfl⟩]
  rfl

theorem readAttributes_attribute {c : Char} {rest value after : Text}
    (inside : inAttribute c = true)
    (read : readValue (rest.dropWhile inAttribute) = some (value, after)) :
    readAttributes false attributes (c :: rest) =
      readAttributes false (attributes.put (· == ·) (c :: rest.takeWhile inAttribute) value)
        after := by
  have solid : ¬ isBlank c = true := by
    intro blank
    simp [inAttribute, blank] at inside
  have going : c ≠ '>' := by
    rintro rfl
    simp [inAttribute, stopsAttribute] at inside
  have plain : ¬ (c = '/' ∧ rest.head? = some '>') := by
    rintro ⟨rfl, _⟩
    simp [inAttribute, stopsAttribute] at inside
  rw [readAttributes, if_neg solid, if_neg going, if_neg plain, if_neg Bool.false_ne_true,
    if_pos inside]
  split
  · rename_i nothing
    rw [read] at nothing
    cases nothing
  · rename_i value' after' again
    rw [read] at again
    cases again
    rfl

/-- **The attributes and the end of a tag are read up to a `>`**, and alike whatever follows it. -/
theorem readAttributes_local {text after : Text}
    (read : readAttributes closing attributes text = some (found, selfClosing, after)) :
    ∃ front, text = front ++ '>' :: after ∧
      ∀ other, readAttributes closing attributes (front ++ '>' :: other) =
        some (found, selfClosing, other) := by
  fun_induction readAttributes closing attributes text with
  | case1 => cases read
  | case2 attributes c rest blank ih =>
    obtain ⟨front, rfl, again⟩ := ih read
    refine ⟨c :: front, rfl, fun other => ?_⟩
    rw [List.cons_append, readAttributes_blank blank]
    exact again other
  | case3 attributes rest _ =>
    cases read
    exact ⟨[], rfl, readAttributes_end⟩
  | case4 attributes c rest _ _ closes =>
    obtain ⟨rfl, head⟩ := closes
    obtain ⟨rest, rfl⟩ := List.head?_eq_some_iff.mp head
    cases read
    exact ⟨['/'], rfl, readAttributes_slash⟩
  | case5 => cases read
  | case6 => cases read
  | case7 attributes c rest _ _ _ opens inside value between reading ih =>
    obtain rfl : closing = false := (Bool.not_eq_true _).mp opens
    obtain ⟨front, rfl, again⟩ := ih read
    obtain ⟨start, split, valued⟩ := isLocal_readValue _ _ _ _ reading
    rw [← List.append_assoc] at split
    refine ⟨c :: (rest.takeWhile inAttribute ++ (start ++ front)), ?_, fun other => ?_⟩
    · rw [List.cons_append, List.append_assoc, ← split, List.takeWhile_append_dropWhile]
    · obtain ⟨taken, dropped⟩ := span_local split other
      rw [List.cons_append, List.append_assoc]
      rw [readAttributes_attribute inside (by rw [dropped, List.append_assoc]; exact valued other),
        taken]
      exact again other
  | case8 => cases read

end Attributes

/-! ### Tags -/

/-- What is known of a name that has been read: it starts and goes on as names do. -/
def IsName : Text → Prop
  | [] => False
  | c :: rest => startsName c = true ∧ ∀ d ∈ rest, continuesName d = true

theorem readBody_local {closing : Bool} {text after : Text} {tag : Tag}
    (read : readBody closing text = some (tag, after)) :
    IsName tag.name ∧ tag.closing = closing ∧ ∃ front, text = front ++ '>' :: after ∧
      ∀ other, readBody closing (front ++ '>' :: other) = some (tag, other) := by
  unfold readBody at read
  split at read
  · cases read
  · rename_i c rest
    split at read
    · rename_i starts
      obtain ⟨⟨attributes, selfClosing, left⟩, inner, same⟩ := Option.map_eq_some_iff.mp read
      cases same
      refine ⟨⟨starts, fun d => List.mem_takeWhile_imp⟩, rfl, ?_⟩
      obtain ⟨front, split, again⟩ := readAttributes_local inner
      refine ⟨c :: (rest.takeWhile continuesName ++ front), ?_, fun other => ?_⟩
      · rw [List.cons_append, List.append_assoc, ← split, List.takeWhile_append_dropWhile]
      · obtain ⟨taken, dropped⟩ := span_local split other
        rw [List.cons_append, List.append_assoc, readBody, if_pos starts, taken, dropped,
          again other]
        rfl
    · cases read

/-- **A tag is read alike in front of every other text.** It goes from a `<` to a `>`. -/
theorem read?_local {text after : Text} {tag : Tag} (read : read? text = some (tag, after)) :
    IsName tag.name ∧ ∃ front, text = '<' :: front ++ '>' :: after ∧
      ∀ other, read? ('<' :: front ++ '>' :: other) = some (tag, other) := by
  unfold read? at read
  split at read
  · rename_i rest
    obtain ⟨named, _, front, rfl, again⟩ := readBody_local read
    exact ⟨named, '/' :: front, rfl, again⟩
  · rename_i rest opens
    obtain ⟨named, _, front, rfl, again⟩ := readBody_local read
    refine ⟨named, front, rfl, fun other => ?_⟩
    rw [List.cons_append, read?]
    · exact again other
    · intro rest begins
      -- The body of an opening tag begins as a name does and not with a slash.
      have head := head?_local front after other
      rw [begins] at head
      obtain ⟨rest, same⟩ := List.head?_eq_some_iff.mp head
      exact opens rest same
  · cases read

/-- No tag begins at another character. -/
theorem read?_of_ne {c : Char} (apart : c ≠ '<') (rest : Text) : read? (c :: rest) = none := by
  cases read : read? (c :: rest) with
  | none => rfl
  | some found =>
    obtain ⟨_, _, opens, _⟩ := read?_local read
    exact absurd (List.cons.inj opens).1 apart

/-! ### Names at the start of tags -/

/-- A name holds no character that neither starts a name nor goes on with one. -/
theorem notMem_of_isName {name : Text} {c : Char} (named : IsName name) (unstarted : startsName c = false)
    (ended : continuesName c = false) : c ∉ name := by
  cases name with
  | nil => exact named.elim
  | cons d rest =>
    intro member
    rcases List.mem_cons.mp member with rfl | member
    · rw [named.1] at unstarted
      cases unstarted
    · rw [named.2 c member] at ended
      cases ended

theorem gt_notMem_of_isName {name : Text} (named : IsName name) : '>' ∉ name :=
  notMem_of_isName named (by decide) (by decide)

theorem lt_notMem_of_isName {name : Text} (named : IsName name) : '<' ∉ name :=
  notMem_of_isName named (by decide) (by decide)

theorem slash_notMem_of_isName {name : Text} (named : IsName name) : '/' ∉ name :=
  notMem_of_isName named (by decide) (by decide)

/-- A name without `>` stands at the start of a text or not, whatever follows a `>`. -/
theorem namesStart_local {name : Text} (free : '>' ∉ name) (front after other : Text) :
    namesStart name (front ++ '>' :: after) = namesStart name (front ++ '>' :: other) := by
  induction name generalizing front with
  | nil => cases front <;> rfl
  | cons d name ih =>
    obtain ⟨apart, free⟩ : '>' ≠ d ∧ '>' ∉ name := by simpa using free
    cases front with
    | nil =>
      have other : (d == '>') = false := beq_eq_false_iff_ne.mpr (Ne.symm apart)
      simp [namesStart, List.isPrefixOf, other]
    | cons c front =>
      have inner := ih free front
      simp only [namesStart, List.cons_append, List.isPrefixOf, List.length_cons,
        List.drop_succ_cons, Bool.and_assoc] at inner ⊢
      rw [inner]

/-- **Whether a tag of a name may begin does not hang on what follows a `>`.** -/
theorem mayStart_local {name : Text} (free : '>' ∉ name) (c : Char) (front after other : Text) :
    mayStart name (c :: front ++ '>' :: after) = mayStart name (c :: front ++ '>' :: other) := by
  have opening (rest : Text) (plain : ∀ more, rest ≠ '/' :: more) :
      mayStart name (c :: rest) = namesStart name rest := by
    rw [mayStart]
    exact plain
  cases front with
  | nil =>
    simp only [List.cons_append, List.nil_append]
    rw [opening _ (by simp), opening _ (by simp)]
    exact namesStart_local free [] after other
  | cons d front =>
    by_cases slash : d = '/'
    · subst slash
      exact namesStart_local free front after other
    · simp only [List.cons_append]
      rw [opening _ (by simp [slash]), opening _ (by simp [slash])]
      exact namesStart_local free (d :: front) after other

/-! ### What is left over -/

/-- A tag ends with a `>`, and what follows it is the end of the text. -/
theorem read?_ends {text after : Text} {tag : Tag} (read : read? text = some (tag, after)) :
    '>' :: after <:+ text := by
  obtain ⟨_, front, rfl, _⟩ := read?_local read
  exact List.suffix_append ('<' :: front) ('>' :: after)

theorem read?_suffix {text after : Text} {tag : Tag} (read : read? text = some (tag, after)) :
    after <:+ text :=
  (List.suffix_cons '>' after).trans (read?_ends read)

/-- A balancing closing tag ends with a `>`, and what follows it is the end of the text. -/
theorem afterClosing?_ends {name text after : Text} {inner : Nat}
    (found : afterClosing? name inner text = some after) : '>' :: after <:+ text := by
  fun_induction afterClosing? name inner text with
  | case1 => cases found
  | case2 inner c rest _ _ ih => exact (ih found).trans (List.suffix_cons c rest)
  | case3 inner c rest _ tag between _ _ ih => exact (ih found).trans (List.suffix_cons c rest)
  | case4 c rest _ tag between reading =>
    cases found
    exact read?_ends reading
  | case5 c rest _ tag between reading _ _ inner ih => exact (ih found).trans (read?_suffix reading)
  | case6 inner c rest _ tag between reading _ _ ih => exact (ih found).trans (read?_suffix reading)
  | case7 inner c rest _ ih => exact (ih found).trans (List.suffix_cons c rest)

theorem afterClosing?_suffix {name text after : Text} {inner : Nat}
    (found : afterClosing? name inner text = some after) : after <:+ text :=
  (List.suffix_cons '>' after).trans (afterClosing?_ends found)

end Tag

end PromptWeave
