/-
**The grammar of placeholders.**

A placeholder is two braces, blanks, a dotted name, blanks and two braces, or the same with three braces on
each side. A dotted name is a word that begins with a letter or an underscore, and parts behind it, each a
dot before a word. What is read at the start of a text is exactly what the grammar spells there, and it
spells at most one thing. Main statements:

* `Placeholder.Spelling`: the ways to spell a placeholder;
* `Placeholder.read?_eq_some_iff`: what is read is what the grammar spells;
* `Placeholder.Spelling.unique`: a text begins with at most one spelling.
-/

import Mathlib
import PromptWeave.Markup.Placeholder

namespace PromptWeave

open Text

namespace Placeholder

/-! ### The grammar -/

/-- A word: characters of names. -/
def IsWord (word : Text) : Prop := ∀ c ∈ word, inName c = true

/-- The parts of a name behind its first word: each is a dot before a word that is not empty. -/
inductive IsParts : Text → Prop
  | nil : IsParts []
  | part {word parts : Text} (inhabited : word ≠ []) (solid : IsWord word) (more : IsParts parts) :
    IsParts ('.' :: (word ++ parts))

/-- A dotted name. -/
inductive IsName : Text → Prop
  | dotted {first : Char} {word parts : Text} (starts : startsName first = true) (solid : IsWord word)
    (more : IsParts parts) : IsName (first :: (word ++ parts))

/-- A way to spell a placeholder. -/
@[ext]
structure Spelling where
  /-- Whether there are three braces on each side. -/
  isTriple : Bool
  before : Text
  name : Text
  behind : Text
  before_blank : ∀ c ∈ before, isBlank c = true
  behind_blank : ∀ c ∈ behind, isBlank c = true
  isName : IsName name

namespace Spelling

/-- The braces on one side. -/
def braces (spelling : Spelling) (brace : Char) : Text :=
  if spelling.isTriple then [brace, brace, brace] else [brace, brace]

/-- The text of a spelling. -/
def text (spelling : Spelling) : Text :=
  spelling.braces '\x7b' ++ (spelling.before ++ (spelling.name ++
    (spelling.behind ++ spelling.braces '\x7d')))

end Spelling

/-! ### Kinds of characters -/

theorem toNat_lt_of_inName {c : Char} (inside : inName c = true) : c.toNat < 128 := by
  simp only [inName, Char.isAlphanum, Char.isAlpha, Char.isUpper, Char.isLower, Char.isDigit, Bool.or_eq_true,
    Bool.and_eq_true, decide_eq_true_eq, beq_iff_eq] at inside
  rcases inside with ((upper | lower) | digit) | rfl
  · exact Nat.lt_of_le_of_lt upper.2 (by decide)
  · exact Nat.lt_of_le_of_lt lower.2 (by decide)
  · exact Nat.lt_of_le_of_lt digit.2 (by decide)
  · decide

/-- **A character of a name** is neither a blank nor one of the signs of the grammar. -/
theorem solid_of_inName {c : Char} (inside : inName c = true) :
    isBlank c = false ∧ c ≠ '.' ∧ c ≠ '\x7b' := by
  have all : inName c = true → isBlank c = false ∧ c ≠ '.' ∧ c ≠ '\x7b' :=
    forall_small (toNat_lt_of_inName inside) (by decide)
  exact all inside

theorem inName_of_startsName {c : Char} (starts : startsName c = true) : inName c = true := by
  simp only [startsName, inName, Char.isAlphanum, Bool.or_eq_true] at starts ⊢
  rcases starts with letter | line
  · exact .inl (.inl letter)
  · exact .inr line

/-- A name begins with a character of names. -/
theorem IsName.exists_cons {name : Text} (named : IsName name) :
    ∃ c rest, name = c :: rest ∧ inName c = true := by
  cases named with
  | dotted starts solid more => exact ⟨_, _, rfl, inName_of_startsName starts⟩

/-- The characters of a name are among the first 128. -/
theorem IsParts.small {parts : Text} (more : IsParts parts) : ∀ c ∈ parts, c.toNat < 128 := by
  induction more with
  | nil =>
    intro c inside
    cases inside
  | part inhabited solid more ih =>
    intro c inside
    rcases List.mem_cons.mp inside with rfl | inside
    · decide
    · rcases List.mem_append.mp inside with inside | inside
      · exact toNat_lt_of_inName (solid c inside)
      · exact ih c inside

theorem IsName.small {name : Text} (named : IsName name) : ∀ c ∈ name, c.toNat < 128 := by
  cases named with
  | dotted starts solid more =>
    intro c inside
    rcases List.mem_cons.mp inside with rfl | inside
    · exact toNat_lt_of_inName (inName_of_startsName starts)
    · rcases List.mem_append.mp inside with inside | inside
      · exact toNat_lt_of_inName (solid c inside)
      · exact more.small c inside

/-! ### What is spelled is read -/

/-- A text that does not go on with a name. -/
def EndsName (text : Text) : Prop := ∀ c ∈ text.head?, inName c = false ∧ c ≠ '.'

theorem IsParts.ends {parts rest : Text} (more : IsParts parts) (ends : EndsName rest) :
    ∀ c ∈ (parts ++ rest).head?, inName c = false := by
  cases more with
  | nil => exact fun c inside => (ends c inside).1
  | part =>
    intro c inside
    cases inside
    rfl

theorem readParts_of_isParts {parts rest : Text} (more : IsParts parts) (ends : EndsName rest) :
    readParts (parts ++ rest) = (parts, rest) := by
  induction more with
  | nil =>
    rw [List.nil_append]
    unfold readParts
    split
    · exact absurd rfl (ends '.' rfl).2
    · rfl
  | @part word parts inhabited solid more ih =>
    obtain ⟨c, word, rfl⟩ := List.exists_cons_of_ne_nil inhabited
    have here := solid c List.mem_cons_self
    obtain ⟨taken, left⟩ := span_append (fun d inside => solid d (List.mem_cons_of_mem _ inside)) (more.ends ends)
    rw [List.cons_append, List.append_assoc, List.cons_append, readParts, if_pos here, taken, left, ih]
    rfl

/-- **A name is read** up to where it ends. -/
theorem readName_of_isName {name rest : Text} (named : IsName name) (ends : EndsName rest) :
    readName (name ++ rest) = some (name, rest) := by
  cases named with
  | dotted starts solid more =>
    obtain ⟨taken, left⟩ := span_append solid (more.ends ends)
    rw [List.cons_append, List.append_assoc, readName, if_pos starts, taken, left,
      readParts_of_isParts more ends]
    rfl

/-! ### What is read is spelled -/

/-- **Parts that are read** are what the text begins with. -/
theorem readParts_spec (text : Text) :
    text = (readParts text).1 ++ (readParts text).2 ∧ IsParts (readParts text).1 := by
  fun_induction readParts text with
  | case1 c rest inside parts ih =>
    obtain ⟨whole, more⟩ := ih
    have word : IsWord (c :: rest.takeWhile inName) := by
      intro d among
      rcases List.mem_cons.mp among with rfl | among
      · exact inside
      · exact List.mem_takeWhile_imp among
    refine ⟨?_, .part (List.cons_ne_nil _ _) word more⟩
    calc '.' :: c :: rest = '.' :: c :: (rest.takeWhile inName ++ rest.dropWhile inName) := by
          rw [List.takeWhile_append_dropWhile]
      _ = '.' :: c :: (rest.takeWhile inName ++ (parts.1 ++ parts.2)) := by rw [← whole]
      _ = _ := by simp only [List.cons_append, List.append_assoc]
  | case2 => exact ⟨rfl, .nil⟩
  | case3 => exact ⟨rfl, .nil⟩

/-- **A name that is read** is what the text begins with. -/
theorem readName_spec {text name rest : Text} (read : readName text = some (name, rest)) :
    text = name ++ rest ∧ IsName name := by
  cases text with
  | nil => cases read
  | cons c text =>
    rw [readName] at read
    split at read
    · rename_i starts
      cases read
      obtain ⟨whole, more⟩ := readParts_spec (text.dropWhile inName)
      refine ⟨?_, .dotted starts (fun d among => List.mem_takeWhile_imp among) more⟩
      simp only [List.cons_append, List.append_assoc]
      rw [← whole, List.takeWhile_append_dropWhile]
    · cases read

/-! ### Braces -/

/-- A text that closes a placeholder does not go on with a name. -/
theorem endsName_behind {behind closing rest : Text} (blank : ∀ c ∈ behind, isBlank c = true)
    (brace : closing.head? = some '\x7d') : EndsName (behind ++ (closing ++ rest)) := by
  intro c first
  cases behind with
  | nil =>
    obtain ⟨more, rfl⟩ := List.head?_eq_some_iff.mp brace
    cases first
    decide
  | cons d behind =>
    have here := blank d List.mem_cons_self
    cases first
    constructor
    · by_contra inside
      rw [(solid_of_inName (Bool.not_eq_false _ ▸ inside)).1] at here
      cases here
    · rintro rfl
      cases here

/-- Blanks before a text that begins with none are all that is taken off its left end. -/
theorem stripLeft_before {before rest : Text} (blank : ∀ c ∈ before, isBlank c = true)
    (solid : ∀ c, rest.head? = some c → isBlank c = false) : stripLeft (before ++ rest) = rest :=
  (span_append blank solid).2

/-- **What stands between the braces** is read exactly if it is a name with blanks around it. -/
theorem readInside_eq_some_iff {closing text name rest : Text} (brace : closing.head? = some '\x7d') :
    readInside closing text = some (name, rest) ↔
      ∃ before behind, (∀ c ∈ before, isBlank c = true) ∧ (∀ c ∈ behind, isBlank c = true) ∧ IsName name ∧
        text = before ++ (name ++ (behind ++ (closing ++ rest))) := by
  constructor
  · intro read
    unfold readInside at read
    split at read
    · cases read
    · rename_i found after reading
      dsimp only at read
      split at read
      · rename_i closes
        cases read
        obtain ⟨whole, named⟩ := readName_spec reading
        obtain ⟨rest, closed⟩ := List.isPrefixOf_iff_prefix.mp closes
        refine ⟨text.takeWhile isBlank, after.takeWhile isBlank, fun c inside => List.mem_takeWhile_imp inside,
          fun c inside => List.mem_takeWhile_imp inside, named, ?_⟩
        rw [← closed, List.drop_left, closed, stripLeft, List.takeWhile_append_dropWhile, ← whole, stripLeft,
          List.takeWhile_append_dropWhile]
      · cases read
  · rintro ⟨before, behind, before_blank, behind_blank, named, rfl⟩
    have start : stripLeft (before ++ (name ++ (behind ++ (closing ++ rest)))) =
        name ++ (behind ++ (closing ++ rest)) := by
      apply stripLeft_before before_blank
      obtain ⟨c, more, rfl, inside⟩ := named.exists_cons
      rintro _ ⟨⟩
      exact (solid_of_inName inside).1
    have finish : stripLeft (behind ++ (closing ++ rest)) = closing ++ rest := by
      apply stripLeft_before behind_blank
      obtain ⟨more, rfl⟩ := List.head?_eq_some_iff.mp brace
      rintro _ ⟨⟩
      rfl
    unfold readInside
    rw [start, readName_of_isName named (endsName_behind behind_blank brace)]
    dsimp only
    rw [finish, if_pos (List.isPrefixOf_iff_prefix.mpr (List.prefix_append _ _)), List.drop_left]

namespace Spelling

variable (spelling : Spelling)

/-- What stands between the braces does not begin with one. -/
theorem head?_inside (rest : Text) :
    (spelling.before ++ (spelling.name ++ rest)).head? ≠ some '\x7b' := by
  intro first
  cases inside : spelling.before with
  | nil =>
    obtain ⟨c, more, whole, inside'⟩ := spelling.isName.exists_cons
    rw [inside, whole] at first
    cases first
    exact (solid_of_inName inside').2.2 rfl
  | cons c before =>
    rw [inside] at first
    cases first
    have blank := spelling.before_blank '\x7b' (inside ▸ List.mem_cons_self)
    cases blank

/-- **What is spelled is read,** whatever follows it. -/
theorem read?_text (rest : Text) : read? (spelling.text ++ rest) = some (spelling.name, rest) := by
  cases isTriple : spelling.isTriple with
  | true =>
    have whole : spelling.text ++ rest = '\x7b' :: '\x7b' :: '\x7b' :: (spelling.before ++ (spelling.name ++
        (spelling.behind ++ (['\x7d', '\x7d', '\x7d'] ++ rest)))) := by
      simp [text, braces, isTriple]
    rw [whole, read?]
    exact (readInside_eq_some_iff rfl).mpr
      ⟨_, _, spelling.before_blank, spelling.behind_blank, spelling.isName, rfl⟩
  | false =>
    have whole : spelling.text ++ rest = '\x7b' :: '\x7b' :: (spelling.before ++ (spelling.name ++
        (spelling.behind ++ (['\x7d', '\x7d'] ++ rest)))) := by
      simp [text, braces, isTriple]
    rw [whole, read?]
    · exact (readInside_eq_some_iff rfl).mpr
        ⟨_, _, spelling.before_blank, spelling.behind_blank, spelling.isName, rfl⟩
    · intro more same
      exact spelling.head?_inside _ (congrArg List.head? same)

end Spelling

/-- **What is read at the start of a text** is what the grammar spells there. -/
theorem read?_eq_some_iff {text name rest : Text} :
    read? text = some (name, rest) ↔
      ∃ spelling : Spelling, spelling.name = name ∧ text = spelling.text ++ rest := by
  constructor
  · intro read
    unfold read? at read
    split at read
    · obtain ⟨before, behind, before_blank, behind_blank, named, rfl⟩ := (readInside_eq_some_iff rfl).mp read
      refine ⟨⟨true, before, name, behind, before_blank, behind_blank, named⟩, rfl, ?_⟩
      simp [Spelling.text, Spelling.braces]
    · obtain ⟨before, behind, before_blank, behind_blank, named, rfl⟩ := (readInside_eq_some_iff rfl).mp read
      refine ⟨⟨false, before, name, behind, before_blank, behind_blank, named⟩, rfl, ?_⟩
      simp [Spelling.text, Spelling.braces]
    · cases read
  · rintro ⟨spelling, rfl, rfl⟩
    exact spelling.read?_text rest

namespace Spelling

/-- The third character tells how many braces there are. -/
theorem isTriple_iff (spelling : Spelling) :
    spelling.isTriple = true ↔ (spelling.text.drop 2).head? = some '\x7b' := by
  cases isTriple : spelling.isTriple with
  | true => simp [text, braces, isTriple]
  | false =>
    have inside := spelling.head?_inside (spelling.behind ++ spelling.braces '\x7d')
    simpa [text, braces, isTriple] using inside

/-- The blanks at its left end are what is taken off what stands between the braces. -/
theorem takeWhile_inside (spelling : Spelling) (rest : Text) :
    (spelling.before ++ (spelling.name ++ rest)).takeWhile isBlank = spelling.before := by
  refine (span_append spelling.before_blank ?_).1
  obtain ⟨c, more, whole, inside⟩ := spelling.isName.exists_cons
  rw [whole]
  rintro _ ⟨⟩
  exact (solid_of_inName inside).1

/-- **A text begins with at most one spelling.** -/
theorem unique {first second : Spelling} {rest rest' : Text}
    (same : first.text ++ rest = second.text ++ rest') : first = second ∧ rest = rest' := by
  have read := first.read?_text rest
  rw [same, second.read?_text rest'] at read
  obtain ⟨name, rfl⟩ := Prod.mk.inj (Option.some.inj read)
  have texts : first.text = second.text := List.append_cancel_right same
  have isTriple : first.isTriple = second.isTriple := by
    rw [Bool.eq_iff_iff, first.isTriple_iff, second.isTriple_iff, texts]
  have braces : ∀ brace, first.braces brace = second.braces brace := by
    intro brace
    rw [Spelling.braces, Spelling.braces, isTriple]
  have inside : first.before ++ (first.name ++ (first.behind ++ second.braces '\x7d')) =
      second.before ++ (second.name ++ (second.behind ++ second.braces '\x7d')) := by
    rw [text, text, braces, braces] at texts
    exact List.append_cancel_left texts
  have before : first.before = second.before := by
    rw [← first.takeWhile_inside, inside, second.takeWhile_inside]
  have behind : first.behind = second.behind := by
    rw [before, name] at inside
    exact List.append_cancel_right (List.append_cancel_left (List.append_cancel_left inside))
  exact ⟨Spelling.ext isTriple before name.symm behind, rfl⟩

end Spelling

end Placeholder

end PromptWeave
