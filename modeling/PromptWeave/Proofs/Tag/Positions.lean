/-
**Reading tags by positions.**

A reader can keep the whole text and walk over it with a position: it looks at single characters, asks whether
a word stands at a place, searches for the next place where one does, and takes out what lies between two
places. Such a reader finds the tags and the ends of elements that are found by taking characters off the
front of what is left, because what the latter has left is always the rest of the text from the position of
the former on. Main statements:

* `Text.standsAt`, `Text.find`, `Text.skip`: what such a reader does with a text;
* `Tag.Follows`: two readers go the same way;
* `Tag.follows_attributesAt`: the attributes and the end of a tag;
* `Tag.tagAt?_eq`: the tag at a position;
* `Tag.closingFrom_eq`: the end of an element.
-/

import PromptWeave.Proofs.Tag.Balance
import PromptWeave.Proofs.Tag.Likeness

namespace PromptWeave

/-! ### Looking at a text -/

namespace Text

/-- Whether a word stands at a position. -/
def standsAt (word text : Text) (position : Nat) : Bool :=
  (List.range word.length).all fun k => text[position + k]? == word[k]?

/-- The first place from a position on at which a word stands. -/
def find (word text : Text) (position : Nat) : Option Nat :=
  (List.range' position (text.length - position)).find? (standsAt word text)

/-- The first place from a position on at which the text is over or has a character that does not go on. -/
def skip (goes : Nat → Char → Bool) (text : Text) (position : Nat) : Nat :=
  match _here : text[position]? with
  | none => position
  | some c => if goes position c then skip goes text (position + 1) else position
termination_by text.length - position
decreasing_by
  have := (List.getElem?_eq_some_iff.mp _here).1
  omega

variable {word text : Text} {position place : Nat} {c : Char}

theorem drop_of_getElem? (here : text[position]? = some c) :
    text.drop position = c :: text.drop (position + 1) := by
  obtain ⟨inside, rfl⟩ := List.getElem?_eq_some_iff.mp here
  exact List.drop_eq_getElem_cons inside

theorem drop_of_getElem?_none (ended : text[position]? = none) : text.drop position = [] :=
  List.drop_eq_nil_of_le (List.getElem?_eq_none_iff.mp ended)

theorem standsAt_iff : standsAt word text position = true ↔ word <+: text.drop position := by
  rw [standsAt, List.all_eq_true, List.prefix_iff_getElem?]
  simp only [List.mem_range, beq_iff_eq, List.getElem?_drop]
  refine forall₂_congr fun k inside => ?_
  rw [List.getElem?_eq_getElem inside]

theorem standsAt_singleton : standsAt [c] text position = true ↔ text[position]? = some c := by
  simp [standsAt]

theorem standsAt_pair {d : Char} : standsAt [c, d] text position = true ↔
    text[position]? = some c ∧ (text.drop (position + 1)).head? = some d := by
  simp [standsAt, List.range_succ]

/-- A word begins with the character at the place where it stands. -/
theorem getElem?_of_standsAt (stands : standsAt (c :: word) text position = true) :
    text[position]? = some c := by
  obtain ⟨rest, split⟩ := standsAt_iff.mp stands
  rw [← List.head?_drop, ← split]
  rfl

/-- **A search finds the first place** at which its word stands. -/
theorem find_eq_some_iff : find word text position = some place ↔
    standsAt word text place = true ∧ (position ≤ place ∧ place < text.length) ∧
      ∀ other, position ≤ other → other < place → standsAt word text other = false := by
  rw [find, List.find?_range'_eq_some]
  simp only [List.mem_range'_1, Bool.not_eq_true', and_congr_right_iff, and_congr_left_iff]
  intro _ _
  omega

theorem find_eq_none_iff : find word text position = none ↔
    ∀ place, position ≤ place → place < text.length → standsAt word text place = false := by
  rw [find, List.find?_range'_eq_none]
  simp only [Bool.not_eq_true']
  refine forall₂_congr fun place behind => ?_
  rw [show place < position + (text.length - position) ↔ place < text.length by omega]

/-- **A search for a character** finds its first place. -/
theorem find_singleton_eq_some_iff : find [c] text position = some place ↔
    text[place]? = some c ∧ position ≤ place ∧
      ∀ other, position ≤ other → other < place → text[other]? ≠ some c := by
  rw [find_eq_some_iff, standsAt_singleton]
  simp only [← Bool.not_eq_true, standsAt_singleton]
  constructor
  · rintro ⟨here, ⟨behind, _⟩, first⟩
    exact ⟨here, behind, first⟩
  · rintro ⟨here, behind, first⟩
    exact ⟨here, ⟨behind, (List.getElem?_eq_some_iff.mp here).1⟩, first⟩

theorem find_singleton_eq_none_iff : find [c] text position = none ↔
    ∀ place, position ≤ place → text[place]? ≠ some c := by
  rw [find_eq_none_iff]
  simp only [← Bool.not_eq_true, standsAt_singleton]
  refine forall₂_congr fun place _ => ⟨fun absent here => ?_, fun absent _ => absent⟩
  exact absent (List.getElem?_eq_some_iff.mp here).1 here

theorem le_skip (goes : Nat → Char → Bool) (text : Text) (position : Nat) :
    position ≤ skip goes text position := by
  fun_induction skip goes text position with
  | case1 | case3 => exact Nat.le_refl _
  | case2 _ _ _ _ ih => omega

theorem skip_eq_self_iff {goes : Nat → Char → Bool} (here : text[position]? = some c) :
    skip goes text position = position ↔ goes position c = false := by
  rw [skip]
  split
  · rename_i ended
    rw [here] at ended
    cases ended
  · rename_i d there
    cases here.symm.trans there
    have := le_skip goes text (position + 1)
    cases goes position c
    · simp
    · simp only [if_true, Bool.true_eq_false, iff_false]
      omega

theorem skip_le (goes : Nat → Char → Bool) (inside : position ≤ text.length) :
    skip goes text position ≤ text.length := by
  fun_induction skip goes text position with
  | case1 | case3 => exact inside
  | case2 position c here _ ih => exact ih (List.getElem?_eq_some_iff.mp here).1

theorem extract_self (text : Text) (position : Nat) : text.extract position position = [] := by
  simp

/-- What lies between two places begins with the character at the first one. -/
theorem extract_of_getElem? (here : text[position]? = some c) (behind : position < place) :
    text.extract position place = c :: text.extract (position + 1) place := by
  rw [List.extract_eq_take_drop, List.extract_eq_take_drop, drop_of_getElem? here,
    show place - position = place - (position + 1) + 1 by omega, List.take_succ_cons]

/-- What lies between two places and what comes behind the second one. -/
theorem extract_append_drop (behind : position ≤ place) :
    text.extract position place ++ text.drop place = text.drop position := by
  have there : text.drop place = (text.drop position).drop (place - position) := by
    rw [List.drop_drop, Nat.add_sub_cancel' behind]
  rw [List.extract_eq_take_drop, there, List.take_append_drop]

theorem exists_of_mem_extract (inside : c ∈ text.extract position place) :
    ∃ other, (position ≤ other ∧ other < place) ∧ text[other]? = some c := by
  rw [List.extract_eq_take_drop] at inside
  obtain ⟨k, there⟩ := List.mem_iff_getElem?.mp inside
  rw [List.getElem?_take, List.getElem?_drop, ite_eq_iff] at there
  obtain ⟨within, there⟩ | ⟨_, impossible⟩ := there
  · exact ⟨position + k, by omega, there⟩
  · cases impossible

/-- **What is skipped** are the characters of one kind that come first. -/
theorem skip_spec (p : Char → Bool) (text : Text) (position : Nat) :
    text.extract position (skip (fun _ => p) text position) = (text.drop position).takeWhile p ∧
      text.drop (skip (fun _ => p) text position) = (text.drop position).dropWhile p := by
  fun_induction skip (fun _ => p) text position with
  | case1 position ended => simp [drop_of_getElem?_none ended]
  | case2 position c here goes ih =>
    have behind := le_skip (fun _ => p) text (position + 1)
    rw [extract_of_getElem? here behind, ih.1, ih.2, drop_of_getElem? here,
      List.takeWhile_cons_of_pos goes, List.dropWhile_cons_of_pos goes]
    exact ⟨rfl, rfl⟩
  | case3 position c here stops =>
    rw [extract_self, drop_of_getElem? here, List.takeWhile_cons_of_neg stops,
      List.dropWhile_cons_of_neg stops]
    exact ⟨rfl, rfl⟩

end Text

open Text

/-! ### Tags -/

namespace Tag

variable {text : Text} {position : Nat}

/-- A reader by positions goes the way of one that takes characters off the front: it reads the same value or
nothing as well, and stops inside the text where the other has its rest. -/
structure Follows {α : Type} (text : Text) (found : Option (α × Nat)) (read : Option (α × Text)) :
    Prop where
  result : found.map (fun item => (item.1, text.drop item.2)) = read
  inside : ∀ value stop, found = some (value, stop) → stop ≤ text.length

/-- Whether a value without quotes goes on with a character at a position. -/
def bareAt (text : Text) (position : Nat) (c : Char) : Bool :=
  !isBlank c && c != '>' && c != '"' && c != '\'' && c != '<' && !standsAt ['/', '>'] text position

/-- The value that begins at a position, in quotes or without. -/
def wordAt? (text : Text) (position : Nat) : Option (Text × Nat) :=
  match text[position]? with
  | none => none
  | some quote =>
    if quote = '"' ∨ quote = '\'' then
      (find [quote] text (position + 1)).map fun close => (text.extract (position + 1) close, close + 1)
    else
      let stop := skip (bareAt text) text position
      some (text.extract position stop, stop)

/-- The value of an attribute whose name ends at a position. -/
def valueAt? (text : Text) (position : Nat) : Option (Text × Nat) :=
  let sign := skip (fun _ => isBlank) text position
  if text[sign]? = some '=' then wordAt? text (skip (fun _ => isBlank) text (sign + 1))
  else some ([], sign)

theorem le_of_wordAt? {value : Text} {stop : Nat} (found : wordAt? text position = some (value, stop)) :
    position ≤ stop := by
  unfold wordAt? at found
  split at found
  · cases found
  · split at found
    · obtain ⟨close, closes, same⟩ := Option.map_eq_some_iff.mp found
      have := (find_eq_some_iff.mp closes).2.1
      cases same
      omega
    · cases found
      exact le_skip _ text position

theorem le_of_valueAt? {value : Text} {stop : Nat} (found : valueAt? text position = some (value, stop)) :
    position ≤ stop := by
  have blanks := le_skip (fun _ => isBlank) text position
  unfold valueAt? at found
  dsimp only at found
  split at found
  · have more := le_skip (fun _ => isBlank) text (skip (fun _ => isBlank) text position + 1)
    have := le_of_wordAt? found
    omega
  · cases found
    exact blanks

/-- The attributes and the end of a tag, from a position behind its name on. -/
def attributesAt (closing : Bool) (text : Text) (attributes : Entries Text Text) (position : Nat) :
    Option ((Entries Text Text × Bool) × Nat) :=
  match _here : text[position]? with
  | none => none
  | some c =>
    if isBlank c then attributesAt closing text attributes (position + 1)
    else if c = '>' then some ((attributes, false), position + 1)
    else if standsAt ['/', '>'] text position then some ((attributes, true), position + 2)
    else if closing then none
    else
      let stop := skip (fun _ => inAttribute) text position
      if _named : stop = position then none
      else match _found : valueAt? text stop with
        | none => none
        | some (value, after) =>
          attributesAt closing text (attributes.put (· == ·) (text.extract position stop) value) after
termination_by text.length - position
decreasing_by
  · have := (List.getElem?_eq_some_iff.mp _here).1
    omega
  · have := (List.getElem?_eq_some_iff.mp _here).1
    have := le_skip (fun _ => inAttribute) text position
    have := le_of_valueAt? _found
    omega

/-- A tag from the position of its name on. -/
def bodyAt? (closing : Bool) (text : Text) (position : Nat) : Option (Tag × Nat) :=
  match text[position]? with
  | none => none
  | some c =>
    if startsName c then
      let behind := skip (fun _ => continuesName) text position
      (attributesAt closing text [] behind).map fun ((attributes, selfClosing), stop) =>
        (⟨text.extract position behind, closing, selfClosing, attributes⟩, stop)
    else none

/-- The tag at a position, with the position behind it. -/
def signAt? (text : Text) (position : Nat) : Option (Tag × Nat) :=
  if text[position]? = some '<' then
    if text[position + 1]? = some '/' then bodyAt? true text (position + 2)
    else bodyAt? false text (position + 1)
  else none

/-- The tag at a position, with its span. -/
def tagAt? (text : Text) (position : Nat) : Option Placed :=
  (signAt? text position).map fun (tag, stop) => ⟨tag, position, stop⟩

/-! ### The same tags -/

theorem follows_none {α : Type} : Follows text (none : Option (α × Nat)) none := ⟨rfl, nofun⟩

theorem follows_some {α : Type} {value : α} {stop : Nat} (inside : stop ≤ text.length) :
    Follows text (some (value, stop)) (some (value, text.drop stop)) := by
  refine ⟨rfl, ?_⟩
  rintro _ _ ⟨⟩
  exact inside

/-- What is made of a value does not change the way. -/
theorem Follows.map {α β : Type} {found : Option (α × Nat)} {read : Option (α × Text)}
    (follows : Follows text found read) (make : α → β) :
    Follows text (found.map fun (value, stop) => (make value, stop))
      (read.map fun (value, after) => (make value, after)) := by
  obtain ⟨rfl, inside⟩ := follows
  cases found with
  | none => exact follows_none
  | some item => exact follows_some (inside _ _ rfl)

theorem follows_quoted (quote : Char) (text : Text) (position : Nat) :
    Follows text
      ((find [quote] text position).map fun close => (text.extract position close, close + 1))
      (readQuoted quote (text.drop position)) := by
  cases closes : find [quote] text position with
  | none =>
    have absent := find_singleton_eq_none_iff.mp closes
    have unread : readQuoted quote (text.drop position) = none := by
      refine Option.eq_none_iff_forall_ne_some.mpr fun found read => ?_
      obtain ⟨_, split⟩ := readQuoted_eq_some_iff.mp read
      refine absent (position + found.1.length) (Nat.le_add_right _ _) ?_
      rw [← List.getElem?_drop, split]
      simp
    rw [unread]
    exact follows_none
  | some close =>
    obtain ⟨here, behind, first⟩ := find_singleton_eq_some_iff.mp closes
    have read : readQuoted quote (text.drop position) =
        some (text.extract position close, text.drop (close + 1)) := by
      refine readQuoted_eq_some_iff.mpr ⟨fun member => ?_, ?_⟩
      · obtain ⟨other, ⟨least, before⟩, there⟩ := exists_of_mem_extract member
        exact first other least before there
      · rw [← drop_of_getElem? here, extract_append_drop behind]
    rw [read]
    exact follows_some (List.getElem?_eq_some_iff.mp here).1

theorem bareAt_iff {c : Char} (here : text[position]? = some c) :
    bareAt text position c = true ↔ endsBare (text.drop position) = false := by
  have pair : standsAt ['/', '>'] text position =
      (c == '/' && (text.drop (position + 1)).head? == some '>') := by
    rw [Bool.eq_iff_iff, standsAt_pair, here]
    simp
  rw [bareAt, pair, drop_of_getElem? here, endsBare]
  simp only [Bool.and_eq_true, Bool.not_eq_true', Bool.or_eq_false_iff, bne]

theorem readBare_drop (text : Text) (position : Nat) :
    readBare (text.drop position) =
      (text.extract position (skip (bareAt text) text position),
        text.drop (skip (bareAt text) text position)) := by
  fun_induction skip (bareAt text) text position with
  | case1 position ended =>
    rw [extract_self, drop_of_getElem?_none ended]
    rfl
  | case2 position c here goes ih =>
    have goes := (bareAt_iff here).mp goes
    rw [drop_of_getElem? here] at goes ⊢
    rw [readBare_cons goes, ih, extract_of_getElem? here (le_skip _ text (position + 1))]
  | case3 position c here stops =>
    rw [extract_self, readBare_of_ends]
    rwa [bareAt_iff here, Bool.not_eq_false] at stops

theorem follows_wordAt? (inside : position ≤ text.length) :
    Follows text (wordAt? text position) (readWord (text.drop position)) := by
  unfold wordAt?
  cases here : text[position]? with
  | none =>
    rw [drop_of_getElem?_none here]
    exact follows_none
  | some quote =>
    rw [drop_of_getElem? here, readWord]
    dsimp only
    split
    · exact follows_quoted quote text (position + 1)
    · rw [← drop_of_getElem? here, readBare_drop]
      exact follows_some (skip_le _ inside)

theorem follows_valueAt? (inside : position ≤ text.length) :
    Follows text (valueAt? text position) (readValue (text.drop position)) := by
  have sign := skip_le (fun _ => isBlank) inside
  rw [readValue_eq, stripLeft, ← (skip_spec isBlank text position).2, valueAt?]
  generalize skip (fun _ => isBlank) text position = place at sign ⊢
  by_cases assigned : text[place]? = some '='
  · rw [if_pos assigned, drop_of_getElem? assigned, readAssigned]
    rw [stripLeft, ← (skip_spec isBlank text (place + 1)).2]
    exact follows_wordAt? (skip_le _ (List.getElem?_eq_some_iff.mp assigned).1)
  · have empty : readAssigned (text.drop place) = some ([], text.drop place) := by
      unfold readAssigned
      split
      · rename_i rest begins
        have here := congrArg List.head? begins
        rw [List.head?_drop] at here
        exact absurd here assigned
      · rfl
    rw [if_neg assigned, empty]
    exact follows_some sign

/-- **The attributes and the end of a tag** are the same by positions. -/
theorem follows_attributesAt (closing : Bool) (attributes : Entries Text Text)
    (inside : position ≤ text.length) :
    Follows text (attributesAt closing text attributes position)
      ((readAttributes closing attributes (text.drop position)).map fun (found, selfClosing, after) =>
        ((found, selfClosing), after)) := by
  -- Along the reader by positions: each of its steps is one of the other, which sees the rest from there on.
  fun_induction attributesAt closing text attributes position with
  | case1 attributes position ended =>
    rw [drop_of_getElem?_none ended, readAttributes]
    exact follows_none
  | case2 attributes position c here blank ih =>
    rw [drop_of_getElem? here, readAttributes, if_pos blank]
    exact ih (List.getElem?_eq_some_iff.mp here).1
  | case3 attributes position here solid =>
    rw [drop_of_getElem? here, readAttributes, if_neg solid, if_pos rfl]
    exact follows_some (List.getElem?_eq_some_iff.mp here).1
  | case4 attributes position c here solid goes pair =>
    obtain ⟨slash, ends⟩ := standsAt_pair.mp pair
    cases here.symm.trans slash
    rw [List.head?_drop] at ends
    rw [drop_of_getElem? here, drop_of_getElem? ends, readAttributes_slash]
    exact follows_some (List.getElem?_eq_some_iff.mp ends).1
  | case5 attributes position c here solid goes single closes =>
    rw [standsAt_pair, here, Option.some_inj] at single
    rw [drop_of_getElem? here, readAttributes, if_neg solid, if_neg goes, if_neg single, if_pos closes]
    exact follows_none
  | case6 attributes position c here solid goes single opens stop nameless =>
    have outside := (skip_eq_self_iff here).mp nameless
    rw [standsAt_pair, here, Option.some_inj] at single
    rw [drop_of_getElem? here, readAttributes, if_neg solid, if_neg goes, if_neg single, if_neg opens,
      if_neg (Bool.eq_false_iff.mp outside)]
    exact follows_none
  | case7 attributes position c here solid goes single opens stop named missing =>
    -- The name does not end where it begins, so its first character belongs to it.
    have within := (Bool.not_eq_false _).mp (mt (skip_eq_self_iff here).mpr named)
    have unread := (follows_valueAt? (skip_le (fun _ => inAttribute) inside)).result
    rw [missing, (skip_spec inAttribute text position).2, drop_of_getElem? here,
      List.dropWhile_cons_of_pos within] at unread
    rw [standsAt_pair, here, Option.some_inj] at single
    rw [drop_of_getElem? here, readAttributes, if_neg solid, if_neg goes, if_neg single, if_neg opens,
      if_pos within]
    split
    · exact follows_none
    · rename_i read
      rw [← unread] at read
      cases read
  | case8 attributes position c here solid goes single opens stop named value after found ih =>
    have within := (Bool.not_eq_false _).mp (mt (skip_eq_self_iff here).mpr named)
    have valued := follows_valueAt? (skip_le (fun _ => inAttribute) inside)
    have read := valued.result
    rw [found, (skip_spec inAttribute text position).2, drop_of_getElem? here,
      List.dropWhile_cons_of_pos within] at read
    rw [Bool.not_eq_true] at opens
    subst opens
    have name : text.extract position stop = c :: (text.drop (position + 1)).takeWhile inAttribute := by
      rw [(skip_spec inAttribute text position).1, drop_of_getElem? here, List.takeWhile_cons_of_pos within]
    rw [drop_of_getElem? here, readAttributes_attribute within read.symm, ← name]
    exact ih (valued.inside _ _ found)

theorem continuesName_of_startsName {c : Char} (starts : startsName c = true) : continuesName c = true := by
  rw [startsName, Bool.or_eq_true] at starts
  rcases starts with letter | underscore
  · simp [continuesName, isLetterOrNumeral_of_isLetter letter]
  · simp [continuesName, underscore]

theorem follows_bodyAt? (closing : Bool) (text : Text) (position : Nat) :
    Follows text (bodyAt? closing text position) (readBody closing (text.drop position)) := by
  unfold bodyAt?
  cases here : text[position]? with
  | none =>
    rw [drop_of_getElem?_none here]
    exact follows_none
  | some c =>
    rw [drop_of_getElem? here, readBody]
    by_cases starts : startsName c = true
    · have within := continuesName_of_startsName starts
      have inside := (List.getElem?_eq_some_iff.mp here).1
      obtain ⟨name, behind⟩ := skip_spec continuesName text position
      rw [drop_of_getElem? here, List.takeWhile_cons_of_pos within] at name
      rw [drop_of_getElem? here, List.dropWhile_cons_of_pos within] at behind
      have follows := follows_attributesAt closing [] (skip_le (fun _ => continuesName) inside.le)
      have made := follows.map fun ending => Tag.mk
        (text.extract position (skip (fun _ => continuesName) text position)) closing ending.2 ending.1
      rw [Option.map_map] at made
      dsimp only
      rw [if_pos starts, if_pos starts, ← behind, ← name]
      exact made
    · dsimp only
      rw [if_neg starts, if_neg starts]
      exact follows_none

theorem read?_of_head?_ne {rest : Text} (opens : rest.head? ≠ some '/') :
    read? ('<' :: rest) = readBody false rest := by
  unfold read?
  split
  · rename_i same
    cases same
    exact absurd rfl opens
  · rename_i same
    cases same
    rfl
  · rename_i other
    exact absurd rfl (other rest)

theorem follows_signAt? (text : Text) (position : Nat) :
    Follows text (signAt? text position) (read? (text.drop position)) := by
  unfold signAt?
  by_cases here : text[position]? = some '<'
  · rw [if_pos here, drop_of_getElem? here]
    by_cases closing : text[position + 1]? = some '/'
    · rw [if_pos closing, drop_of_getElem? closing]
      exact follows_bodyAt? true text (position + 2)
    · rw [if_neg closing, read?_of_head?_ne (by rwa [List.head?_drop])]
      exact follows_bodyAt? false text (position + 1)
  · have none : read? (text.drop position) = none := by
      cases other : text[position]? with
      | none =>
        rw [drop_of_getElem?_none other]
        rfl
      | some c =>
        rw [other, Option.some_inj] at here
        rw [drop_of_getElem? other, read?_of_ne here]
    rw [if_neg here, none]
    exact follows_none

/-- **The tag at a position** is the same by positions. -/
theorem tagAt?_eq (text : Text) (position : Nat) : tagAt? text position = readAt? text position := by
  obtain ⟨result, inside⟩ := follows_signAt? text position
  rw [tagAt?, readAt?, ← result, Option.map_map]
  refine Option.map_congr fun item found => ?_
  have := inside item.1 item.2 found
  simp only [Function.comp_apply, List.length_drop]
  congr 1
  omega

/-- What follows a tag is the rest of the text from the end of its span on. -/
theorem read?_of_tagAt? {placed : Placed} (found : tagAt? text position = some placed) :
    read? (text.drop position) = some (placed.tag, text.drop placed.stop) ∧
      placed.stop ≤ text.length := by
  obtain ⟨⟨tag, stop⟩, there, rfl⟩ := Option.map_eq_some_iff.mp found
  obtain ⟨result, inside⟩ := follows_signAt? text position
  rw [there] at result
  exact ⟨result.symm, inside tag stop there⟩

theorem read?_of_tagAt?_none (missing : tagAt? text position = none) : read? (text.drop position) = none := by
  rw [tagAt?, Option.map_eq_none_iff] at missing
  rw [← (follows_signAt? text position).result, missing]
  rfl

theorem lt_stop_of_tagAt? {placed : Placed} (found : tagAt? text position = some placed) :
    position < placed.stop := by
  obtain ⟨read, inside⟩ := read?_of_tagAt? found
  have shorter := read?_length_lt read
  rw [List.length_drop, List.length_drop] at shorter
  omega

/-! ### Where an element ends -/

/-- Whether an opening or closing tag of one name may start with the character at a position. -/
def startsAt (name text : Text) (position : Nat) : Bool :=
  let start := if standsAt ['/'] text (position + 1) then position + 2 else position + 1
  standsAt name text start &&
    match text[start + name.length]? with
    | none => true
    | some c => isBlank c || c == '/' || c == '>'

/-- The position behind the closing tag that balances an element of one name, of which so many inner elements
are still open, from a position on. -/
def closingFrom (name text : Text) (inner position : Nat) : Option Nat :=
  match _here : find ['<'] text position with
  | none => none
  | some place =>
    if startsAt name text place then
      match _there : tagAt? text place with
      | none => closingFrom name text inner (place + 1)
      | some placed =>
        if placed.tag.name ≠ name then closingFrom name text inner (place + 1)
        else if placed.tag.closing then
          match inner with
          | 0 => some placed.stop
          | inner + 1 => closingFrom name text inner placed.stop
        else closingFrom name text (if placed.tag.selfClosing then inner else inner + 1) placed.stop
    else closingFrom name text inner (place + 1)
termination_by text.length - position
decreasing_by
  all_goals
    have := (find_eq_some_iff.mp _here).2.1
    first
    | omega
    | have := lt_stop_of_tagAt? _there
      omega

theorem namesStart_drop (name text : Text) (position : Nat) :
    namesStart name (text.drop position) =
      (standsAt name text position &&
        match text[position + name.length]? with
        | none => true
        | some c => isBlank c || c == '/' || c == '>') := by
  have stands : name.isPrefixOf (text.drop position) = standsAt name text position := by
    rw [Bool.eq_iff_iff, List.isPrefixOf_iff_prefix, standsAt_iff]
  rw [namesStart, stands, List.drop_drop]
  cases behind : text[position + name.length]? with
  | none => rw [drop_of_getElem?_none behind]
  | some c => rw [drop_of_getElem? behind]

theorem startsAt_eq {c : Char} (name : Text) (here : text[position]? = some c) :
    startsAt name text position = mayStart name (text.drop position) := by
  rw [drop_of_getElem? here, startsAt, ← namesStart_drop]
  by_cases closing : text[position + 1]? = some '/'
  · rw [if_pos (standsAt_singleton.mpr closing), drop_of_getElem? closing, mayStart]
  · rw [if_neg (mt standsAt_singleton.mp closing)]
    unfold mayStart
    split
    · rename_i same
      cases same
    · rename_i same
      rw [List.cons.injEq] at same
      have head := congrArg List.head? same.2
      rw [List.head?_drop] at head
      exact absurd head closing
    · rename_i same
      cases same
      rfl

/-- A search for the end of an element passes over what has no `<`. -/
theorem afterClosing?_drop {place : Nat} (name : Text) (inner : Nat) (behind : position ≤ place)
    (free : ∀ other, position ≤ other → other < place → text[other]? ≠ some '<') :
    afterClosing? name inner (text.drop position) = afterClosing? name inner (text.drop place) := by
  induction place, behind using Nat.le_induction with
  | base => rfl
  | succ place behind ih =>
    rw [ih fun other least before => free other least (by omega)]
    have here := free place behind (Nat.lt_succ_self place)
    cases there : text[place]? with
    | none =>
      have ended := List.getElem?_eq_none_iff.mp there
      rw [drop_of_getElem?_none there, List.drop_eq_nil_of_le (by omega)]
    | some c =>
      rw [there, Ne, Option.some_inj] at here
      rw [drop_of_getElem? there, afterClosing?, if_neg fun met => here met.1]

/-- A search for the end of an element goes on at the next `<`. -/
theorem afterClosing?_of_find {place : Nat} (name : Text) (inner : Nat)
    (found : find ['<'] text position = some place) : text[place]? = some '<' ∧
      afterClosing? name inner (text.drop position) = afterClosing? name inner (text.drop place) := by
  obtain ⟨here, behind, first⟩ := find_singleton_eq_some_iff.mp found
  exact ⟨here, afterClosing?_drop name inner behind first⟩

/-- Nothing but a tag that may start there and has the name changes a search. -/
theorem afterClosing?_of_passed {place : Nat} {name : Text} (inner : Nat) (here : text[place]? = some '<')
    (passed : startsAt name text place = true → ∀ placed, tagAt? text place = some placed →
      placed.tag.name ≠ name) :
    afterClosing? name inner (text.drop place) = afterClosing? name inner (text.drop (place + 1)) := by
  rw [startsAt_eq name here] at passed
  rw [drop_of_getElem? here] at passed ⊢
  cases reading : tagAt? text place with
  | none =>
    have unread := read?_of_tagAt?_none reading
    rw [drop_of_getElem? here] at unread
    rw [afterClosing?, unread]
    simp only [ite_self]
  | some placed =>
    have read := (read?_of_tagAt? reading).1
    rw [drop_of_getElem? here] at read
    rw [afterClosing?_of_read inner read, if_neg fun met => passed met.1 placed reading met.2]

/-- The step of a search at a tag that may start there and has the name. -/
theorem afterClosing?_of_tagAt? {place : Nat} {placed : Placed} {name : Text} (inner : Nat)
    (here : text[place]? = some '<') (starts : startsAt name text place = true)
    (reading : tagAt? text place = some placed) (same : placed.tag.name = name) :
    afterClosing? name inner (text.drop place) =
      if placed.tag.closing then
        match inner with
        | 0 => some (text.drop placed.stop)
        | inner + 1 => afterClosing? name inner (text.drop placed.stop)
      else
        afterClosing? name (if placed.tag.selfClosing then inner else inner + 1)
          (text.drop placed.stop) := by
  have read := (read?_of_tagAt? reading).1
  rw [startsAt_eq name here] at starts
  rw [drop_of_getElem? here] at read starts ⊢
  exact (afterClosing?_of_read inner read).trans (if_pos ⟨starts, same⟩)

/-- **The end of an element** is the same by positions. -/
theorem closingFrom_eq (name text : Text) (inner position : Nat) :
    closingFrom name text inner position =
      (afterClosing? name inner (text.drop position)).map fun after => text.length - after.length := by
  fun_induction closingFrom name text inner position with
  | case1 inner position missing =>
    -- Nothing is found up to the end of the text, or behind it if the position lies there.
    rw [afterClosing?_drop name inner (Nat.le_max_left position text.length) fun other least _ =>
        find_singleton_eq_none_iff.mp missing other least,
      List.drop_eq_nil_of_le (Nat.le_max_right _ _), afterClosing?]
    rfl
  | case2 inner position place found starts missing ih =>
    obtain ⟨here, along⟩ := afterClosing?_of_find name inner found
    rw [ih, along, afterClosing?_of_passed inner here fun _ placed reading => ?_]
    rw [missing] at reading
    cases reading
  | case3 inner position place found starts placed reading other ih =>
    obtain ⟨here, along⟩ := afterClosing?_of_find name inner found
    rw [ih, along, afterClosing?_of_passed inner here fun _ placed' again => ?_]
    cases reading.symm.trans again
    exact other
  | case4 position place found starts placed reading same closes =>
    obtain ⟨here, along⟩ := afterClosing?_of_find name 0 found
    have inside := (read?_of_tagAt? reading).2
    rw [along, afterClosing?_of_tagAt? 0 here starts reading (not_not.mp same), if_pos closes,
      Option.map_some, List.length_drop]
    congr 1
    omega
  | case5 position place found starts placed reading same closes inner ih =>
    obtain ⟨here, along⟩ := afterClosing?_of_find name (inner + 1) found
    rw [ih, along, afterClosing?_of_tagAt? (inner + 1) here starts reading (not_not.mp same), if_pos closes]
  | case6 inner position place found starts placed reading same opens ih =>
    obtain ⟨here, along⟩ := afterClosing?_of_find name inner found
    rw [along, afterClosing?_of_tagAt? inner here starts reading (not_not.mp same), if_neg opens]
    exact ih
  | case7 inner position place found starts ih =>
    obtain ⟨here, along⟩ := afterClosing?_of_find name inner found
    rw [ih, along, afterClosing?_of_passed inner here fun starts' => absurd starts' starts]

end Tag

end PromptWeave
