/-
**Where directives begin.**

Whether a directive begins at a place is seen from the characters of `<include` and the one after
them, and from nothing before or behind. A text that does not end in a part of `<include` can
therefore be put in front of any other without a directive beginning in it that did not begin there
before. Main statements:

* `Directive.beginsAt_append_cases`: what lets a directive begin in front of one text and not in
  front of another;
* `Directive.quiet_of_clear`: a text with a sealed end stays without beginnings whatever follows;
* `Directive.firstFrom_clear`: the first directive is searched behind a text without beginnings;
* `Directive.firstFrom_add`: a text found further on has its directive further on;
* `Directive.opening_lt_of_readAt`: a directive is longer than its opening.
-/

import Mathlib.Data.List.Infix
import PromptWeave.Markup.Directive

namespace PromptWeave

open Text

namespace Directive

/-! ### Openings -/

/-- The characters that every directive begins with. -/
def opening : Text := '<' :: tagName

/-- Whether the name of a tag may end in front of a text. -/
def endsName : Text → Bool
  | [] => true
  | c :: _ => isBlank c || c == '/' || c == '>'

theorem beginsAt_iff {text : Text} :
    beginsAt text = true ↔ ∃ rest, text = opening ++ rest ∧ endsName rest = true := by
  unfold beginsAt
  rw [Bool.and_eq_true, List.isPrefixOf_iff_prefix]
  have named (rest : Text) : Tag.mayStart tagName (opening ++ rest) = endsName rest := by
    cases rest <;> simp [opening, tagName, Tag.mayStart, Tag.namesStart, endsName]
  constructor
  · rintro ⟨⟨rest, rfl⟩, starts⟩
    exact ⟨rest, rfl, by rw [← named]; exact starts⟩
  · rintro ⟨rest, rfl, ends⟩
    exact ⟨⟨rest, rfl⟩, by rw [named]; exact ends⟩

@[simp] theorem beginsAt_nil : beginsAt [] = false := rfl

/-- A directive that begins in a text in front of one rest begins there in front of every other
rest, unless the text is no more than a part of the opening. -/
theorem beginsAt_append_cases {text rest : Text} (begins : beginsAt (text ++ rest) = true)
    (other : Text) : text <+: opening ∨ beginsAt (text ++ other) = true := by
  obtain ⟨left, split, ends⟩ := beginsAt_iff.mp begins
  rcases List.append_eq_append_iff.mp split with ⟨part, whole, _⟩ | ⟨part, whole, rest'⟩
  · exact Or.inl ⟨part, whole.symm⟩
  · cases part with
    | nil => exact Or.inl ⟨[], by simpa using whole⟩
    | cons c part =>
      right
      refine beginsAt_iff.mpr ⟨c :: part ++ other, by rw [whole, List.append_assoc], ?_⟩
      rw [rest'] at ends
      exact ends

/-! ### Texts in which no directive begins -/

/-- No directive begins in a text that stands in front of a rest. -/
def Clear (text rest : Text) : Prop :=
  ∀ ending, ending <:+ text → ending ≠ [] → beginsAt (ending ++ rest) = false

/-- No directive begins in a text, whatever follows it. -/
def Quiet (text : Text) : Prop := ∀ rest, Clear text rest

/-- A text does not end in a part of `<include`, the whole of it included. -/
def Sealed (text : Text) : Prop := ∀ ending ∈ text.tails, ending ≠ [] → ¬ ending <+: opening

instance (text : Text) : Decidable (Sealed text) :=
  inferInstanceAs (Decidable (∀ ending ∈ text.tails, ending ≠ [] → ¬ ending <+: opening))

theorem clear_nil (rest : Text) : Clear [] rest := by
  intro ending inside some
  exact absurd (List.suffix_nil.mp inside) some

theorem clear_cons_iff {c : Char} {text rest : Text} :
    Clear (c :: text) rest ↔ beginsAt (c :: text ++ rest) = false ∧ Clear text rest := by
  constructor
  · intro clear
    refine ⟨clear _ List.suffix_rfl (by simp), fun ending inside => ?_⟩
    exact clear ending (inside.trans (List.suffix_cons c text))
  · rintro ⟨here, later⟩ ending inside some
    rcases List.suffix_cons_iff.mp inside with rfl | inside
    · exact here
    · exact later ending inside some

theorem clear_append_iff {first second rest : Text} :
    Clear (first ++ second) rest ↔ Clear first (second ++ rest) ∧ Clear second rest := by
  induction first with
  | nil => simp [clear_nil]
  | cons c first ih =>
    rw [List.cons_append, clear_cons_iff, clear_cons_iff, ih, and_assoc]
    simp

theorem quiet_nil : Quiet [] := clear_nil

theorem Quiet.append {first second : Text} (quietFirst : Quiet first) (quietSecond : Quiet second) :
    Quiet (first ++ second) :=
  fun rest => clear_append_iff.mpr ⟨quietFirst _, quietSecond rest⟩

/-- **A sealed text without beginnings in front of one rest has none in front of any.** -/
theorem quiet_of_clear {text rest : Text} (closed : Sealed text) (clear : Clear text rest) :
    Quiet text := by
  intro other ending inside some
  by_contra begins
  rw [Bool.not_eq_false] at begins
  rcases beginsAt_append_cases begins rest with part | begins
  · exact closed ending ((List.mem_tails _ _).mpr inside) some part
  · rw [clear ending inside some] at begins
    cases begins

/-- Every text is one without beginnings, followed by nothing or by a directive that begins. -/
theorem exists_clear (text : Text) : ∃ front rest, text = front ++ rest ∧ Clear front rest ∧
    (rest = [] ∨ beginsAt rest = true) := by
  induction text with
  | nil => exact ⟨[], [], rfl, clear_nil _, Or.inl rfl⟩
  | cons c text ih =>
    by_cases begins : beginsAt (c :: text) = true
    · exact ⟨[], c :: text, rfl, clear_nil _, Or.inr begins⟩
    · obtain ⟨front, rest, rfl, clear, ends⟩ := ih
      refine ⟨c :: front, rest, rfl, clear_cons_iff.mpr ⟨?_, clear⟩, ends⟩
      exact (Bool.not_eq_true _).mp begins

/-! ### The first directive -/

/-- **The first directive stands behind a text without beginnings.** -/
theorem firstFrom_clear {offset : Nat} {text rest : Text} (clear : Clear text rest) :
    firstFrom offset (text ++ rest) = firstFrom (offset + text.length) rest := by
  induction text generalizing offset with
  | nil => simp
  | cons c text ih =>
    obtain ⟨here, later⟩ := clear_cons_iff.mp clear
    rw [List.cons_append] at here ⊢
    rw [firstFrom, if_neg (by simp [here]), ih later, List.length_cons]
    congr 1
    omega

theorem firstFrom_of_begins {offset : Nat} {text : Text} (begins : beginsAt text = true) :
    firstFrom offset text = (readAt offset text).map some := by
  cases text with
  | nil => simp at begins
  | cons c rest => rw [firstFrom, if_pos begins]

theorem firstFrom_eq_none_iff {offset : Nat} {text : Text} :
    firstFrom offset text = .ok none ↔ Clear text [] := by
  constructor
  · intro none
    obtain ⟨front, rest, rfl, clear, rfl | begins⟩ := exists_clear text
    · rw [List.append_nil]
      exact clear
    · rw [firstFrom_clear clear, firstFrom_of_begins begins] at none
      cases read : readAt (offset + front.length) rest <;> simp [read, Except.map] at none
  · intro clear
    have searched : firstFrom offset (text ++ []) = _ := firstFrom_clear clear
    rw [← List.append_nil text, searched, firstFrom]

/-- What is wrong with a directive does not hang on its offset. -/
theorem readAt_eq_error {offset : Nat} {text : Text} {flaw : Malformed}
    (read : readAt offset text = .error flaw) :
    flaw.offset = offset ∧ ∀ other, readAt other text = .error ⟨flaw.defect, other⟩ := by
  unfold readAt at read ⊢
  split at read
  · cases read
    exact ⟨rfl, fun _ => rfl⟩
  · dsimp only at read ⊢
    split at read
    · rename_i empty
      cases read
      exact ⟨rfl, fun _ => by rw [if_pos empty]⟩
    · rename_i some
      split at read
      · cases read
      · rename_i paired
        split at read
        · cases read
          exact ⟨rfl, fun _ => by rw [if_neg some, if_neg paired]⟩
        · cases read

/-- **A search that finds something** finds what is read where a directive begins behind a text without
beginnings. -/
theorem exists_readAt_of_firstFrom {offset : Nat} {text : Text}
    {found : Except Malformed (Option Directive)} (searched : firstFrom offset text = found)
    (finds : found ≠ .ok none) : ∃ front rest, text = front ++ rest ∧ Clear front rest ∧
      beginsAt rest = true ∧ (readAt (offset + front.length) rest).map some = found := by
  obtain ⟨front, rest, rfl, clear, rfl | begins⟩ := exists_clear text
  · rw [firstFrom_clear clear, firstFrom] at searched
    exact (finds searched.symm).elim
  · rw [firstFrom_clear clear, firstFrom_of_begins begins] at searched
    exact ⟨front, rest, rfl, clear, begins, searched⟩

/-- The first directive begins behind a text without beginnings. -/
theorem exists_of_firstFrom {offset : Nat} {text : Text} {directive : Directive}
    (found : firstFrom offset text = .ok (some directive)) :
    ∃ front rest, text = front ++ rest ∧ Clear front rest ∧ beginsAt rest = true ∧
      directive.start = offset + front.length ∧ readAt directive.start rest = .ok directive := by
  obtain ⟨front, rest, rfl, clear, begins, found⟩ := exists_readAt_of_firstFrom found nofun
  refine ⟨front, rest, rfl, clear, begins, ?_⟩
  cases read : readAt (offset + front.length) rest with
  | error flaw => simp [read, Except.map] at found
  | ok other =>
    simp only [read, Except.map, Except.ok.injEq, Option.some.injEq] at found
    subst found
    have start := (readAt_span read).1
    rw [start]
    exact ⟨rfl, read⟩

/-- A malformed directive begins behind a text without beginnings. -/
theorem exists_of_firstFrom_error {offset : Nat} {text : Text} {flaw : Malformed}
    (found : firstFrom offset text = .error flaw) :
    ∃ front rest, text = front ++ rest ∧ Clear front rest ∧ beginsAt rest = true ∧
      flaw.offset = offset + front.length ∧ readAt flaw.offset rest = .error flaw := by
  obtain ⟨front, rest, rfl, clear, begins, found⟩ := exists_readAt_of_firstFrom found nofun
  refine ⟨front, rest, rfl, clear, begins, ?_⟩
  cases read : readAt (offset + front.length) rest with
  | ok directive => simp [read, Except.map] at found
  | error other =>
    simp only [read, Except.map, Except.error.injEq] at found
    subst found
    have place := (readAt_eq_error read).1
    rw [place]
    exact ⟨rfl, read⟩

/-! ### Moving on -/

/-- What a search found, so many characters further on. -/
def moved (distance : Nat) : Except Malformed (Option Directive) →
    Except Malformed (Option Directive)
  | .error flaw => .error { flaw with offset := flaw.offset + distance }
  | .ok found => .ok (found.map fun directive =>
      { directive with start := directive.start + distance, stop := directive.stop + distance })

theorem readAt_add (offset distance : Nat) (text : Text) :
    (readAt (offset + distance) text).map some =
      moved distance ((readAt offset text).map some) := by
  unfold readAt
  split
  · rfl
  · dsimp only
    split
    · rfl
    · split
      · simp only [Except.map, moved, Option.map, Except.ok.injEq, Option.some.injEq,
          Directive.mk.injEq, true_and, and_true]
        omega
      · split
        · rfl
        · simp only [Except.map, moved, Option.map, Except.ok.injEq, Option.some.injEq,
            Directive.mk.injEq, true_and, and_true]
          omega

/-- **A text found further on has its first directive further on.** -/
theorem firstFrom_add (offset distance : Nat) (text : Text) :
    firstFrom (offset + distance) text = moved distance (firstFrom offset text) := by
  induction text generalizing offset with
  | nil => rfl
  | cons c rest ih =>
    rw [firstFrom, firstFrom]
    split
    · exact readAt_add offset distance (c :: rest)
    · rw [show offset + distance + 1 = offset + 1 + distance by omega]
      exact ih (offset + 1)

/-! ### The length of a directive -/

theorem length_lt_of_read? {rest after : Text} {tag : Tag}
    (read : Tag.read? (opening ++ rest) = some (tag, after)) : after.length < rest.length := by
  have named : ∀ c ∈ ['n', 'c', 'l', 'u', 'd', 'e'], Tag.continuesName c = true :=
    List.all_eq_true.mp rfl
  have short : (List.dropWhile Tag.continuesName (['n', 'c', 'l', 'u', 'd', 'e'] ++ rest)).length ≤
      rest.length := by
    rw [List.dropWhile_append_of_pos named]
    exact Tag.length_span_le _ rest
  have shape : opening ++ rest = '<' :: 'i' :: (['n', 'c', 'l', 'u', 'd', 'e'] ++ rest) := rfl
  rw [shape, Tag.read?] at read
  · rw [Tag.readBody, if_pos (by decide)] at read
    obtain ⟨⟨attributes, selfClosing, left⟩, inner, same⟩ := Option.map_eq_some_iff.mp read
    have shorter := Tag.readAttributes_length_lt inner
    cases same
    omega
  · intro _ slash
    cases slash

/-- **A directive is longer than its opening.** -/
theorem opening_lt_of_readAt {offset : Nat} {text : Text} {directive : Directive}
    (begins : beginsAt text = true) (read : readAt offset text = .ok directive) :
    offset + opening.length < directive.stop := by
  obtain ⟨rest, rfl, _⟩ := beginsAt_iff.mp begins
  unfold readAt at read
  split at read
  · cases read
  · rename_i tag after reading
    have shorter := length_lt_of_read? reading
    simp only [List.length_append] at read
    split at read
    · cases read
    · split at read
      · cases read
        show _ < offset + (_ - after.length)
        omega
      · split at read
        · cases read
        · rename_i left closing
          have := Tag.afterClosing?_length_lt closing
          cases read
          show _ < offset + (_ - left.length)
          omega

end Directive

end PromptWeave
