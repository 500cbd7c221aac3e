/-
**The directives of a text from left to right.**

Each search begins where the last directive ended. A directive goes from `<include` to a `>`, which are both
of the text, so the searches come to an end: at a search that finds nothing, or at a malformed directive. The
spans that were found lie side by side, and no directive begins outside of them in front of where the
searches ended. Main statements:

* `Directive.Scans`: the searches one after the other, and what they end with;
* `Directive.Stands`: a directive stands in a text;
* `Directive.Partition`: the spans of directives and what lies between them;
* `Directive.Scans.partition`: what every row of searches finds;
* `Directive.scan_partition`: a scan ends and partitions its text, and a search in a later part of a text
  finds what a search from there on finds.
-/

import Mathlib
import PromptWeave.Proofs.Directive.Junction
import PromptWeave.Proofs.Tag.Locality

namespace PromptWeave

open Text

namespace Directive

/-! ### Directives in their text -/

/-- A directive stands in a text: it goes from `<include` to a `>`, and it names a path whose ends are not
blank. -/
structure Stands (text : Text) (directive : Directive) : Prop where
  nonempty : directive.start < directive.stop
  inside : directive.stop ≤ text.length
  begins : beginsAt (text.drop directive.start) = true
  opens : opening <+: text.drop directive.start
  closes : text[directive.stop - 1]? = some '>'
  named : directive.source ≠ []
  trimmed : IsTrimmed directive.source

/-- What a directive that is read at the front of a text is. -/
theorem exists_of_readAt {offset : Nat} {text : Text} {directive : Directive}
    (read : readAt offset text = .ok directive) :
    ∃ front left, text = front ++ '>' :: left ∧ directive.start = offset ∧
      directive.stop = offset + front.length + 1 ∧ directive.source ≠ [] ∧
      IsTrimmed directive.source := by
  have ended {after : Text} (ends : '>' :: after <:+ text) : ∃ front, text = front ++ '>' :: after ∧
      offset + (text.length - after.length) = offset + front.length + 1 := by
    obtain ⟨front, rfl⟩ := ends
    refine ⟨front, rfl, ?_⟩
    rw [List.length_append, List.length_cons]
    omega
  unfold readAt at read
  split at read
  · cases read
  · rename_i tag after reading
    dsimp only at read
    split at read
    · cases read
    · rename_i named
      split at read
      · obtain ⟨front, split, stop⟩ := ended (Tag.read?_ends reading)
        cases read
        exact ⟨front, after, split, rfl, stop, named, isTrimmed_strip _⟩
      · split at read
        · cases read
        · rename_i left closing
          obtain ⟨front, split, stop⟩ := ended
            ((Tag.afterClosing?_ends closing).trans (Tag.read?_suffix reading))
          cases read
          exact ⟨front, left, split, rfl, stop, named, isTrimmed_strip _⟩

/-- **A directive that is read stands where it was read.** -/
theorem stands_of_readAt {before rest : Text} {directive : Directive} (begins : beginsAt rest = true)
    (read : readAt before.length rest = .ok directive) : Stands (before ++ rest) directive := by
  obtain ⟨front, left, rfl, start, stop, named, trimmed⟩ := exists_of_readAt read
  have there : (before ++ (front ++ '>' :: left)).drop directive.start = front ++ '>' :: left := by
    rw [start, List.drop_left]
  refine ⟨by omega, ?_, by rwa [there], ?_, ?_, named, trimmed⟩
  · rw [stop, List.length_append, List.length_append, List.length_cons]
    omega
  · obtain ⟨behind, split, _⟩ := beginsAt_iff.mp begins
    rw [there, split]
    exact List.prefix_append opening behind
  · rw [stop, Nat.add_sub_cancel, List.getElem?_append_right (Nat.le_add_right _ _),
      Nat.add_sub_cancel_left, List.getElem?_append_right (Nat.le_refl _), Nat.sub_self]
    rfl

/-! ### One search -/

/-- No directive begins in a part of a text in front of where a search began to find. -/
theorem beginsAt_drop_of_clear {before front rest : Text} (clear : Clear front rest) {place : Nat}
    (behind : before.length ≤ place) (ahead : place < before.length + front.length) :
    beginsAt ((before ++ (front ++ rest)).drop place) = false := by
  have there : (before ++ (front ++ rest)).drop place = front.drop (place - before.length) ++ rest := by
    rw [List.drop_append, List.drop_eq_nil_of_le behind, List.nil_append,
      List.drop_append_of_le_length (by omega)]
  rw [there]
  refine clear _ (List.drop_suffix _ _) fun none => ?_
  have := List.drop_eq_nil_iff.mp none
  omega

/-- What a search from a position on finds, seen in the whole text. -/
theorem exists_split {start : Nat} {text : Text} (inside : start ≤ text.length) :
    ∃ before, text = before ++ text.drop start ∧ before.length = start :=
  ⟨text.take start, (List.take_append_drop start text).symm, List.length_take_of_le inside⟩

/-- **A search that finds a directive** passes no beginning of one. -/
theorem stands_of_firstAfter {start : Nat} {text : Text} {directive : Directive}
    (inside : start ≤ text.length) (found : firstAfter start text = .ok (some directive)) :
    start ≤ directive.start ∧ Stands text directive ∧
      ∀ place, start ≤ place → place < directive.start → beginsAt (text.drop place) = false := by
  obtain ⟨before, split, rfl⟩ := exists_split inside
  obtain ⟨front, rest, left, clear, begins, place, read⟩ := exists_of_firstFrom found
  rw [left] at split
  rw [split, place]
  refine ⟨Nat.le_add_right _ _, ?_, fun other behind ahead => beginsAt_drop_of_clear clear behind ahead⟩
  rw [place, ← List.length_append] at read
  rw [← List.append_assoc]
  exact stands_of_readAt begins read

/-- **A search that meets a malformed directive** has passed no beginning of one. -/
theorem begins_of_firstAfter_error {start : Nat} {text : Text} {flaw : Malformed}
    (inside : start ≤ text.length) (found : firstAfter start text = .error flaw) :
    start ≤ flaw.offset ∧ beginsAt (text.drop flaw.offset) = true ∧
      ∀ place, start ≤ place → place < flaw.offset → beginsAt (text.drop place) = false := by
  obtain ⟨before, split, rfl⟩ := exists_split inside
  obtain ⟨front, rest, left, clear, begins, place, _⟩ := exists_of_firstFrom_error found
  rw [left] at split
  rw [split, place]
  refine ⟨Nat.le_add_right _ _, ?_, fun other behind ahead => beginsAt_drop_of_clear clear behind ahead⟩
  rwa [← List.append_assoc, ← List.length_append, List.drop_left]

/-- **A search that finds nothing** passes no beginning of a directive. -/
theorem not_begins_of_firstAfter_none {start : Nat} {text : Text} (found : firstAfter start text = .ok none)
    {place : Nat} (behind : start ≤ place) : beginsAt (text.drop place) = false := by
  have clear := firstFrom_eq_none_iff.mp found
  by_cases none : text.drop place = []
  · rw [none]
    exact beginsAt_nil
  · have ending : text.drop place <:+ text.drop start := by
      rw [← Nat.add_sub_cancel' behind, ← List.drop_drop]
      exact List.drop_suffix _ _
    rw [← List.append_nil (text.drop place)]
    exact clear _ ending none

/-! ### All searches -/

/-- The searches from a position on, each beginning where the last directive ended: the directives that they
find, and the malformed one that ends them, if one does. -/
inductive Scans (text : Text) : Nat → List Directive → Option Malformed → Prop
  | ends {start : Nat} (found : firstAfter start text = .ok none) : Scans text start [] none
  | fails {start : Nat} {flaw : Malformed} (found : firstAfter start text = .error flaw) :
    Scans text start [] (some flaw)
  | next {start : Nat} {directive : Directive} {directives : List Directive} {ending : Option Malformed}
    (found : firstAfter start text = .ok (some directive))
    (later : Scans text directive.stop directives ending) : Scans text start (directive :: directives) ending

/-- What a scan gives for what its searches found. -/
def scanned (directives : List Directive) : Option Malformed → Except Malformed (List Directive)
  | none => .ok directives
  | some flaw => .error flaw

/-- **The searches come to an end**, and a scan gives what they found. -/
theorem exists_scans (start : Nat) (text : Text) :
    ∃ directives ending, Scans text start directives ending ∧ scanFrom start text = scanned directives ending := by
  fun_induction scanFrom start text with
  | case1 start flaw found => exact ⟨[], some flaw, .fails found, rfl⟩
  | case2 start found => exact ⟨[], none, .ends found, rfl⟩
  | case3 start directive found ih =>
    obtain ⟨directives, ending, scans, given⟩ := ih
    refine ⟨directive :: directives, ending, .next found scans, ?_⟩
    rw [given]
    cases ending <;> rfl

/-- What the searches find and end with is determined. -/
theorem Scans.unique {text : Text} {start : Nat} {directives others : List Directive}
    {ending other : Option Malformed} (scans : Scans text start directives ending)
    (again : Scans text start others other) : others = directives ∧ other = ending := by
  induction scans generalizing others other with
  | ends found =>
    cases again with
    | ends => exact ⟨rfl, rfl⟩
    | fails found' => cases found.symm.trans found'
    | next found' => cases found.symm.trans found'
  | fails found =>
    cases again with
    | ends found' => cases found.symm.trans found'
    | fails found' => cases found.symm.trans found'; exact ⟨rfl, rfl⟩
    | next found' => cases found.symm.trans found'
  | next found _ ih =>
    cases again with
    | ends found' => cases found.symm.trans found'
    | fails found' => cases found.symm.trans found'
    | next found' later =>
      cases found.symm.trans found'
      obtain ⟨rfl, rfl⟩ := ih later
      exact ⟨rfl, rfl⟩

/-- How directives partition a text from a position on: their spans lie side by side, and where a directive
begins is a place in one of them or not in front of the malformed directive that ends them. -/
structure Partition (text : Text) (start : Nat) (directives : List Directive) (ending : Option Malformed) :
    Prop where
  stands : ∀ directive ∈ directives, start ≤ directive.start ∧ Stands text directive
  apart : directives.Pairwise fun first second => first.stop ≤ second.start
  gaps : ∀ place, start ≤ place → beginsAt (text.drop place) = true →
    (∃ directive ∈ directives, directive.start ≤ place ∧ place < directive.stop) ∨
      ∃ flaw, ending = some flaw ∧ flaw.offset ≤ place
  flawed : ∀ flaw, ending = some flaw → IsLeast {place | start ≤ place ∧
    (∀ directive ∈ directives, directive.stop ≤ place) ∧ beginsAt (text.drop place) = true} flaw.offset

/-- **Every row of searches partitions the text.** -/
theorem Scans.partition {text : Text} {start : Nat} {directives : List Directive}
    {ending : Option Malformed} (scans : Scans text start directives ending) (inside : start ≤ text.length) :
    Partition text start directives ending := by
  induction scans with
  | ends found =>
    refine ⟨fun _ none => absurd none List.not_mem_nil, .nil, fun place behind begins => ?_, fun _ => nofun⟩
    rw [not_begins_of_firstAfter_none found behind] at begins
    cases begins
  | fails found =>
    obtain ⟨behind, begins, clear⟩ := begins_of_firstAfter_error inside found
    refine ⟨fun _ none => absurd none List.not_mem_nil, .nil, fun place after here => ?_, fun flaw same => ?_⟩
    · refine Or.inr ⟨_, rfl, Nat.le_of_not_lt fun ahead => ?_⟩
      rw [clear place after ahead] at here
      cases here
    · cases same
      refine ⟨⟨behind, fun _ none => absurd none List.not_mem_nil, begins⟩, fun place ⟨after, _, here⟩ => ?_⟩
      by_contra ahead
      rw [clear place after (Nat.lt_of_not_le ahead)] at here
      cases here
  | @next start directive directives ending found _ ih =>
    obtain ⟨behind, stands, clear⟩ := stands_of_firstAfter inside found
    have rest := ih stands.inside
    have on : start ≤ directive.stop := behind.trans stands.nonempty.le
    refine ⟨?_, ?_, fun place after here => ?_, fun flaw same => ?_⟩
    · refine List.forall_mem_cons.mpr ⟨⟨behind, stands⟩, fun other listed => ?_⟩
      exact ⟨on.trans (rest.stands other listed).1, (rest.stands other listed).2⟩
    · exact List.pairwise_cons.mpr ⟨fun other listed => (rest.stands other listed).1, rest.apart⟩
    · rcases Nat.lt_or_ge place directive.start with ahead | reached
      · rw [clear place after ahead] at here
        cases here
      · rcases Nat.lt_or_ge place directive.stop with within | past
        · exact Or.inl ⟨directive, List.mem_cons_self, reached, within⟩
        · rcases rest.gaps place past here with ⟨other, listed, spans⟩ | later
          · exact Or.inl ⟨other, List.mem_cons_of_mem _ listed, spans⟩
          · exact Or.inr later
    · obtain ⟨⟨past, beyond, begins⟩, least⟩ := rest.flawed flaw same
      refine ⟨⟨on.trans past, List.forall_mem_cons.mpr ⟨past, beyond⟩, begins⟩, ?_⟩
      rintro place ⟨_, all, here⟩
      obtain ⟨here', all⟩ := List.forall_mem_cons.mp all
      exact least ⟨here', all, here⟩

/-- **A scan ends and partitions its text.** The directives that it finds stand in the text, one behind the
other. A directive begins nowhere else, but for the malformed one that ends the scan, which is the first that
begins behind the last span, and what is behind that. A search from a position on finds what a search in the
rest of the text finds, so many characters further on. -/
theorem scan_partition (text : Text) :
    (∃ directives ending, Scans text 0 directives ending ∧
      (∀ others other, Scans text 0 others other → others = directives ∧ other = ending) ∧
      scan text = scanned directives ending ∧ Partition text 0 directives ending) ∧
    ∀ start, firstAfter start text = moved start (firstAfter 0 (text.drop start)) := by
  constructor
  · obtain ⟨directives, ending, scans, given⟩ := exists_scans 0 text
    exact ⟨directives, ending, scans, fun _ _ again => scans.unique again, given,
      scans.partition (Nat.zero_le _)⟩
  · intro start
    have later := firstFrom_add 0 start (text.drop start)
    rwa [Nat.zero_add] at later

/-- The second of two directives names no source, and ends the scan. -/
example : Scans "<include src='a'/> <include>".toList 0 [⟨['a'], 0, 18, true⟩] (some ⟨.sourceless, 19⟩) :=
  .next (by cbv) (.fails (by cbv))

end Directive

end PromptWeave
