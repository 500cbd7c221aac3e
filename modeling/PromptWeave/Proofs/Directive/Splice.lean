/-
**What replacing a directive does to the others.**

A directive is cut out of a text and another text, in which no directive begins, is put in its
place. It can join with the text in front of it, with the text behind it, or with both, so that new
directives begin. Main statements:

* `Directive.exists_cut`: a text is cut at its first directive;
* `Directive.begun_le_one_of_clear`: at most one directive begins in a text because of what follows;
* `Directive.left_lt_of_clear`: if nothing joins in front, less is left from the next directive on;
* `Directive.marks_lt_of_clear`: if nothing joins behind, fewer directives begin, or as many and the
  next one begins before the last one did.
-/

import Mathlib.Data.Prod.Lex
import PromptWeave.Proofs.Directive.Junction

namespace PromptWeave

open Text

namespace Directive

/-! ### Cutting -/

/-- **A text is cut at its first directive**: nothing begins in front of it, and it is longer than
its opening. -/
theorem exists_cut {text : Text} {directive : Directive}
    (found : first text = .ok (some directive)) :
    ∃ front tag rest, text = front ++ (tag ++ rest) ∧ text.take directive.start = front ∧
      text.drop directive.stop = rest ∧ directive.start = front.length ∧
      Clear front (tag ++ rest) ∧ beginsAt (tag ++ rest) = true ∧ opening.length < tag.length := by
  obtain ⟨front, left, rfl, clear, begins, start, read⟩ := exists_of_firstFrom found
  obtain ⟨_, _, stop⟩ := readAt_span read
  have long := opening_lt_of_readAt begins read
  rw [Nat.zero_add] at start
  rw [start] at long stop
  have parts := List.take_append_drop (directive.stop - front.length) left
  refine ⟨front, left.take (directive.stop - front.length),
    left.drop (directive.stop - front.length), ?_, ?_, ?_, start, ?_, ?_, ?_⟩
  · rw [parts]
  · rw [start, List.take_left']
    rfl
  · rw [List.drop_append, List.drop_eq_nil_of_le (by omega), List.nil_append]
  · rw [parts]
    exact clear
  · rw [parts]
    exact begins
  · rw [List.length_take]
    omega

/-- The next directive begins in the part of a text where one begins. -/
theorem start_lt_of_not_clear {front rest : Text} {next : Directive} (joined : ¬ Clear front rest)
    (found : first (front ++ rest) = .ok (some next)) : next.start < front.length := by
  obtain ⟨before, after, split, clear, _, start, _⟩ := exists_of_firstFrom found
  rw [Nat.zero_add] at start
  rw [start]
  by_contra far
  obtain ⟨more, rfl⟩ : front <+: before :=
    List.prefix_of_prefix_length_le (List.prefix_append front rest)
      (split ▸ List.prefix_append before after) (Nat.le_of_not_lt far)
  rw [List.append_assoc] at split
  rw [List.append_cancel_left split] at joined
  exact joined (clear_append_iff.mp clear).1

/-! ### Counting beginnings -/

/-- How many directives begin in a text that stands in front of a rest. -/
def begun : Text → Text → Nat
  | [], _ => 0
  | c :: text, rest => (if beginsAt (c :: text ++ rest) then 1 else 0) + begun text rest

theorem begun_append (first second rest : Text) :
    begun (first ++ second) rest = begun first (second ++ rest) + begun second rest := by
  induction first with
  | nil => simp [begun]
  | cons c first ih => simp only [List.cons_append, begun, ih, List.append_assoc, Nat.add_assoc]

theorem begun_eq_zero_iff {text rest : Text} : begun text rest = 0 ↔ Clear text rest := by
  induction text with
  | nil => simp [begun, clear_nil]
  | cons c text ih =>
    rw [begun, clear_cons_iff, Nat.add_eq_zero_iff, ih]
    cases beginsAt (c :: text ++ rest) <;> simp

/-- No directive begins in a text without a `<`. -/
theorem clear_of_notMem {text : Text} (plain : '<' ∉ text) (rest : Text) : Clear text rest := by
  intro ending inside some
  by_contra begins
  rw [Bool.not_eq_false] at begins
  obtain ⟨left, split, _⟩ := beginsAt_iff.mp begins
  obtain ⟨c, ending, rfl⟩ := List.exists_cons_of_ne_nil some
  obtain ⟨same, _⟩ := List.cons.inj split
  subst same
  exact plain (inside.subset List.mem_cons_self)

/-- **At most one directive begins in a text because of what follows it**: the text would have to
end in two parts of `<include` at once. -/
theorem begun_le_one_of_clear {text rest : Text} (clear : Clear text rest) (other : Text) :
    begun text other ≤ 1 := by
  induction text with
  | nil => simp [begun]
  | cons c text ih =>
    obtain ⟨here, later⟩ := clear_cons_iff.mp clear
    rw [begun]
    by_cases begins : beginsAt (c :: text ++ other) = true
    · rcases beginsAt_append_cases begins rest with part | again
      · have plain : '<' ∉ text := by
          have tail : text <+: tagName := (List.cons_prefix_cons.mp part).2
          intro inside
          exact absurd (tail.subset inside) (by decide)
        rw [if_pos begins, begun_eq_zero_iff.mpr (clear_of_notMem plain other)]
      · rw [here] at again
        cases again
    · rw [if_neg begins, Nat.zero_add]
      exact ih later

/-! ### What decreases -/

/-- How many directives begin in a text. -/
def marks (text : Text) : Nat := begun text []

theorem marks_append (front middle rest : Text) :
    marks (front ++ (middle ++ rest)) =
      begun front (middle ++ rest) + begun middle rest + marks rest := by
  rw [marks, begun_append, begun_append, List.append_nil, List.append_nil, Nat.add_assoc]
  rfl

/-- **If nothing joins in front**, less is left of the text from the next directive on than was left
from the one that was replaced. -/
theorem left_lt_of_clear {front tag inner rest : Text} {next : Directive}
    (long : opening.length < tag.length) (plain : Clear inner [])
    (clear : Clear front (inner ++ rest))
    (found : first (front ++ (inner ++ rest)) = .ok (some next)) :
    (front ++ (inner ++ rest)).length - next.start < (tag ++ rest).length := by
  rw [first, firstFrom_clear clear, Nat.zero_add] at found
  obtain ⟨before, after, split, _, begins, start, _⟩ := exists_of_firstFrom found
  have short : after.length ≤ opening.length + rest.length := by
    rcases List.append_eq_append_iff.mp split with ⟨more, _, left⟩ | ⟨ending, whole, left⟩
    · rw [left, List.length_append]
      omega
    · subst whole left
      -- What begins in the text that was put in place goes on behind it.
      rw [List.length_append]
      rcases beginsAt_append_cases begins [] with part | again
      · have := part.length_le
        omega
      · by_cases empty : ending = []
        · simp [empty]
        · rw [plain ending (List.suffix_append before ending) empty] at again
          cases again
  have lengths := congrArg List.length split
  rw [List.length_append, List.length_append] at lengths
  rw [start, List.length_append, List.length_append, List.length_append]
  omega

/-- **If nothing joins behind**, fewer directives begin than before, or as many and the next one
begins before the one that was replaced. -/
theorem marks_lt_of_clear {front tag inner rest : Text} {next : Directive}
    (clear : Clear front (tag ++ rest)) (begins : beginsAt (tag ++ rest) = true)
    (long : opening.length < tag.length) (plain : Clear inner rest)
    (found : first (front ++ (inner ++ rest)) = .ok (some next)) :
    toLex (marks (front ++ (inner ++ rest)), next.start) <
      toLex (marks (front ++ (tag ++ rest)), front.length) := by
  have before : 1 + marks rest ≤ marks (front ++ (tag ++ rest)) := by
    obtain ⟨c, tag, rfl⟩ := List.exists_cons_of_length_pos (Nat.zero_lt_of_lt long)
    rw [marks_append, begun, if_pos begins]
    omega
  have after : marks (front ++ (inner ++ rest)) = begun front (inner ++ rest) + marks rest := by
    rw [marks_append, begun_eq_zero_iff.mpr plain, Nat.add_zero]
  have once := begun_le_one_of_clear clear (inner ++ rest)
  rw [Prod.Lex.toLex_lt_toLex]
  by_cases joined : Clear front (inner ++ rest)
  · left
    rw [after, begun_eq_zero_iff.mpr joined]
    omega
  · have earlier := start_lt_of_not_clear joined found
    rcases Nat.lt_or_ge (marks (front ++ (inner ++ rest))) (marks (front ++ (tag ++ rest))) with
      fewer | same
    · exact Or.inl fewer
    · refine Or.inr ⟨?_, earlier⟩
      show marks (front ++ (inner ++ rest)) = marks (front ++ (tag ++ rest))
      omega

end Directive

end PromptWeave
