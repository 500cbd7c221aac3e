/-
**Searching directives by positions.**

The first directive from a position on is the one that a search over the whole text finds: it goes from one place
where `<include` stands to the next, and reads by positions what begins there. So what is found does not hang on
the text in front of the position, and spans are positions of the whole text. Main statements:

* `Directive.includeAt_eq`: what is read where a directive begins;
* `Directive.firstAfter_of_quiet`: a search passes over what begins no directive;
* `Directive.includeFrom_eq`: the first directive from a position on.
-/

import PromptWeave.Proofs.Directive.Junction
import PromptWeave.Proofs.Tag.Positions

namespace PromptWeave

open Text

namespace Directive

variable {text : Text} {start : Nat}

/-- The directive at a position where an include tag begins. -/
def includeAt (text : Text) (position : Nat) : Except Malformed Directive :=
  match Tag.tagAt? text position with
  | none => .error ⟨.unterminated, position⟩
  | some placed =>
    let source := strip ((placed.tag.attributes.get? (· == ·) sourceName).getD [])
    if source = [] then .error ⟨.sourceless, position⟩
    else if placed.tag.selfClosing then .ok ⟨source, position, placed.stop, true⟩
    else match Tag.closingFrom tagName text 0 placed.stop with
      | none => .error ⟨.unclosed, position⟩
      | some stop => .ok ⟨source, position, stop, false⟩

/-- The first directive from a position on. -/
def includeFrom (text : Text) (start : Nat) : Except Malformed (Option Directive) :=
  match _here : find ('<' :: tagName) text start with
  | none => .ok none
  | some place =>
    if Tag.startsAt tagName text place then (includeAt text place).map some
    else includeFrom text (place + 1)
termination_by text.length - start
decreasing_by
  have := (find_eq_some_iff.mp _here).2.1
  omega

theorem includeAt_eq (text : Text) (position : Nat) :
    includeAt text position = readAt position (text.drop position) := by
  unfold readAt includeAt
  cases reading : Tag.tagAt? text position with
  | none => rw [Tag.read?_of_tagAt?_none reading]
  | some placed =>
    obtain ⟨read, inside⟩ := Tag.read?_of_tagAt? reading
    have behind := Tag.lt_stop_of_tagAt? reading
    have stops (left : Text) (shorter : left.length ≤ text.length - placed.stop) :
        position + ((text.drop position).length - left.length) = text.length - left.length := by
      rw [List.length_drop]
      omega
    have single : position + ((text.drop position).length - (text.drop placed.stop).length) =
        placed.stop := by
      rw [stops _ List.length_drop.le, List.length_drop, Nat.sub_sub_self inside]
    rw [read]
    dsimp only
    rw [single, Tag.closingFrom_eq]
    cases closing : Tag.afterClosing? tagName 0 (text.drop placed.stop) with
    | none => rfl
    | some left =>
      have shorter := Tag.afterClosing?_length_lt closing
      rw [List.length_drop] at shorter
      dsimp only [Option.map_some]
      rw [stops left shorter.le]

/-- A search for a directive passes over what begins none. -/
theorem firstAfter_of_quiet {place : Nat} (behind : start ≤ place)
    (quiet : ∀ other, start ≤ other → other < place → beginsAt (text.drop other) = false) :
    firstAfter start text = firstAfter place text := by
  induction place, behind using Nat.le_induction with
  | base => rfl
  | succ place behind ih =>
    rw [ih fun other least before => quiet other least (by omega)]
    have here := quiet place behind (Nat.lt_succ_self place)
    rw [firstAfter, firstAfter]
    cases there : text[place]? with
    | none =>
      have ended := List.getElem?_eq_none_iff.mp there
      rw [drop_of_getElem?_none there, List.drop_eq_nil_of_le (by omega), firstFrom, firstFrom]
    | some c =>
      rw [drop_of_getElem? there] at here ⊢
      rw [firstFrom, if_neg (Bool.eq_false_iff.mp here)]

theorem beginsAt_drop (text : Text) (position : Nat) : beginsAt (text.drop position) =
    (standsAt ('<' :: tagName) text position && Tag.mayStart tagName (text.drop position)) := by
  have stands : ('<' :: tagName).isPrefixOf (text.drop position) =
      standsAt ('<' :: tagName) text position := by
    rw [Bool.eq_iff_iff, List.isPrefixOf_iff_prefix, standsAt_iff]
  rw [beginsAt, stands]

/-- **The first directive from a position on** is the same by positions. -/
theorem includeFrom_eq (text : Text) (start : Nat) : includeFrom text start = firstAfter start text := by
  fun_induction includeFrom text start with
  | case1 start missing =>
    rw [firstAfter_of_quiet (Nat.le_max_left start text.length) fun other least before => ?_, firstAfter,
      List.drop_eq_nil_of_le (Nat.le_max_right _ _), firstFrom]
    rw [beginsAt_drop, find_eq_none_iff.mp missing other least (by omega), Bool.false_and]
  | case2 start place found starts =>
    obtain ⟨stands, ⟨behind, inside⟩, first⟩ := find_eq_some_iff.mp found
    have here := getElem?_of_standsAt stands
    rw [Tag.startsAt_eq tagName here] at starts
    have begins : beginsAt (text.drop place) = true := by rw [beginsAt_drop, stands, starts, Bool.true_and]
    rw [firstAfter_of_quiet behind fun other least before => ?_, firstAfter, firstFrom_of_begins begins,
      includeAt_eq]
    rw [beginsAt_drop, first other least before, Bool.false_and]
  | case3 start place found starts ih =>
    obtain ⟨stands, ⟨behind, inside⟩, first⟩ := find_eq_some_iff.mp found
    have here := getElem?_of_standsAt stands
    rw [Tag.startsAt_eq tagName here, Bool.not_eq_true] at starts
    rw [ih, firstAfter_of_quiet (Nat.le_succ_of_le behind) fun other least before => ?_]
    rw [beginsAt_drop]
    rcases Nat.lt_succ_iff_lt_or_eq.mp before with before | rfl
    · rw [first other least before, Bool.false_and]
    · rw [starts, Bool.and_false]

end Directive

end PromptWeave
