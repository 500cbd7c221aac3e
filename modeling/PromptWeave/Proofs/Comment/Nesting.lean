/-
**Comments in a row of comment tags.**

What a stripping does to a text follows from a walk along its comment tags that only counts how many
comments are open: what the walk meets while none is open is kept, and if some are open in the end,
the last one that was opened outside of any other is never closed. Comments may stand in comments to
any depth, and closing tags outside of any comment are text. Main statements:

* `Comment.Walk`: the walk;
* `Comment.Walk.along_behind`: how it leaves a comment, by the closing tag that balances it;
* `Comment.ends_along`: a stripping and the walk come to the same end;
* `Comment.stripOrFail_row`: what a stripping gives, or where it fails.
-/

import PromptWeave.Composition.Chat
import PromptWeave.Proofs.Comment.Seam
import PromptWeave.Proofs.Tag.Nesting

namespace PromptWeave

open Text

namespace Comment

open Tag (Mark Chunk rowText rowText_cons EndsOrOpens FreeOf behind?)

theorem isName_tagName : Tag.IsName tagName := ⟨by decide, List.all_eq_true.mp rfl⟩

/-! ### Stripping step by step -/

/-- A text is kept if no comment begins at any of its characters. -/
theorem stripOrLeft_append {front rest : Text}
    (plain : ∀ c later, c :: later <:+ front → here (c :: later ++ rest) = .text) :
    stripOrLeft (front ++ rest) = (stripOrLeft rest).map (front ++ ·) := by
  induction front with
  | nil => cases same : stripOrLeft rest <;> rw [List.nil_append, same] <;> rfl
  | cons c front ih =>
    have here := plain c front List.suffix_rfl
    rw [List.cons_append] at here ⊢
    rw [stripOrLeft_text here,
      ih fun d later inside => plain d later (inside.trans (List.suffix_cons c front))]
    cases stripOrLeft rest <;> rfl

/-- What stands between two comment tags is kept. -/
theorem stripOrLeft_chunk (chunk : Chunk tagName) {rest : Text} (follows : EndsOrOpens rest) :
    stripOrLeft (chunk.text ++ rest) = (stripOrLeft rest).map (chunk.text ++ ·) := by
  refine stripOrLeft_append fun c later inside => ?_
  by_cases opens : c = '<'
  · subst opens
    rw [here, chunk.mayStart_append isName_tagName inside follows, Bool.and_false,
      if_neg Bool.false_ne_true]
  · exact here_of_ne opens _

/-- A closing tag outside of any comment is kept. -/
theorem stripOrLeft_closing (rest : Text) :
    stripOrLeft (Tag.closingOf tagName ++ rest) =
      (stripOrLeft rest).map (Tag.closingOf tagName ++ ·) := by
  refine stripOrLeft_append fun c later inside => ?_
  rcases List.suffix_cons_iff.mp inside with whole | inside
  · obtain ⟨rfl, rfl⟩ := List.cons.inj whole
    rfl
  · have apart : '<' ∉ '/' :: (tagName ++ ['>']) := by decide
    exact here_of_ne (fun opens => apart (opens ▸ inside.subset List.mem_cons_self)) _

/-- A comment tag that is spelled begins a comment. -/
theorem opening?_spelled (inside : Tag.Inside) (selfClosing : Bool) (rest : Text) :
    opening? (Tag.spelled tagName inside selfClosing ++ rest) =
      some (⟨tagName, false, selfClosing, inside.entries⟩, rest) := by
  refine opening?_eq_some_iff.mpr ⟨⟨?_, ?_⟩, ?_, rfl, rfl⟩
  · rw [Tag.spelled]
    exact List.cons_prefix_cons.mpr ⟨rfl, (List.prefix_append _ _).trans (List.prefix_append _ _)⟩
  · exact Tag.mayStart_spelled isName_tagName inside selfClosing rest
  · exact Tag.read?_spelled isName_tagName inside selfClosing rest

/-- A single comment is its tag. -/
theorem here_single (inside : Tag.Inside) (rest : Text) :
    here ((Mark.single inside).text tagName ++ rest) = .closed rest := by
  rw [Mark.text, here_eq, opening?_spelled]
  rfl

/-- A comment ends with the closing tag that balances its opening tag. -/
theorem here_opening (inside : Tag.Inside) (chunk : Chunk tagName)
    (items : List (Mark × Chunk tagName)) :
    here ((Mark.opening inside).text tagName ++ (chunk.text ++ rowText items)) =
      match behind? 0 items with
      | none => .unclosed
      | some (chunk, later) => .closed (chunk.text ++ rowText later) := by
  rw [Mark.text, here_eq, opening?_spelled]
  simp only [Bool.false_eq_true, if_false, Tag.afterClosing?_row isName_tagName]
  cases behind? 0 items <;> rfl

/-! ### The walk -/

/-- A walk along the comment tags of a text. -/
structure Walk where
  /-- How many comments are open. -/
  depth : Nat
  /-- How many characters lie behind the walk. -/
  place : Nat
  /-- How many characters stand in front of the last comment that was opened outside of any other. -/
  opened : Nat
  /-- What was met outside of any comment, tags that open one or are one left out. -/
  kept : Text

namespace Walk

/-- The start of a text. -/
def start : Walk := ⟨0, 0, 0, []⟩

/-- The walk over a comment tag. -/
def meet (walk : Walk) (mark : Mark) : Walk :=
  let next := { walk with place := walk.place + (mark.text tagName).length }
  match mark with
  | .opening _ =>
    { next with
      depth := walk.depth + 1
      opened := if walk.depth = 0 then walk.place else walk.opened }
  | .single _ => next
  | .closing =>
    { next with
      depth := walk.depth - 1
      kept := if walk.depth = 0 then walk.kept ++ mark.text tagName else walk.kept }

/-- The walk over what stands between two comment tags. -/
def pass (walk : Walk) (chunk : Chunk tagName) : Walk :=
  { walk with
    place := walk.place + chunk.text.length
    kept := if walk.depth = 0 then walk.kept ++ chunk.text else walk.kept }

/-- The walk along a row of comment tags. -/
def along (walk : Walk) (items : List (Mark × Chunk tagName)) : Walk :=
  items.foldl (fun walk item => (walk.meet item.1).pass item.2) walk

variable {walk : Walk} {mark : Mark} {chunk : Chunk tagName} {items : List (Mark × Chunk tagName)}

theorem along_cons :
    walk.along ((mark, chunk) :: items) = ((walk.meet mark).pass chunk).along items := rfl

@[simp] theorem meet_place : (walk.meet mark).place = walk.place + (mark.text tagName).length := by
  cases mark <;> rfl

@[simp] theorem meet_opening_depth {inside : Tag.Inside} :
    (walk.meet (.opening inside)).depth = walk.depth + 1 := rfl

@[simp] theorem meet_closing_depth : (walk.meet .closing).depth = walk.depth - 1 := rfl

@[simp] theorem pass_depth : (walk.pass chunk).depth = walk.depth := rfl

@[simp] theorem pass_place : (walk.pass chunk).place = walk.place + chunk.text.length := rfl

@[simp] theorem pass_opened : (walk.pass chunk).opened = walk.opened := rfl

theorem pass_kept_outside (outside : walk.depth = 0) :
    (walk.pass chunk).kept = walk.kept ++ chunk.text := if_pos outside

theorem pass_kept_inside (inside : walk.depth ≠ 0) : (walk.pass chunk).kept = walk.kept :=
  if_neg inside

/-- Over a tag inside a comment nothing is kept, and the comment stays the last one opened. -/
theorem meet_inside (mark : Mark) (inside : walk.depth ≠ 0) :
    (walk.meet mark).opened = walk.opened ∧ (walk.meet mark).kept = walk.kept := by
  cases mark with
  | opening => exact ⟨if_neg inside, rfl⟩
  | single => exact ⟨rfl, rfl⟩
  | closing => exact ⟨rfl, if_neg inside⟩

/-- How a walk leaves the comment that it is in, given what stands behind the comment's closing tag:
with that to come, or never. -/
def Leaves (walk : Walk) (items : List (Mark × Chunk tagName)) :
    Option (Chunk tagName × List (Mark × Chunk tagName)) → Prop
  | none => (walk.along items).depth ≠ 0 ∧ (walk.along items).opened = walk.opened
  | some (chunk, later) => ∃ back : Walk, back.depth = 0 ∧ back.kept = walk.kept ∧
      back.place + (chunk.text ++ rowText later).length = walk.place + (rowText items).length ∧
      walk.along items = (back.pass chunk).along later

/-- A walk that stays in a comment over a tag leaves it as it does from there. -/
theorem Leaves.cons (inside : walk.depth ≠ 0) (still : (walk.meet mark).depth ≠ 0)
    {left : Option (Chunk tagName × List (Mark × Chunk tagName))}
    (leaves : Leaves ((walk.meet mark).pass chunk) items left) :
    Leaves walk ((mark, chunk) :: items) left := by
  obtain ⟨opened, kept⟩ := meet_inside mark inside
  cases left with
  | none =>
    obtain ⟨deep, same⟩ := leaves
    rw [pass_opened, opened] at same
    exact ⟨deep, same⟩
  | some left =>
    obtain ⟨back, outside, same, place, way⟩ := leaves
    rw [pass_kept_inside still, kept] at same
    refine ⟨back, outside, same, ?_, way⟩
    rw [place, pass_place, meet_place, rowText_cons, List.length_append, List.length_append]
    omega

/-- **A walk leaves a comment by the closing tag that balances it.** -/
theorem along_behind {inner : Nat} (items : List (Mark × Chunk tagName))
    (deep : walk.depth = inner + 1) : Leaves walk items (behind? inner items) := by
  have inside : walk.depth ≠ 0 := by omega
  fun_induction behind? inner items generalizing walk with
  | case1 inner => exact ⟨inside, rfl⟩
  | case2 inner within chunk items ih =>
    have deeper : (walk.meet (.opening within)).depth = inner + 2 := by simp [deep]
    exact .cons inside (by omega) (ih deeper (by simp))
  | case3 inner within chunk items ih =>
    have still : (walk.meet (.single within)).depth ≠ 0 := inside
    exact .cons inside still (ih deep still)
  | case4 chunk items =>
    have back : (walk.meet .closing).depth = 0 := by simp [deep]
    refine ⟨walk.meet .closing, back, (meet_inside .closing inside).2, ?_, rfl⟩
    simp only [meet_place, rowText_cons, List.length_append, Nat.add_assoc]
  | case5 inner chunk items ih =>
    have less : (walk.meet .closing).depth = inner + 1 := by simp [deep]
    exact .cons inside (by omega) (ih less (by simp [deep]))

end Walk

/-! ### The walk and the stripping -/

/-- A stripping of a text ends as a walk over it does: with what the walk keeps, or at the comment
that it opened last. -/
def Ends (text : Text) (walk final : Walk) : Prop :=
  match stripOrLeft text with
  | .ok out => final.depth = 0 ∧ final.kept = walk.kept ++ out
  | .error left => final.depth ≠ 0 ∧ final.opened + left = walk.place + text.length

namespace Ends

variable {text front rest : Text} {walk next final : Walk}

/-- A text in front is kept. -/
theorem append (plain : stripOrLeft (front ++ rest) = (stripOrLeft rest).map (front ++ ·))
    (kept : next.kept = walk.kept ++ front) (place : next.place = walk.place + front.length)
    (ends : Ends rest next final) : Ends (front ++ rest) walk final := by
  rw [Ends, plain]
  rw [Ends] at ends
  cases same : stripOrLeft rest with
  | ok out =>
    rw [same] at ends
    exact ⟨ends.1, by rw [ends.2, kept, List.append_assoc]⟩
  | error left =>
    rw [same] at ends
    refine ⟨ends.1, ?_⟩
    rw [ends.2, place, List.length_append, Nat.add_assoc]

/-- A comment in front is left out. -/
theorem skip (comment : here text = .closed rest) (kept : next.kept = walk.kept)
    (place : next.place + rest.length = walk.place + text.length) (ends : Ends rest next final) :
    Ends text walk final := by
  rw [Ends, stripOrLeft_closed comment, ← kept, ← place]
  exact ends

/-- A chunk in front is kept. -/
theorem chunk {chunk : Chunk tagName} (outside : walk.depth = 0) (follows : EndsOrOpens rest)
    (ends : Ends rest (walk.pass chunk) final) : Ends (chunk.text ++ rest) walk final :=
  append (stripOrLeft_chunk chunk follows) (Walk.pass_kept_outside outside) rfl ends

end Ends

/-- **A stripping and the walk come to the same end** over every row of comment tags. -/
theorem ends_along (walk : Walk) (outside : walk.depth = 0) (items : List (Mark × Chunk tagName)) :
    Ends (rowText items) walk (walk.along items) := by
  match items with
  | [] =>
    rw [Ends, Tag.rowText_nil, stripOrLeft.eq_def]
    exact ⟨outside, (List.append_nil _).symm⟩
  | (.single inside, chunk) :: items =>
    have still : (walk.meet (.single inside)).depth = 0 := outside
    have later := ends_along ((walk.meet (.single inside)).pass chunk) still items
    have kept : (walk.meet (.single inside)).kept = walk.kept := rfl
    rw [rowText_cons, Walk.along_cons]
    refine .skip (here_single inside _) kept ?_
      (.chunk still (Tag.endsOrOpens_rowText items) later)
    simp only [Walk.meet_place, List.length_append, Nat.add_assoc]
  | (.closing, chunk) :: items =>
    have still : (walk.meet .closing).depth = 0 := by simp [outside]
    have later := ends_along ((walk.meet .closing).pass chunk) still items
    rw [rowText_cons, Walk.along_cons]
    exact .append (stripOrLeft_closing _) (if_pos outside) Walk.meet_place
      (.chunk still (Tag.endsOrOpens_rowText items) later)
  | (.opening inside, chunk) :: items =>
    -- The walk is in the comment; how it leaves it follows from the closing tag of the comment.
    have deep : ((walk.meet (.opening inside)).pass chunk).depth = 1 := by simp [outside]
    have opened : ((walk.meet (.opening inside)).pass chunk).opened = walk.place := if_pos outside
    have kept : ((walk.meet (.opening inside)).pass chunk).kept = walk.kept :=
      Walk.pass_kept_inside (by simp)
    have leaves := Walk.along_behind items deep
    have comment := here_opening inside chunk items
    rw [rowText_cons, Walk.along_cons]
    cases found : behind? 0 items with
    | none =>
      rw [found] at leaves comment
      rw [Ends, stripOrLeft_unclosed comment]
      exact ⟨leaves.1, by rw [leaves.2, opened]⟩
    | some left =>
      obtain ⟨behind, later⟩ := left
      have shorter := Tag.behind?_length_lt found
      rw [found] at leaves comment
      obtain ⟨back, outside, same, place, way⟩ := leaves
      rw [way]
      refine .skip comment (same.trans kept) ?_ (.chunk outside (Tag.endsOrOpens_rowText later)
        (ends_along (back.pass behind) outside later))
      rw [place]
      simp only [Walk.pass_place, Walk.meet_place, List.length_append, Nat.add_assoc]
termination_by items.length

/-- **What a stripping gives, for every text that is made of comment tags and the chunks between
them.** If the walk along the tags ends outside of any comment, these are, in order, the chunks and
the closing tags that it met outside of any; otherwise the stripping fails, on the line of the last
comment that was opened outside of any other. -/
theorem stripOrFail_row (lead : Chunk tagName) (items : List (Mark × Chunk tagName)) :
    stripOrFail (lead.text ++ rowText items) =
      if ((Walk.start.pass lead).along items).depth = 0 then
        .ok ((Walk.start.pass lead).along items).kept
      else
        .error (failure (lineAt (lead.text ++ rowText items)
          ((Walk.start.pass lead).along items).opened)) := by
  have ends : Ends (lead.text ++ rowText items) .start ((Walk.start.pass lead).along items) :=
    .chunk rfl (Tag.endsOrOpens_rowText items) (ends_along (Walk.start.pass lead) rfl items)
  rw [Ends] at ends
  rw [stripOrFail, strip]
  cases same : stripOrLeft (lead.text ++ rowText items) with
  | ok out =>
    rw [same] at ends
    obtain ⟨outside, kept⟩ := ends
    rw [if_pos outside, kept]
    rfl
  | error left =>
    rw [same] at ends
    obtain ⟨deep, place⟩ := ends
    have opened : ((Walk.start.pass lead).along items).opened =
        (lead.text ++ rowText items).length - left := by
      rw [show Walk.start.place = 0 from rfl, Nat.zero_add] at place
      omega
    rw [if_neg deep, opened]
    rfl

end Comment

end PromptWeave
