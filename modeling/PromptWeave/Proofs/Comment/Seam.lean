/-
**Stripping comments, and stripping again.**

Stripping takes the comments out of a text and joins what stood between them. What was kept held no
comment; but where a comment was taken out, the texts on its two sides meet at a seam, and a tag that
was in two halves can become whole there. What is kept is left alone by another stripping exactly if
no comment tag begins in front of a seam and ends behind it. Main statements:

* `Comment.opening?` and `Comment.opening?_local`: the tag that a comment begins with is read from its
  own characters;
* `Comment.Kept` and `Comment.strip_eq_ok_iff`: the pieces of a text that are kept;
* `Comment.Kept.strip_flatten_iff`: when the pieces, joined, are left alone;
* `Comment.strip_again_iff`: the same of the text that a stripping gives.
-/

import Mathlib
import PromptWeave.Markup.Comment
import PromptWeave.Proofs.Tag.Locality

namespace PromptWeave

open Text

namespace Comment

/-! ### The tag that a comment begins with -/

/-- The opening or single tag that begins a comment at the start of a text, and what follows it. -/
def opening? (text : Text) : Option (Tag × Text) :=
  if ('<' :: tagName).isPrefixOf text && Tag.mayStart tagName text then
    (Tag.read? text).filter fun found => found.1.name = tagName ∧ found.1.closing = false
  else none

theorem opening?_eq_some_iff {text after : Text} {tag : Tag} :
    opening? text = some (tag, after) ↔
      (('<' :: tagName) <+: text ∧ Tag.mayStart tagName text = true) ∧
        Tag.read? text = some (tag, after) ∧ tag.name = tagName ∧ tag.closing = false := by
  simp only [opening?, Option.ite_none_right_eq_some, Option.filter_eq_some_iff, Bool.and_eq_true,
    List.isPrefixOf_iff_prefix, decide_eq_true_eq]

/-- **What stands at a place follows from the tag that begins there.** -/
theorem here_eq (text : Text) :
    here text = match opening? text with
      | none => .text
      | some (tag, after) =>
        if tag.selfClosing then .closed after
        else match Tag.afterClosing? tagName 0 after with
          | none => .unclosed
          | some left => .closed left := by
  rw [here, opening?]
  split
  · cases Tag.read? text with
    | none => rfl
    | some found =>
      obtain ⟨tag, after⟩ := found
      by_cases named : tag.name = tagName
      · cases closing : tag.closing with
        | true => simp [named, closing, Option.filter]
        | false =>
          simp only [named, closing, Option.filter]
          rfl
      · simp [named, Option.filter]
  · rfl

theorem here_eq_text_iff {text : Text} : here text = .text ↔ opening? text = none := by
  rw [here_eq]
  cases opening? text with
  | none => simp
  | some found =>
    obtain ⟨tag, after⟩ := found
    simp only [reduceCtorEq, iff_false]
    split
    · exact Here.noConfusion
    · split <;> exact Here.noConfusion

/-- No comment begins with another character than `<`. -/
theorem here_of_ne {c : Char} (apart : c ≠ '<') (rest : Text) : here (c :: rest) = .text := by
  simp [here, apart.symm]

/-- A text without `>` stands at the start of another one or not, whatever follows a `>`. -/
theorem prefix_local {name after : Text} (front : Text) (free : '>' ∉ name)
    (starts : name <+: front ++ '>' :: after) (other : Text) : name <+: front ++ '>' :: other := by
  rcases Nat.lt_or_ge front.length name.length with long | short
  · have inside : front ++ ['>'] <+: name :=
      List.prefix_of_prefix_length_le ⟨after, by simp⟩ starts (by rw [List.length_append]; exact long)
    exact absurd (inside.subset (by simp)) free
  · exact (List.prefix_of_prefix_length_le starts (List.prefix_append _ _) short).trans
      (List.prefix_append _ _)

/-- **The tag that a comment begins with is read alike in front of every other text.** -/
theorem opening?_local {text after : Text} {tag : Tag} (opens : opening? text = some (tag, after)) :
    ∃ front, text = front ++ after ∧ ∀ other, opening? (front ++ other) = some (tag, other) := by
  obtain ⟨⟨named, starts⟩, read, same, opens'⟩ := opening?_eq_some_iff.mp opens
  obtain ⟨_, inside, rfl, again⟩ := Tag.read?_local read
  refine ⟨'<' :: inside ++ ['>'], by simp, fun other => ?_⟩
  have whole : '<' :: inside ++ ['>'] ++ other = '<' :: inside ++ '>' :: other := by simp
  rw [whole, opening?_eq_some_iff]
  have may : Tag.mayStart tagName ('<' :: inside ++ '>' :: other) = true := by
    rw [← Tag.mayStart_local (by decide) '<' inside after other]
    exact starts
  exact ⟨⟨prefix_local ('<' :: inside) (by decide) named other, may⟩, again other, same,
    opens'⟩

/-! ### One step of a stripping -/

section Step

variable {c : Char} {rest text after : Text}

theorem stripOrLeft_text (plain : here (c :: rest) = .text) :
    stripOrLeft (c :: rest) = (stripOrLeft rest).map (c :: ·) := by
  rw [stripOrLeft]
  split <;> rename_i same <;> rw [plain] at same <;> cases same

theorem stripOrLeft_closed (comment : here text = .closed after) :
    stripOrLeft text = stripOrLeft after := by
  cases text with
  | nil => cases comment
  | cons c rest =>
    rw [stripOrLeft]
    split <;> rename_i same <;> rw [comment] at same <;> cases same
    rfl

theorem stripOrLeft_unclosed (comment : here text = .unclosed) :
    stripOrLeft text = .error text.length := by
  cases text with
  | nil => cases comment
  | cons c rest =>
    rw [stripOrLeft]
    split <;> rename_i same <;> rw [comment] at same <;> cases same

end Step

/-! ### What is kept -/

/-- The pieces of a text that are kept: what stands in front of the first comment, between two
neighbours, and behind the last one. -/
inductive Kept : Text → List Text → Prop
  | nil : Kept [] [[]]
  | text {c : Char} {rest piece : Text} {pieces : List Text} (plain : here (c :: rest) = .text)
      (later : Kept rest (piece :: pieces)) : Kept (c :: rest) ((c :: piece) :: pieces)
  | comment {text after : Text} {pieces : List Text} (closed : here text = .closed after)
      (later : Kept after pieces) : Kept text ([] :: pieces)

theorem Kept.exists_cons {text : Text} {pieces : List Text} (kept : Kept text pieces) :
    ∃ piece others, pieces = piece :: others := by
  cases kept <;> exact ⟨_, _, rfl⟩

/-- The first piece is how the text begins. -/
theorem Kept.prefix {text piece : Text} {pieces : List Text} (kept : Kept text (piece :: pieces)) :
    piece <+: text := by
  generalize same : piece :: pieces = all at kept
  induction kept generalizing piece pieces with
  | nil => cases same; exact List.prefix_rfl
  | text _ _ ih => cases same; exact List.cons_prefix_cons.mpr ⟨rfl, ih rfl⟩
  | comment => cases same; exact List.nil_prefix

/-- What stands in front of the next `<` is kept. -/
theorem Kept.plain (front : Text) {rest piece : Text} {pieces : List Text} (plain : '<' ∉ front)
    (later : Kept rest (piece :: pieces)) : Kept (front ++ rest) ((front ++ piece) :: pieces) := by
  induction front with
  | nil => exact later
  | cons c front ih =>
    rw [List.mem_cons, not_or] at plain
    exact .text (here_of_ne (Ne.symm plain.1) _) (ih plain.2)

theorem Kept.stripOrLeft {text : Text} {pieces : List Text} (kept : Kept text pieces) :
    stripOrLeft text = .ok pieces.flatten := by
  induction kept with
  | nil => rw [Comment.stripOrLeft]; rfl
  | text plain _ ih => rw [stripOrLeft_text plain, ih]; rfl
  | comment closed _ ih => rw [stripOrLeft_closed closed, ih]; rfl

theorem exists_kept {text stripped : Text} (done : Comment.stripOrLeft text = .ok stripped) :
    ∃ pieces, Kept text pieces := by
  fun_induction Comment.stripOrLeft text generalizing stripped with
  | case1 => exact ⟨_, .nil⟩
  | case2 c rest plain ih =>
    cases later : Comment.stripOrLeft rest with
    | error left => rw [later] at done; cases done
    | ok out =>
      obtain ⟨pieces, kept⟩ := ih later
      obtain ⟨piece, others, rfl⟩ := kept.exists_cons
      exact ⟨_, .text plain kept⟩
  | case3 c rest after closed ih =>
    obtain ⟨pieces, kept⟩ := ih done
    exact ⟨_, .comment closed kept⟩
  | case4 => cases done

theorem strip_eq_ok {text stripped : Text} :
    strip text = .ok stripped ↔ stripOrLeft text = .ok stripped := by
  rw [strip]
  cases stripOrLeft text with
  | error left => constructor <;> intro done <;> cases done
  | ok out => rfl

/-- **A stripping gives the pieces that are kept, joined.** -/
theorem strip_eq_ok_iff {text stripped : Text} :
    strip text = .ok stripped ↔ ∃ pieces, Kept text pieces ∧ pieces.flatten = stripped := by
  rw [strip_eq_ok]
  constructor
  · intro done
    obtain ⟨pieces, kept⟩ := exists_kept done
    exact ⟨pieces, kept, Except.ok.inj (kept.stripOrLeft.symm.trans done)⟩
  · rintro ⟨pieces, kept, rfl⟩
    exact kept.stripOrLeft

/-! ### Seams -/

/-- A comment tag begins in a piece and ends behind it, beyond the seam. -/
def Crosses (piece behind : Text) : Prop :=
  ∃ ending, ending <:+ piece ∧ ending ≠ [] ∧
    ∃ tag after, opening? (ending ++ behind) = some (tag, after) ∧ after.length < behind.length

/-- Some comment tag begins in one of the pieces and ends in a later one. -/
def Joins (pieces : List Text) : Prop :=
  ∃ before piece behind, pieces = before ++ piece :: behind ∧ Crosses piece behind.flatten

theorem joins_cons_iff {piece : Text} {pieces : List Text} :
    Joins (piece :: pieces) ↔ Crosses piece pieces.flatten ∨ Joins pieces := by
  constructor
  · rintro ⟨before, other, behind, whole, crosses⟩
    cases before with
    | nil =>
      obtain ⟨rfl, rfl⟩ := List.cons.inj whole
      exact Or.inl crosses
    | cons first before =>
      obtain ⟨rfl, rfl⟩ := List.cons.inj whole
      exact Or.inr ⟨before, other, behind, rfl, crosses⟩
  · rintro (crosses | ⟨before, other, behind, rfl, crosses⟩)
    · exact ⟨[], piece, pieces, rfl, crosses⟩
    · exact ⟨piece :: before, other, behind, rfl, crosses⟩

/-- **A tag that does not cross a seam was there before.** If a comment tag begins where in the text
there was none, it ends behind the piece. -/
theorem crosses_of_opening? {c : Char} {rest piece behind : Text} (begins : piece <+: rest)
    (plain : here (c :: rest) = .text) {found : Tag × Text}
    (opens : opening? (c :: piece ++ behind) = some found) : Crosses (c :: piece) behind := by
  obtain ⟨tag, after⟩ := found
  refine ⟨c :: piece, List.suffix_rfl, List.cons_ne_nil _ _, tag, after, opens, ?_⟩
  by_contra whole
  obtain ⟨front, split, again⟩ := opening?_local opens
  -- The tag ends inside the piece, so the text itself begins with it.
  obtain ⟨more, inside⟩ : front <+: c :: piece := by
    refine List.prefix_of_prefix_length_le ⟨after, split.symm⟩ (List.prefix_append _ behind) ?_
    have lengths := congrArg List.length split
    rw [List.length_append, List.length_append] at lengths
    omega
  obtain ⟨later, rfl⟩ := begins
  rw [here_eq_text_iff, ← List.cons_append, ← inside, List.append_assoc, again] at plain
  cases plain

/-- Pieces that join nowhere are left alone. -/
theorem Kept.strip_flatten {text : Text} {pieces : List Text} (kept : Kept text pieces)
    (apart : ¬ Joins pieces) : Comment.stripOrLeft pieces.flatten = .ok pieces.flatten := by
  induction kept with
  | nil => rw [Comment.stripOrLeft.eq_def]; rfl
  | @text c rest piece pieces plain later ih =>
    rw [joins_cons_iff, not_or] at apart
    have still : here (c :: piece ++ pieces.flatten) = .text := by
      rw [here_eq_text_iff]
      cases opens : opening? (c :: piece ++ pieces.flatten) with
      | none => rfl
      | some found => exact absurd (crosses_of_opening? later.prefix plain opens) apart.1
    have inner : ¬ Joins (piece :: pieces) := by
      rw [joins_cons_iff]
      rintro (⟨ending, inside, crosses⟩ | joins)
      · exact apart.1 ⟨ending, inside.trans (List.suffix_cons c piece), crosses⟩
      · exact apart.2 joins
    rw [List.flatten_cons] at ih ⊢
    rw [List.cons_append] at still ⊢
    rw [stripOrLeft_text still, ih inner]
    rfl
  | comment _ _ ih =>
    rw [joins_cons_iff, not_or] at apart
    exact ih apart.2

/-- A stripping makes a text shorter, unless no comment begins anywhere in it. -/
theorem length_stripOrLeft_le {text out : Text} (done : Comment.stripOrLeft text = .ok out) :
    out.length ≤ text.length ∧
      (text.length ≤ out.length → ∀ ending, ending <:+ text → opening? ending = none) := by
  fun_induction Comment.stripOrLeft text generalizing out with
  | case1 =>
    refine ⟨by cases done; rfl, fun _ ending inside => ?_⟩
    rw [List.suffix_nil.mp inside]
    rfl
  | case2 c rest plain ih =>
    cases later : Comment.stripOrLeft rest with
    | error left => rw [later] at done; cases done
    | ok left =>
      rw [later] at done
      cases done
      obtain ⟨shorter, none⟩ := ih later
      refine ⟨Nat.succ_le_succ shorter, fun whole ending inside => ?_⟩
      rcases List.suffix_cons_iff.mp inside with rfl | inside
      · exact here_eq_text_iff.mp plain
      · exact none (Nat.le_of_succ_le_succ whole) ending inside
  | case3 c rest after closed ih =>
    have less := here_length_lt closed
    have shorter := (ih done).1
    exact ⟨by omega, fun whole => by omega⟩
  | case4 => cases done

/-- **The pieces that are kept, joined, are left alone exactly if no comment tag crosses a seam.** -/
theorem Kept.strip_flatten_iff {text : Text} {pieces : List Text} (kept : Kept text pieces) :
    strip pieces.flatten = .ok pieces.flatten ↔ ¬ Joins pieces := by
  rw [strip_eq_ok]
  refine ⟨fun same joins => ?_, kept.strip_flatten⟩
  obtain ⟨before, piece, behind, rfl, ending, inside, _, tag, after, opens, _⟩ := joins
  have place : ending ++ behind.flatten <:+ (before ++ piece :: behind).flatten := by
    rw [List.flatten_append, List.flatten_cons]
    obtain ⟨front, rfl⟩ := inside
    exact ⟨before.flatten ++ front, by simp⟩
  rw [(length_stripOrLeft_le same).2 le_rfl _ place] at opens
  cases opens

/-- **Stripping again.** What a stripping gives is made of pieces of the text, and it is left alone by
another stripping exactly if no comment tag begins in one of them and ends in a later one. -/
theorem strip_again_iff {text stripped : Text} (done : strip text = .ok stripped) :
    ∃ pieces, Kept text pieces ∧ stripped = pieces.flatten ∧
      (strip stripped = .ok stripped ↔ ¬ Joins pieces) := by
  obtain ⟨pieces, kept, rfl⟩ := strip_eq_ok_iff.mp done
  exact ⟨pieces, kept, rfl, kept.strip_flatten_iff⟩

/-- A comment is taken out, and nothing joins. -/
theorem strip_again_single :
    strip "a<comment/>b".toList = .ok "ab".toList ∧
      ∃ pieces, Kept "a<comment/>b".toList pieces ∧ "ab".toList = pieces.flatten ∧
        (strip "ab".toList = .ok "ab".toList ↔ ¬ Joins pieces) := by
  have comment : here "<comment/>b".toList = .closed "b".toList := by cbv
  have behind : Kept "b".toList ["b".toList] :=
    .plain "b".toList (by decide) .nil
  have kept : Kept "a<comment/>b".toList ["a".toList, "b".toList] :=
    .plain "a".toList (by decide) (.comment comment behind)
  have done : strip "a<comment/>b".toList = .ok "ab".toList :=
    strip_eq_ok_iff.mpr ⟨_, kept, rfl⟩
  exact ⟨done, strip_again_iff done⟩

/-- Two halves of a comment tag meet where a comment was taken out between them, and another
stripping takes them out as well. -/
theorem strip_twice_seam :
    strip "<com<comment/>ment/>".toList = .ok "<comment/>".toList ∧
      strip "<comment/>".toList = .ok [] ∧ Except.ok (ε := Nat) [] ≠ .ok "<comment/>".toList := by
  have half : here "<com<comment/>ment/>".toList = .text := by cbv
  have inner : here "<comment/>ment/>".toList = .closed "ment/>".toList := by cbv
  have whole : here "<comment/>".toList = .closed [] := by cbv
  have behind : Kept "ment/>".toList ["ment/>".toList] :=
    .plain "ment/>".toList (by decide) .nil
  have kept : Kept "<com<comment/>ment/>".toList ["<com".toList, "ment/>".toList] :=
    .text half (.plain "com".toList (by decide) (.comment inner behind))
  exact ⟨strip_eq_ok_iff.mpr ⟨_, kept, rfl⟩, strip_eq_ok_iff.mpr ⟨_, .comment whole .nil, rfl⟩,
    by decide⟩

end Comment

end PromptWeave
