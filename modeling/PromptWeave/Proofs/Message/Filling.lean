/-
**Values without `<` leave the messages in their places.**

A placeholder holds no `<`. So if no placeholder stands in a tag, then a text and what it is filled in
to are alike: the same tags with other fillers between them. What the values say can then neither
begin, end nor cut a message. Main statements:

* `Template.holes`: the placeholders of a text, with what follows them;
* `Template.map_name_holes`: they are the holes of its template;
* `Template.TagsApart`: every `<` begins a whole tag in which no placeholder stands;
* `Template.exists_filled_alike`: a filled text is alike to its template;
* `Message.sameShape_of_fillStage`: two fillings come to results of one shape.
-/

import Mathlib.Data.List.Infix
import PromptWeave.Composition.Pipeline
import PromptWeave.Proofs.Message.Outline
import PromptWeave.Proofs.Storage.Document

namespace PromptWeave

open Text

/-! ### Placeholders hold no `<` -/

namespace Placeholder

/-- No `<` stands between the start of a text and what is left of it. -/
def Clear (text left : Text) : Prop := ∃ front, text = front ++ left ∧ '<' ∉ front

namespace Clear

variable {text between left : Text}

theorem refl (text : Text) : Clear text text := ⟨[], rfl, List.not_mem_nil⟩

theorem trans (first : Clear text between) (second : Clear between left) : Clear text left := by
  obtain ⟨front, rfl, free⟩ := first
  obtain ⟨front', rfl, free'⟩ := second
  refine ⟨front ++ front', (List.append_assoc ..).symm, fun inside => ?_⟩
  rcases List.mem_append.mp inside with inside | inside
  · exact free inside
  · exact free' inside

theorem cons {c : Char} (apart : c ≠ '<') (rest : Text) : Clear (c :: rest) rest :=
  ⟨[c], rfl, fun inside => apart (List.mem_singleton.mp inside).symm⟩

theorem dropWhile {p : Char → Bool} (outside : p '<' = false) (text : Text) :
    Clear text (text.dropWhile p) := by
  refine ⟨text.takeWhile p, List.takeWhile_append_dropWhile.symm, fun inside => ?_⟩
  have passes := List.mem_takeWhile_imp inside
  rw [outside] at passes
  cases passes

theorem drop_length {closing : Text} (free : '<' ∉ closing) (closes : closing.isPrefixOf text) :
    Clear text (text.drop closing.length) := by
  obtain ⟨rest, rfl⟩ := List.isPrefixOf_iff_prefix.mp closes
  rw [List.drop_left]
  exact ⟨closing, rfl, free⟩

end Clear

theorem clear_readParts (text : Text) : Clear text (readParts text).2 := by
  fun_induction readParts text with
  | case1 c rest inside _ ih =>
    have solid : c ≠ '<' := by
      rintro rfl
      exact absurd inside (by decide)
    exact ((Clear.cons (by decide) _).trans (.cons solid rest)).trans
      ((Clear.dropWhile (by decide) rest).trans ih)
  | case2 => exact .refl _
  | case3 => exact .refl _

theorem clear_readName {text name after : Text} (read : readName text = some (name, after)) :
    Clear text after := by
  unfold readName at read
  split at read
  · cases read
  · rename_i c rest
    split at read
    · rename_i starts
      have solid : c ≠ '<' := by
        rintro rfl
        exact absurd starts (by decide)
      cases read
      exact (Clear.cons solid rest).trans ((Clear.dropWhile (by decide) rest).trans
        (clear_readParts _))
    · cases read

theorem clear_readInside {closing text name after : Text} (free : '<' ∉ closing)
    (read : readInside closing text = some (name, after)) : Clear text after := by
  have blanks (text : Text) : Clear text (stripLeft text) := Clear.dropWhile (by decide) text
  unfold readInside at read
  split at read
  · cases read
  · rename_i name' rest reading
    dsimp only at read
    split at read
    · rename_i closes
      cases read
      exact (blanks text).trans ((clear_readName reading).trans
        ((blanks rest).trans (.drop_length free closes)))
    · cases read

/-- **A placeholder holds no `<`.** -/
theorem clear_read? {text name after : Text} (read : read? text = some (name, after)) :
    Clear text after := by
  have brace (rest : Text) : Clear ('\x7b' :: rest) rest := .cons (by decide) rest
  unfold read? at read
  split at read
  · exact (brace _).trans ((brace _).trans ((brace _).trans (clear_readInside (by decide) read)))
  · exact (brace _).trans ((brace _).trans (clear_readInside (by decide) read))
  · cases read

end Placeholder

/-! ### Where the placeholders of a text stand -/

/-- The name that a piece of a template stands for. -/
def Piece.name? : Piece → Option Text
  | plain _ => none
  | hole name => some name

namespace Template

/-- A placeholder in a text: the text from it on, its name, and what follows it. -/
structure Hole where
  here : Text
  name : Text
  behind : Text
deriving DecidableEq, Repr

/-- The placeholders of a text from left to right. -/
def holes (text : Text) : List Hole :=
  match text with
  | [] => []
  | c :: rest =>
    match _reading : Placeholder.read? (c :: rest) with
    | some (name, after) => ⟨c :: rest, name, after⟩ :: holes after
    | none => holes rest
termination_by text.length
decreasing_by
  · exact Placeholder.read?_length_lt _reading
  · simp

section Steps

variable {c : Char} {rest name after text : Text}

theorem ofText_of_read (read : Placeholder.read? text = some (name, after)) :
    ofText text = .hole name :: ofText after ∧ holes text = ⟨text, name, after⟩ :: holes after := by
  cases text with
  | nil => cases read
  | cons c rest =>
    rw [ofText, holes]
    constructor <;> split <;> simp_all

theorem ofText_of_unread (unread : Placeholder.read? (c :: rest) = none) :
    ofText (c :: rest) = .plain c :: ofText rest ∧ holes (c :: rest) = holes rest := by
  rw [ofText, holes]
  constructor <;> split <;> simp_all

/-- **The placeholders of a text are the holes of its template.** -/
theorem map_name_holes (text : Text) :
    (holes text).map (·.name) = (ofText text).filterMap Piece.name? := by
  fun_induction holes text with
  | case1 => rw [ofText]; rfl
  | case2 c rest name after reading ih =>
    rw [(ofText_of_read reading).1, List.map_cons, ih]
    rfl
  | case3 c rest unread ih =>
    rw [(ofText_of_unread unread).1, ih]
    rfl

theorem length_here_le {hole : Hole} (inside : hole ∈ holes text) :
    hole.here.length ≤ text.length ∧ hole.behind.length < hole.here.length := by
  fun_induction holes text with
  | case1 => cases inside
  | case2 c rest name after reading ih =>
    have shorter := Placeholder.read?_length_lt reading
    rcases List.mem_cons.mp inside with rfl | later
    · exact ⟨Nat.le_refl _, shorter⟩
    · exact ⟨(ih later).1.trans shorter.le, (ih later).2⟩
  | case3 c rest _ ih => exact ⟨(ih inside).1.trans (Nat.le_succ _), (ih inside).2⟩

/-- **Text in which no placeholder begins stays as it is.** -/
theorem ofText_append {front : Text}
    (none : ∀ hole ∈ holes (front ++ after), hole.here.length ≤ after.length) :
    ofText (front ++ after) = front.map .plain ++ ofText after ∧
      holes (front ++ after) = holes after := by
  induction front with
  | nil => exact ⟨rfl, rfl⟩
  | cons c front ih =>
    rw [List.cons_append] at none ⊢
    cases read : Placeholder.read? (c :: (front ++ after)) with
    | some found =>
      have first := none ⟨c :: (front ++ after), found.1, found.2⟩ (by simp [ofText_of_read read])
      simp only [List.length_cons, List.length_append] at first
      omega
    | none =>
      obtain ⟨pieces, same⟩ := ofText_of_unread read
      obtain ⟨pieces', same'⟩ := ih fun hole inside => none hole (same ▸ inside)
      rw [pieces, same, pieces', same']
      exact ⟨rfl, rfl⟩

end Steps

/-- A placeholder and a tag do not overlap: one of them ends before the other begins. The tag is given
by the text from it on and what follows it. -/
def Hole.ApartFrom (hole : Hole) (here behind : Text) : Prop :=
  here.length ≤ hole.behind.length ∨ hole.here.length ≤ behind.length

/-- Every `<` of a text begins a whole tag, and no placeholder overlaps that tag. -/
def TagsApart (text : Text) : Prop :=
  ∀ rest, '<' :: rest <:+ text → ∃ found ∈ Tag.read? ('<' :: rest),
    ∀ hole ∈ holes text, hole.ApartFrom ('<' :: rest) found.2

instance (hole : Hole) (here behind : Text) : Decidable (hole.ApartFrom here behind) :=
  inferInstanceAs (Decidable (_ ∨ _))

instance (text : Text) : Decidable (TagsApart text) :=
  decidable_of_iff (∀ here ∈ text.tails, here.head? = some '<' →
      ∃ found ∈ Tag.read? here, ∀ hole ∈ holes text, hole.ApartFrom here found.2) (by
    constructor
    · intro apart rest suffix
      exact apart _ ((List.mem_tails _ _).mpr suffix) rfl
    · intro apart here suffix opens
      obtain ⟨rest, rfl⟩ := List.head?_eq_some_iff.mp opens
      exact apart rest ((List.mem_tails _ _).mp suffix))

/-- What is left of a text with the same placeholders has its tags apart too. -/
theorem TagsApart.of_suffix {text left : Text} (apart : TagsApart text) (suffix : left <:+ text)
    (fewer : ∀ hole ∈ holes left, hole ∈ holes text) : TagsApart left := by
  intro rest inside
  obtain ⟨found, read, free⟩ := apart rest (inside.trans suffix)
  exact ⟨found, read, fun hole within => free hole (fewer hole within)⟩

/-- The tag that such a text begins with stays as it is. -/
theorem TagsApart.exists_tag {rest : Text} (apart : TagsApart ('<' :: rest))
    (unread : Placeholder.read? ('<' :: rest) = none) :
    ∃ tag inside after, rest = inside ++ ['>'] ++ after ∧
      (∀ behind, Tag.read? ('<' :: (inside ++ '>' :: behind)) = some (tag, behind)) ∧
      ofText rest = (inside ++ ['>']).map .plain ++ ofText after ∧
      holes ('<' :: rest) = holes after := by
  obtain ⟨⟨tag, after⟩, reads, free⟩ := apart rest List.suffix_rfl
  obtain ⟨_, inside, split, again⟩ := Tag.read?_local reads
  obtain rfl : rest = inside ++ ['>'] ++ after := by simpa using split
  obtain ⟨_, same⟩ := ofText_of_unread unread
  have none : ∀ hole ∈ holes (inside ++ ['>'] ++ after), hole.here.length ≤ after.length := by
    intro hole within
    rw [← same] at within
    have bound := length_here_le within
    rcases free hole within with ahead | behind
    · omega
    · exact behind
  obtain ⟨front, fewer⟩ := ofText_append none
  exact ⟨tag, inside, after, rfl, again, front, same.trans fewer⟩

/-- A name is filled in with a text without `<`. -/
def Tame (indent : Int) (bindings : Mapping) (name : Text) : Prop :=
  ∃ value found, fillIn indent bindings name = .ok (value, found) ∧ '<' ∉ value

/-! ### Filling -/

section Filling

variable {indent : Int} {bindings : Mapping}

/-- **A filled text is alike to its template**, if no placeholder stands in a tag and no value holds
a `<`. -/
theorem exists_filled_alike {text : Text} (apart : TagsApart text)
    (tame : ∀ hole ∈ holes text, Tame indent bindings hole.name) :
    ∃ filled, (fill indent bindings (ofText text)).text = .ok filled ∧ Tag.Alike text filled := by
  induction size : text.length using Nat.strongRecOn generalizing text with
  | ind length shorter =>
    subst size
    cases text with
    | nil => exact ⟨[], by rw [ofText, fill], .nil⟩
    | cons c rest =>
      cases read : Placeholder.read? (c :: rest) with
      | some found =>
        obtain ⟨name, after⟩ := found
        obtain ⟨pieces, same⟩ := ofText_of_read read
        obtain ⟨front, split, untagged⟩ := Placeholder.clear_read? read
        obtain ⟨value, found, rendered, untagged'⟩ := tame ⟨c :: rest, name, after⟩ (by simp [same])
        have fewer : ∀ hole ∈ holes after, hole ∈ holes (c :: rest) := fun hole inside => by
          rw [same]
          exact List.mem_cons_of_mem _ inside
        obtain ⟨filled, whole, alike⟩ := shorter _ (Placeholder.read?_length_lt read)
          (apart.of_suffix ⟨front, split.symm⟩ fewer) (fun hole inside => tame hole (fewer hole inside))
          rfl
        refine ⟨value ++ filled, ?_, split ▸ .filler untagged untagged' alike⟩
        rw [pieces, fill, rendered]
        dsimp only
        rw [whole]
        rfl
      | none =>
        obtain ⟨pieces, same⟩ := ofText_of_unread read
        obtain ⟨filled, whole, alike⟩ := shorter rest.length (Nat.lt_succ_self _)
          (apart.of_suffix (List.suffix_cons c rest) (by simp [same])) (by rwa [← same]) rfl
        have filling : (fill indent bindings (ofText (c :: rest))).text = .ok (c :: filled) := by
          rw [pieces, fill, Filling.prepend, whole]
          rfl
        refine ⟨c :: filled, filling, ?_⟩
        by_cases opens : c = '<'
        · subst opens
          obtain ⟨tag, inside, after, rfl, reads, front, fewer⟩ := apart.exists_tag read
          have suffix : after <:+ '<' :: (inside ++ ['>'] ++ after) :=
            (List.suffix_append _ after).trans (List.suffix_cons _ _)
          have shortened : after.length < ('<' :: (inside ++ ['>'] ++ after)).length := by
            simp only [List.length_cons, List.length_append]
            omega
          obtain ⟨filled', whole', alike'⟩ := shorter after.length shortened
            (apart.of_suffix suffix (by simp only [fewer, imp_self, implies_true])) (by rwa [← fewer])
            rfl
          obtain rfl : inside ++ ['>'] ++ filled' = filled := by
            rw [front, fill_map_plain, Filling.prepend, whole'] at whole
            exact Except.ok.inj whole
          simp only [List.append_assoc, List.singleton_append] at alike ⊢
          exact .tag reads alike alike'
        · have plain : '<' ∉ [c] := fun inside => opens (List.mem_singleton.mp inside).symm
          exact .filler plain plain alike

end Filling

end Template

/-! ### The shape of the messages -/

namespace Message

/-- **Values without `<` do not change the shape of the messages.** Fill a text in which no placeholder
overlaps a tag, and every `<` begins one, with any two mappings: if the values that are filled in hold
no `<`, then both fillings come to a text, and the messages of the two texts have the same roles in the
same order, or the same kind of failure at the same tag or role. -/
theorem sameShape_of_fillStage {text : Text} (apart : Template.TagsApart text)
    {recipe recipe' : Recipe} {bindings bindings' : Mapping}
    (given : recipe.bindings = some bindings) (given' : recipe'.bindings = some bindings')
    (tame : ∀ hole ∈ Template.holes text, Template.Tame recipe.indent bindings hole.name)
    (tame' : ∀ hole ∈ Template.holes text, Template.Tame recipe'.indent bindings' hole.name)
    (progress progress' : Progress) :
    ∃ filled filled', (Pipeline.fillStage recipe progress text).2 = .ok filled ∧
      (Pipeline.fillStage recipe' progress' text).2 = .ok filled' ∧
      ∀ source, SameShape ((extract filled).result source) ((extract filled').result source) := by
  obtain ⟨filled, whole, alike⟩ := Template.exists_filled_alike apart tame
  obtain ⟨filled', whole', alike'⟩ := Template.exists_filled_alike apart tame'
  refine ⟨filled, filled', ?_, ?_, fun source => sameShape_of_outline source ?_⟩
  · rw [Pipeline.fillStage, given]
    exact congrArg (Except.mapError _) whole
  · rw [Pipeline.fillStage, given']
    exact congrArg (Except.mapError _) whole'
  · rw [← outline_alike alike, outline_alike alike']

/-- A recipe that greets somebody. -/
def greetingRecipe (name : String) : Recipe :=
  ⟨⟨.ofDocuments [], 32, true⟩, none, none, some [(Key.ofString "name", .string name)], 2⟩

/-- Whoever is greeted, it is one message of the user, even if the name looks like the end of a tag. -/
theorem sameShape_of_fillStage_greeting :
    Template.TagsApart "<user>Hi {{ name }}!</user>".toList ∧
    ∃ filled filled',
      (Pipeline.fillStage (greetingRecipe "Bo") .empty "<user>Hi {{ name }}!</user>".toList).2 =
        .ok filled ∧
      (Pipeline.fillStage (greetingRecipe "/user>") .empty "<user>Hi {{ name }}!</user>".toList).2 =
        .ok filled' ∧
      ∀ source, SameShape ((extract filled).result source) ((extract filled').result source) := by
  have apart : Template.TagsApart "<user>Hi {{ name }}!</user>".toList := by decide +kernel
  have one : Template.holes "<user>Hi {{ name }}!</user>".toList =
      [⟨"{{ name }}!</user>".toList, "name".toList, "!</user>".toList⟩] := by decide +kernel
  have tame (value : String) (free : '<' ∉ value.toList) :
      ∀ hole ∈ Template.holes "<user>Hi {{ name }}!</user>".toList,
        Template.Tame 2 [(Key.ofString "name", .string value)] hole.name := by
    rw [one]
    rintro hole (_ | ⟨_, ⟨⟩⟩)
    exact ⟨value.toList, true, rfl, free⟩
  exact ⟨apart, sameShape_of_fillStage apart rfl rfl (tame "Bo" (by decide))
    (tame "/user>" (by decide)) .empty .empty⟩

end Message

end PromptWeave
