/-
**Looking for role tags.**

The steps of the two searches for role tags: at a filler, at a tag that names a role, and at a tag of
another name. Main statements:

* `Message.nextRoleTag_untagged` and `Message.nextTopLevelTag_untagged`: a filler is passed over;
* `Message.nextRoleTag_of_read`: the step at a whole tag, wherever it stands;
* `Message.nextTopLevelTag_of_role`: a role tag at the top level is found;
* `Message.exists_behind_of_other`: an element of another name is passed over.
-/

import PromptWeave.Markup.Message
import PromptWeave.Proofs.Tag.Locality

namespace PromptWeave

open Text

namespace Message

/-! ### Roles as names of tags -/

theorem isName_tagName (role : Role) : Tag.IsName role.tagName := by
  cases role <;> exact ⟨rfl, List.all_eq_true.mp rfl⟩

@[simp] theorem ofName?_tagName (role : Role) : Role.ofName? role.tagName = some role := by
  cases role <;> rfl

theorem mem_all (role : Role) : role ∈ Role.all := by
  cases role <;> decide

/-! ### Looking for role tags -/

section Search

variable {c : Char} {rest text after : Text} {tag : Tag} {role : Role}

@[simp] theorem behind_nil : Found.behind [] = id := rfl

theorem nextTopLevelTag_of_unread (unread : Tag.read? (c :: rest) = none) :
    nextTopLevelTag (c :: rest) = (nextTopLevelTag rest).map (Found.behind [c]) := by
  rw [nextTopLevelTag]
  split
  · rfl
  · rename_i read
    rw [unread] at read
    cases read

/-- The search passes over a text without `<`. -/
theorem nextTopLevelTag_untagged {front : Text} (untagged : '<' ∉ front) (rest : Text) :
    nextTopLevelTag (front ++ rest) = (nextTopLevelTag rest).map (Found.behind front) := by
  induction front with
  | nil => rw [behind_nil, Option.map_id, List.nil_append, id]
  | cons c front ih =>
    obtain ⟨apart, later⟩ : '<' ≠ c ∧ '<' ∉ front := by simpa using untagged
    rw [List.cons_append, nextTopLevelTag_of_unread (Tag.read?_of_ne (Ne.symm apart) _), ih later,
      Option.map_map]
    rfl

theorem nextTopLevelTag_of_role (read : Tag.read? text = some (tag, after))
    (names : Role.ofName? tag.name = some role) :
    nextTopLevelTag text = some ⟨[], role, tag, after⟩ := by
  cases text with
  | nil => cases read
  | cons c rest =>
    rw [nextTopLevelTag]
    split
    · rename_i unread
      rw [read] at unread
      cases unread
    · rename_i again
      rw [read] at again
      cases again
      rw [names]

/-- Behind a tag of another name the search goes on: behind the whole element, or behind the tag if
it has no element. -/
theorem exists_behind_of_other (read : Tag.read? text = some (tag, after))
    (other : Role.ofName? tag.name = none) :
    ∃ start, nextTopLevelTag text = (nextTopLevelTag
      (if tag.closing ∨ tag.selfClosing then after
        else (Tag.afterClosing? tag.name 0 after).getD after)).map (Found.behind start) := by
  have begun : nextTopLevelTag text = _ := nextTopLevelTag.eq_def text
  split at begun
  · cases read
  · split at begun
    · rename_i unread
      rw [read] at unread
      cases unread
    · rename_i again
      rw [read] at again
      cases again
      rw [other] at begun
      dsimp only at begun
      split at begun
      · rename_i single
        rw [if_pos single]
        exact ⟨_, begun⟩
      · rename_i opens
        rw [if_neg opens]
        split at begun
        · rename_i closing
          rw [closing]
          exact ⟨_, begun⟩
        · rename_i unclosed
          rw [unclosed]
          exact ⟨_, begun⟩

theorem nextRoleTag_of_apart (apart : ∀ role : Role, c = '<' →
    Tag.mayStart role.tagName (c :: rest) = false) :
    nextRoleTag (c :: rest) = (nextRoleTag rest).map (Found.behind [c]) := by
  have nothing : ¬ (c = '<' ∧
      Role.all.any (fun role => Tag.mayStart role.tagName (c :: rest)) = true) := by
    rintro ⟨opens, any⟩
    obtain ⟨role, _, starts⟩ := List.any_eq_true.mp any
    rw [apart role opens] at starts
    cases starts
  rw [nextRoleTag, if_neg nothing]

/-- The search passes over a text without `<`. -/
theorem nextRoleTag_untagged {front : Text} (untagged : '<' ∉ front) (rest : Text) :
    nextRoleTag (front ++ rest) = (nextRoleTag rest).map (Found.behind front) := by
  induction front with
  | nil => rw [behind_nil, Option.map_id, List.nil_append, id]
  | cons c front ih =>
    obtain ⟨apart, later⟩ : '<' ≠ c ∧ '<' ∉ front := by simpa using untagged
    rw [List.cons_append, nextRoleTag_of_apart fun _ opens => absurd opens.symm apart, ih later,
      Option.map_map]
    rfl

/-- **The step of the search at a whole tag**: it is found if it names a role and begins as a role tag
may, and else its `<` is passed over alone. -/
theorem nextRoleTag_of_read (read : Tag.read? ('<' :: rest) = some (tag, after)) :
    nextRoleTag ('<' :: rest) =
      (if Role.all.any (fun role => Tag.mayStart role.tagName ('<' :: rest)) then
        (Role.ofName? tag.name).map fun role => ⟨[], role, tag, after⟩
      else none).or ((nextRoleTag rest).map (Found.behind ['<'])) := by
  rw [nextRoleTag]
  by_cases starts : Role.all.any (fun role => Tag.mayStart role.tagName ('<' :: rest)) = true
  · rw [if_pos starts, if_pos ⟨rfl, starts⟩, read]
    dsimp only
    cases Role.ofName? tag.name <;> rfl
  · rw [if_neg starts, if_neg fun begins => starts begins.2]
    rfl

theorem nextRoleTag_of_role (read : Tag.read? text = some (tag, after))
    (names : Role.ofName? tag.name = some role) (starts : Tag.mayStart role.tagName text = true) :
    nextRoleTag text = some ⟨[], role, tag, after⟩ := by
  obtain ⟨_, front, rfl, _⟩ := Tag.read?_local read
  have any : Role.all.any (fun role => Tag.mayStart role.tagName ('<' :: front ++ '>' :: after)) =
      true := List.any_eq_true.mpr ⟨role, mem_all role, starts⟩
  rw [List.cons_append] at any read ⊢
  rw [nextRoleTag_of_read read, if_pos any, names]
  rfl

end Search

end Message

end PromptWeave
