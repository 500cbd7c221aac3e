/-
**Where role tags stand.**

The searches for role tags cut a text at the tag that they find. Here this is said of the text as a
whole: the tag stands behind what the search passed over, and in front of what is left. The search
inside a block passes over no place at which a role tag begins. Main statements:

* `Message.Found.Fits`: a tag stands where a search says that it does;
* `Message.fits_of_nextTopLevelTag` and `Message.fits_of_nextRoleTag`: both searches say where their
  tags stand;
* `Message.BeginsRoleTag`: what the search inside a block looks for;
* `Message.not_begins_of_nextRoleTag` and `Message.nextRoleTag_eq_none_iff`: it finds the first one.
-/

import PromptWeave.Proofs.Message.Search

namespace PromptWeave

open Text

theorem Role.ofName?_eq_some_iff {name : Text} {role : Role} :
    Role.ofName? name = some role ↔ name = role.tagName := by
  constructor
  · intro names
    rw [Role.ofName?] at names
    have same := List.find?_some names
    exact (of_decide_eq_true same).symm
  · rintro rfl
    exact Message.ofName?_tagName role

namespace Message

variable {text rest start : Text} {found : Found}

/-! ### Tags in their texts -/

/-- A role tag stands in a text behind what is before it, and what is after it follows. -/
structure Found.Fits (found : Found) (text : Text) : Prop where
  before : found.before <+: text
  read : Tag.read? (text.drop found.before.length) = some (found.tag, found.after)
  names : found.tag.name = found.role.tagName

theorem Found.Fits.here {role : Role} {tag : Tag} {after : Text}
    (read : Tag.read? text = some (tag, after)) (names : tag.name = role.tagName) :
    Found.Fits ⟨[], role, tag, after⟩ text where
  before := List.nil_prefix
  read := read
  names := names

/-- More text in front moves a tag. -/
theorem Found.Fits.behind (fits : found.Fits rest) (start : Text) :
    (found.behind start).Fits (start ++ rest) where
  before := (List.prefix_append_right_inj start).mpr fits.before
  read := by
    rw [Found.behind, List.length_append, List.drop_length_add_append]
    exact fits.read
  names := fits.names

/-- A tag that is found in what is left of a text stands behind what was passed over. -/
theorem fits_of_suffix {first : Option Found} (left : rest <:+ text)
    (fits : ∀ inner, first = some inner → inner.Fits rest)
    (next : first.map (Found.behind (text.take (text.length - rest.length))) = some found) :
    found.Fits text := by
  obtain ⟨inner, same, rfl⟩ := Option.map_eq_some_iff.mp next
  have moved := (fits inner same).behind (text.take (text.length - rest.length))
  rwa [List.suffix_iff_eq_append.mp left] at moved

/-- **The first role tag at the top level stands where the search says.** -/
theorem fits_of_nextTopLevelTag (next : nextTopLevelTag text = some found) : found.Fits text := by
  fun_induction nextTopLevelTag text generalizing found with
  | case1 => cases next
  | case2 c rest unread ih =>
    obtain ⟨inner, same, rfl⟩ := Option.map_eq_some_iff.mp next
    exact (ih same).behind [c]
  | case3 c rest tag after read role names =>
    cases next
    exact .here read (Role.ofName?_eq_some_iff.mp names)
  | case4 c rest tag after read _ _ ih =>
    exact fits_of_suffix (Tag.read?_suffix read) (fun _ => ih) next
  | case5 c rest tag after read _ _ left closing ih =>
    exact fits_of_suffix ((Tag.afterClosing?_suffix closing).trans (Tag.read?_suffix read))
      (fun _ => ih) next
  | case6 c rest tag after read _ _ _ ih =>
    exact fits_of_suffix (Tag.read?_suffix read) (fun _ => ih) next

/-! ### The search inside a block -/

/-- A text begins with a role tag as the search inside a block sees it: a tag of a role may start
there, and the tag that is read names a role. -/
def BeginsRoleTag (text : Text) : Prop :=
  (∃ role : Role, Tag.mayStart role.tagName text = true) ∧
    ∃ role tag after, Tag.read? text = some (tag, after) ∧ tag.name = Role.tagName role

/-- A role tag that begins here is found. -/
theorem nextRoleTag_of_begins {c : Char} {rest : Text} (begins : BeginsRoleTag (c :: rest)) :
    ∃ role tag after, Tag.read? (c :: rest) = some (tag, after) ∧ tag.name = Role.tagName role ∧
      nextRoleTag (c :: rest) = some ⟨[], role, tag, after⟩ := by
  obtain ⟨⟨other, may⟩, role, tag, after, read, named⟩ := begins
  refine ⟨role, tag, after, read, named, ?_⟩
  have opens : c = '<' := by
    by_contra apart
    rw [Tag.read?_of_ne apart] at read
    cases read
  subst opens
  have starts : Role.all.any (fun role => Tag.mayStart role.tagName ('<' :: rest)) = true :=
    List.any_eq_true.mpr ⟨other, mem_all other, may⟩
  rw [nextRoleTag_of_read read, if_pos starts, Role.ofName?_eq_some_iff.mpr named]
  rfl

/-- Any other character is passed over. -/
theorem nextRoleTag_of_not_begins {c : Char} {rest : Text} (apart : ¬ BeginsRoleTag (c :: rest)) :
    nextRoleTag (c :: rest) = (nextRoleTag rest).map (Found.behind [c]) := by
  by_cases starts : ∃ role : Role, Tag.mayStart role.tagName (c :: rest) = true
  · cases read : Tag.read? (c :: rest) with
    | none =>
      rw [nextRoleTag, read]
      simp only [ite_self]
    | some found =>
      obtain ⟨tag, after⟩ := found
      have unnamed : Role.ofName? tag.name = none := by
        by_contra some
        obtain ⟨role, names⟩ := Option.ne_none_iff_exists'.mp some
        exact apart ⟨starts, role, tag, after, read, Role.ofName?_eq_some_iff.mp names⟩
      rw [nextRoleTag, read]
      simp only [unnamed, Option.map_none, ite_self]
  · exact nextRoleTag_of_apart fun role _ =>
      (Bool.not_eq_true _).mp fun may => starts ⟨role, may⟩

/-- **The step of the search**: a role tag that begins here is found, and any other character is
passed over. -/
theorem nextRoleTag_cases (c : Char) (rest : Text) :
    (BeginsRoleTag (c :: rest) ∧ ∃ role tag after,
      Tag.read? (c :: rest) = some (tag, after) ∧ tag.name = Role.tagName role ∧
        nextRoleTag (c :: rest) = some ⟨[], role, tag, after⟩) ∨
    (¬ BeginsRoleTag (c :: rest) ∧
      nextRoleTag (c :: rest) = (nextRoleTag rest).map (Found.behind [c])) := by
  by_cases begins : BeginsRoleTag (c :: rest)
  · exact Or.inl ⟨begins, nextRoleTag_of_begins begins⟩
  · exact Or.inr ⟨begins, nextRoleTag_of_not_begins begins⟩

/-- **The first role tag stands where the search inside a block says**, and it begins as the search
wants it. -/
theorem fits_of_nextRoleTag (next : nextRoleTag text = some found) : found.Fits text := by
  induction text generalizing found with
  | nil => cases next
  | cons c rest ih =>
    rcases nextRoleTag_cases c rest with ⟨_, role, tag, after, read, names, here⟩ | ⟨_, later⟩
    · rw [here] at next
      cases next
      exact .here read names
    · rw [later] at next
      obtain ⟨inner, same, rfl⟩ := Option.map_eq_some_iff.mp next
      exact (ih same).behind [c]

/-- **No role tag begins in front of the first one.** -/
theorem not_begins_of_nextRoleTag (next : nextRoleTag text = some found) {place : Nat}
    (earlier : place < found.before.length) : ¬ BeginsRoleTag (text.drop place) := by
  induction text generalizing found place with
  | nil => cases next
  | cons c rest ih =>
    rcases nextRoleTag_cases c rest with ⟨_, role, tag, after, _, _, here⟩ | ⟨apart, later⟩
    · rw [here] at next
      cases next
      cases earlier
    · rw [later] at next
      obtain ⟨inner, same, rfl⟩ := Option.map_eq_some_iff.mp next
      cases place with
      | zero => exact apart
      | succ place =>
        refine ih same ?_
        simpa [Found.behind] using earlier

/-- **The search finds nothing exactly if no role tag begins anywhere.** -/
theorem nextRoleTag_eq_none_iff :
    nextRoleTag text = none ↔ ∀ place, ¬ BeginsRoleTag (text.drop place) := by
  induction text with
  | nil => simp [nextRoleTag, BeginsRoleTag, Tag.read?]
  | cons c rest ih =>
    rcases nextRoleTag_cases c rest with ⟨begins, role, tag, after, _, _, here⟩ | ⟨apart, later⟩
    · refine ⟨fun nothing => ?_, fun never => absurd begins (never 0)⟩
      rw [here] at nothing
      cases nothing
    · rw [later, Option.map_eq_none_iff, ih]
      constructor
      · intro never place
        cases place with
        | zero => exact apart
        | succ place => exact never place
      · exact fun never place => never (place + 1)

end Message

end PromptWeave
