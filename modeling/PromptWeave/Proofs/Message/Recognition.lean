/-
**Role tags inside and outside blocks.**

Outside the blocks every tag is read; inside a block only those that pass the test of a role's name. So a
tag counts in one place and not in the other exactly if it is a role tag whose name runs on into an
attribute. Main statements:

* `Message.topLevel_here_iff` and `Message.inBlock_here_iff`: when a search finds a tag where it begins;
* `Message.recognised_alike_iff`: the searches recognise the same tags exactly if none runs on.
-/

import Mathlib
import PromptWeave.Proofs.Message.Place
import PromptWeave.Proofs.Tag.Recognition

namespace PromptWeave

open Text

namespace Message

variable {text : Text} {found : Found}

/-! ### Tags found where a search begins -/

/-- A role tag that stands where a search begins. -/
theorem fits_here_iff (here : found.before = []) : found.Fits text ↔
    Tag.read? text = some (found.tag, found.after) ∧ found.tag.name = found.role.tagName := by
  constructor
  · intro fits
    have read := fits.read
    rw [here] at read
    exact ⟨read, fits.names⟩
  · rintro ⟨read, names⟩
    refine ⟨?_, ?_, names⟩
    · rw [here]
      exact List.nil_prefix
    · rw [here]
      exact read

/-- **Outside the blocks** a role tag is found where the search begins, however its name ends. -/
theorem topLevel_here_iff (here : found.before = []) :
    nextTopLevelTag text = some found ↔ found.Fits text := by
  refine ⟨fits_of_nextTopLevelTag, fun fits => ?_⟩
  obtain ⟨read, names⟩ := (fits_here_iff here).mp fits
  rw [nextTopLevelTag_of_role read (Role.ofName?_eq_some_iff.mpr names), ← here]

/-- The test of any role's name tells the tag that is read. -/
theorem beginsRoleTag_iff :
    BeginsRoleTag text ↔ ∃ role : Role, Tag.Begins role.tagName text ∧ ¬ Tag.RunsOn role.tagName text := by
  constructor
  · rintro ⟨⟨other, starts⟩, role, tag, after, read, names⟩
    obtain ⟨same, apart⟩ := (Tag.mayStart_iff_of_read (isName_tagName other) read).mp starts
    exact ⟨other, ⟨tag, after, read, same⟩, apart⟩
  · rintro ⟨role, ⟨tag, after, read, names⟩, apart⟩
    have starts := (Tag.mayStart_iff_of_read (isName_tagName role) read).mpr ⟨names, apart⟩
    exact ⟨⟨role, starts⟩, role, tag, after, read, names⟩

/-- **Inside a block** a role tag is found where the search begins, unless its name runs on. -/
theorem inBlock_here_iff (here : found.before = []) :
    nextRoleTag text = some found ↔ found.Fits text ∧ ¬ Tag.RunsOn found.role.tagName text := by
  constructor
  · intro next
    refine ⟨fits_of_nextRoleTag next, ?_⟩
    obtain ⟨read, names⟩ := (fits_here_iff here).mp (fits_of_nextRoleTag next)
    cases text with
    | nil => cases read
    | cons c rest =>
      rcases nextRoleTag_cases c rest with ⟨begins, _⟩ | ⟨_, later⟩
      · obtain ⟨role, ⟨tag, after, again, namesToo⟩, apart⟩ := beginsRoleTag_iff.mp begins
        rw [read] at again
        cases again
        rwa [← names, namesToo]
      · -- A tag that is found later has text in front of it.
        rw [later] at next
        obtain ⟨inner, _, rfl⟩ := Option.map_eq_some_iff.mp next
        cases here
  · rintro ⟨fits, apart⟩
    obtain ⟨read, names⟩ := (fits_here_iff here).mp fits
    have starts := (Tag.mayStart_iff_of_read (isName_tagName found.role) read).mpr ⟨names, apart⟩
    rw [nextRoleTag_of_role read (Role.ofName?_eq_some_iff.mpr names) starts, ← here]

/-- **Both searches find the same tags where they begin exactly if no role tag runs on.** -/
theorem found_here_alike_iff (text : Text) :
    (∀ place (found : Found), found.before = [] →
      (nextTopLevelTag (text.drop place) = some found ↔ nextRoleTag (text.drop place) = some found)) ↔
    ∀ role : Role, Tag.SetApart role.tagName text := by
  constructor
  · rintro alike role place ⟨tag, after, read, names⟩
    have fits : Found.Fits ⟨[], role, tag, after⟩ (text.drop place) := .here read names
    have next := (alike place ⟨[], role, tag, after⟩ rfl).mp ((topLevel_here_iff rfl).mpr fits)
    exact ((inBlock_here_iff rfl).mp next).2
  · intro apart place found here
    rw [topLevel_here_iff here, inBlock_here_iff here]
    refine ⟨fun fits => ⟨fits, ?_⟩, fun both => both.1⟩
    obtain ⟨read, names⟩ := (fits_here_iff here).mp fits
    exact apart found.role place ⟨found.tag, found.after, read, names⟩

/-! ### The test of a name and the reading of tags -/

/-- **The test of a tag's name agrees with the reading of tags exactly where no name runs on.** It is
passed by every whole tag whose name does not run on into an attribute, all closing tags among them. Both
searches for role tags find the same ones where they begin, at every place of a text, exactly if none
there runs on; and so for the tags of one name that the search for a closing tag meets, which then finds
what a search by reading alone finds. -/
theorem recognised_alike_iff (text : Text) :
    (∀ place tag after, Tag.read? (text.drop place) = some (tag, after) →
      (Tag.mayStart tag.name (text.drop place) = true ↔ ¬ Tag.RunsOn tag.name (text.drop place)) ∧
      (tag.closing = true → Tag.mayStart tag.name (text.drop place) = true)) ∧
    ((∀ place (found : Found), found.before = [] →
      (nextTopLevelTag (text.drop place) = some found ↔ nextRoleTag (text.drop place) = some found)) ↔
      ∀ role : Role, Tag.SetApart role.tagName text) ∧
    ∀ name, Tag.IsName name →
      ((∀ place, Tag.Met name (text.drop place) ↔ Tag.Begins name (text.drop place)) ↔
        Tag.SetApart name text) ∧
      (Tag.SetApart name text →
        ∀ inner, Tag.afterClosing? name inner text = Tag.afterReadClosing? name inner text) := by
  refine ⟨fun place tag after read => ?_, found_here_alike_iff text, fun name named =>
    ⟨Tag.met_iff_begins named text, fun apart inner =>
      Tag.afterClosing?_eq_afterReadClosing? named inner apart⟩⟩
  have named : Tag.IsName tag.name := (Tag.read?_local read).1
  have starts := Tag.mayStart_iff_of_read named read
  refine ⟨starts.trans (and_iff_right rfl), fun closing => ?_⟩
  exact starts.mpr ⟨rfl, Tag.not_runsOn_of_closing named read closing⟩

/-- An opening tag whose name is followed by a blank passes the test, and both searches find it. -/
theorem recognised_alike_plain :
    Tag.read? "<user >".toList = some (⟨"user".toList, false, false, []⟩, []) ∧
      Tag.mayStart "user".toList "<user >".toList = true := by
  have read : Tag.read? "<user >".toList = some (⟨"user".toList, false, false, []⟩, []) := by cbv
  have apart : ¬ Tag.RunsOn "user".toList "<user >".toList := by
    rintro ⟨c, rest, same, inside⟩
    cases same
    revert inside
    decide
  exact ⟨read, ((recognised_alike_iff "<user >".toList).1 0 _ [] read).1.mpr apart⟩

/-- The name of the tag `<user,>` runs on into the attribute `,`: it is a whole tag that fails the test of
its name, found outside the blocks and passed over inside them. -/
theorem recognised_runOn :
    (¬ ∀ (text after : Text) (place : Nat) (tag : Tag),
      Tag.read? (text.drop place) = some (tag, after) →
        Tag.mayStart tag.name (text.drop place) = true) ∧
    (nextTopLevelTag "<user,>".toList).isSome = true ∧ nextRoleTag "<user,>".toList = none := by
  have read : Tag.read? "<user,>".toList =
      some (⟨"user".toList, false, false, [([','], [])]⟩, []) := by cbv
  refine ⟨fun every => ?_, ?_, by decide⟩
  · have starts := every "<user,>".toList [] 0 _ read
    revert starts
    decide
  · rw [nextTopLevelTag_of_role read (ofName?_tagName Role.user)]
    rfl

end Message

end PromptWeave
