/-
**Messages of well-formed documents.**

A well-formed document is a row of segments: text without `<`, elements and single tags of other
names, and blocks of roles. What stands inside an element, role tags included, is not looked at. The
messages of the document are its blocks in order. Main statements:

* `Message.Segment`: a segment of a well-formed document;
* `Message.gist_segment`: what one segment adds to what follows it;
* `Message.extract_segments`: the messages of a well-formed document.
-/

import PromptWeave.Proofs.Message.Gist
import PromptWeave.Proofs.Message.Search
import PromptWeave.Proofs.Tag.Spelling

namespace PromptWeave

open Text

namespace Message

/-- A segment of a well-formed document. -/
inductive Segment
  /-- Text without tags. -/
  | plain (text : Text) (untagged : '<' ∉ text)
  /-- An element that is named after no role, inside which no tag of its name may begin. -/
  | element (name : Text) (inside : Tag.Inside) (body : Text) (named : Tag.IsName name)
    (other : Role.ofName? name = none) (free : Tag.FreeOf name body)
  /-- A single tag that is named after no role. -/
  | single (name : Text) (inside : Tag.Inside) (named : Tag.IsName name)
    (other : Role.ofName? name = none)
  /-- A block of a role, inside which no role tag may begin. -/
  | block (role : Role) (inside : Tag.Inside) (content : Text)
    (free : ∀ other : Role, Tag.FreeOf other.tagName content)
  /-- A block of a role that closes itself. -/
  | emptyBlock (role : Role) (inside : Tag.Inside)

namespace Segment

/-- The characters of a segment. -/
def text : Segment → Text
  | plain text _ => text
  | element name inside body .. => Tag.spelled name inside false ++ (body ++ Tag.closingOf name)
  | single name inside .. => Tag.spelled name inside true
  | block role inside content _ =>
    Tag.spelled role.tagName inside false ++ (content ++ Tag.closingOf role.tagName)
  | emptyBlock role inside => Tag.spelled role.tagName inside true

/-- The message of a segment, if it is a block. -/
def message? : Segment → Option Message
  | block role _ content _ => some ⟨role, strip content⟩
  | emptyBlock role _ => some ⟨role, []⟩
  | _ => none

end Segment

/-! ### Segments -/

/-- **The next role tag stands behind a text in which none may begin.** -/
theorem nextRoleTag_append {content : Text} (free : ∀ role : Role, Tag.FreeOf role.tagName content)
    (rest : Text) :
    nextRoleTag (content ++ '<' :: rest) =
      (nextRoleTag ('<' :: rest)).map (Found.behind content) := by
  induction content with
  | nil => rw [behind_nil, Option.map_id, List.nil_append, id]
  | cons c content ih =>
    have apart : ∀ role : Role, c = '<' →
        Tag.mayStart role.tagName (c :: (content ++ '<' :: rest)) = false := by
      rintro role rfl
      by_contra starts
      rw [Bool.not_eq_false] at starts
      have alone := Tag.mayStart_append (Tag.lt_notMem_of_isName (isName_tagName role)) '<' rest
        starts
      rw [free role content List.suffix_rfl] at alone
      cases alone
    rw [List.cons_append, nextRoleTag_of_apart apart, ih fun role => (free role).of_cons,
      Option.map_map]
    rfl

/-- **What one segment adds to what follows it**: its message, if it is a block. -/
theorem gist_segment (segment : Segment) (rest : Text) :
    gist (segment.text ++ rest) =
      segment.message?.elim (gist rest) fun message => (gist rest).prepend message := by
  cases segment with
  | plain text untagged => exact gist_of_behind (nextTopLevelTag_untagged untagged rest)
  | element name inside body named other free =>
    have read := Tag.read?_spelled named inside false (body ++ (Tag.closingOf name ++ rest))
    obtain ⟨start, next⟩ := exists_behind_of_other read other
    have closes : Tag.afterClosing? name 0 (body ++ (Tag.closingOf name ++ rest)) = some rest := by
      rw [← Tag.afterClosing?_closing named rest]
      exact Tag.afterClosing?_skip named free 0 _
    simp only [closes, Bool.false_eq_true, or_self, if_false, Option.getD_some] at next
    rw [Segment.text, List.append_assoc, List.append_assoc]
    exact gist_of_behind next
  | single name inside named other =>
    obtain ⟨start, next⟩ := exists_behind_of_other (Tag.read?_spelled named inside true rest) other
    simp only [or_true, if_true] at next
    exact gist_of_behind next
  | block role inside content free =>
    have named := isName_tagName role
    have next := nextTopLevelTag_of_role (Tag.read?_spelled named inside false
      (content ++ (Tag.closingOf role.tagName ++ rest))) (ofName?_tagName role)
    have here := nextRoleTag_of_role (Tag.read?_closing named rest) (ofName?_tagName role)
      (Tag.mayStart_closing role.tagName rest)
    have closing : nextRoleTag (content ++ (Tag.closingOf role.tagName ++ rest)) =
        (nextRoleTag (Tag.closingOf role.tagName ++ rest)).map (Found.behind content) :=
      nextRoleTag_append free _
    rw [here, Option.map_some] at closing
    rw [Segment.text, List.append_assoc, List.append_assoc, gist_eq, next]
    simp [firstGist, blockGist, closing, Found.behind, Segment.message?]
  | emptyBlock role inside =>
    have next := nextTopLevelTag_of_role
      (Tag.read?_spelled (isName_tagName role) inside true rest) (ofName?_tagName role)
    rw [Segment.text, gist_eq, next]
    rfl

/-- **The messages of a well-formed document are its blocks in order**, and nothing is wrong with
it. -/
theorem extract_segments (segments : List Segment) :
    extract (segments.flatMap Segment.text) = ⟨segments.filterMap Segment.message?, none⟩ ∧
      (extract (segments.flatMap Segment.text)).stage = .done := by
  have said : gist (segments.flatMap Segment.text) =
      ⟨segments.filterMap Segment.message?, none⟩ := by
    induction segments with
    | nil => rw [List.flatMap_nil, gist, extract_eq_nil List.not_mem_nil]; rfl
    | cons segment segments ih =>
      rw [List.flatMap_cons, gist_segment, ih]
      cases message : segment.message? with
      | none => rw [List.filterMap_cons_none message]; rfl
      | some found => rw [List.filterMap_cons_some message]; rfl
  have whole := extract_eq_of_gist said
  exact ⟨whole, by rw [whole]; rfl⟩

end Message

end PromptWeave
