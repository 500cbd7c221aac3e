/-
**Where malformed directives are reported.**

A document is worked off from the front: what was put in the place of its directives stands in front
of a part of its text that is still as it was loaded. A malformed directive is reported with its
offset in the text as it is then. If it begins behind what is written, that is the offset which it has
in the document as it was loaded exactly if what is written is as long as what it stands for. Main
statements:

* `Expansion.Worked`: how far a document is worked off;
* `Expansion.exists_worked`: every document at work is a loaded one, worked off so far;
* `Directive.flawed_of_first`: the malformed directive that a search meets stands at its offset;
* `Expansion.transform?_malformed`: where the directive stands that an expansion fails by.
-/

import PromptWeave.Proofs.Expansion.Assembly
import PromptWeave.Proofs.Expansion.Lineage

namespace PromptWeave

open Text

namespace Directive

/-! ### Malformed directives in a text -/

/-- A malformed directive stands at a position of a text. -/
def Flawed (text : Text) (defect : Defect) (place : Nat) : Prop :=
  beginsAt (text.drop place) = true ∧ readAt place (text.drop place) = .error ⟨defect, place⟩

/-- **The malformed directive that a search meets stands at its offset**, and no directive begins in
front of it. -/
theorem flawed_of_first {text : Text} {flaw : Malformed} (found : first text = .error flaw) :
    Flawed text flaw.defect flaw.offset ∧ Clear (text.take flaw.offset) (text.drop flaw.offset) := by
  obtain ⟨front, rest, rfl, clear, begins, place, read⟩ := exists_of_firstFrom_error found
  rw [Nat.zero_add] at place
  rw [place] at read
  rw [place, Flawed, List.drop_left, List.take_left]
  exact ⟨⟨begins, (readAt_eq_error read).2 _⟩, clear⟩

/-- A malformed directive stands wherever the same text is left. -/
theorem Flawed.of_drop {text other : Text} {defect : Defect} {place there : Nat}
    (flawed : Flawed text defect place) (same : text.drop place = other.drop there) :
    Flawed other defect there := by
  obtain ⟨begins, read⟩ := flawed
  rw [same] at begins read
  exact ⟨begins, (readAt_eq_error read).2 there⟩

end Directive

namespace Expansion

variable {reading : Reading}

/-! ### How far a document is worked off -/

/-- A document is worked off so far: this is written in place of so many characters of its text as it
was loaded. A directive that is replaced may begin in what is written and end in it, or reach into
what was loaded, or stand there. -/
inductive Worked (reading : Reading) (frame : Frame) : Text → Nat → Prop
  | loaded : Worked reading frame [] 0
  | turn {written text : Text} {position : Nat} {directive : Directive} {inner : Frame}
      {reads : List Frame} (before : Worked reading frame written position)
      (enters : step reading (frame.rewritten written position) = .enters directive inner)
      (inside : Expands reading inner reads (.ok text)) :
      Worked reading frame
        ((written ++ frame.text.drop position).take directive.start ++ text ++
          written.drop directive.stop)
        (position + (directive.stop - written.length))

/-- A replacement in a document that is worked off so far. -/
theorem splice_rewritten (frame : Frame) (written : Text) (position : Nat) (directive : Directive)
    (text : Text) :
    (frame.rewritten written position).splice directive text =
      frame.rewritten
        ((written ++ frame.text.drop position).take directive.start ++ text ++
          written.drop directive.stop)
        (position + (directive.stop - written.length)) := by
  simp only [Frame.splice, Frame.rewritten, List.drop_append, List.drop_drop, List.append_assoc]

/-- **Every document at work is a loaded one, worked off so far.** -/
theorem exists_worked {start place : Frame} (reached : Reached reading start place) :
    ∃ frame written position, Entered reading start frame ∧
      Worked reading frame written position ∧ place = frame.rewritten written position := by
  induction reached with
  | start => exact ⟨start, [], 0, .start, .loaded, rfl⟩
  | @descent frame inner directive before enters _ =>
    exact ⟨inner, [], 0, .inner before enters, .loaded, rfl⟩
  | turn _ enters inside ih =>
    obtain ⟨frame, written, position, entered, worked, rfl⟩ := ih
    exact ⟨frame, _, _, entered, worked.turn enters inside, splice_rewritten ..⟩

/-! ### Where the failure is -/

/-- A step that fails by a malformed directive has met it first in the text at work. -/
theorem first_of_malformed {frame : Frame} {why : String} {place : Option Path}
    {offset : Option Int}
    (fails : step reading frame = .ends (.error (.failure (.malformedDirective why place offset)))) :
    ∃ flaw, Directive.first frame.text = .error flaw ∧ why = reason flaw.defect ∧
      place = displayed frame.document ∧ offset = some (flaw.offset : Int) := by
  rcases step_eq_ends_error fails with ⟨flaw, found, same⟩ | ⟨directive, _, fails⟩
  · cases same
    exact ⟨flaw, found, rfl, rfl, rfl⟩
  · rcases load_eq_error fails with ⟨cause, same⟩ | ⟨target, failure, refused, same⟩ |
      ⟨target, branch, _, unread⟩
    · cases same
    · cases same
      rcases Chain.extend_eq_error refused with ⟨_, same⟩ | ⟨_, _, same⟩ <;> cases same
    · rcases World.readDocument_eq_failure unread with same | ⟨_, _, same⟩ <;> cases same

/-- A malformed directive behind what is written stands in the loaded text, as far behind the part of
that which is worked off. -/
theorem flawed_of_worked {frame : Frame} {written : Text} {position : Nat}
    {flaw : Directive.Malformed}
    (found : Directive.first (frame.rewritten written position).text = .error flaw)
    (behind : written.length ≤ flaw.offset) :
    ∃ there, position ≤ there ∧ there + written.length = flaw.offset + position ∧
      Directive.Flawed frame.text flaw.defect there := by
  refine ⟨position + (flaw.offset - written.length), by omega, by omega, ?_⟩
  refine (Directive.flawed_of_first found).1.of_drop ?_
  rw [Frame.rewritten, List.drop_append, List.drop_eq_nil_of_le behind, List.nil_append,
    List.drop_drop]

/-- **Where the malformed directive stands that an expansion fails by.** It is the first directive of
the text of a document that is worked off so far, and is reported with the offset that it has there.
Either it begins in what is written, or it stands in what is left of the document as that was loaded.
Its offset in the loaded document is then the reported one exactly if what is written is as long as
what it stands for, so for one if nothing was replaced in the document before. -/
theorem transform?_malformed {reading : Reading} {baseDirectory rootPath : Option Path}
    {trace after : Trace} {text : Text} {why : String} {place : Option Path} {offset : Option Int}
    (fails : transform? reading baseDirectory rootPath trace text =
      some (after, .error (.failure (.malformedDirective why place offset)))) :
    ∃ root frame written position flaw, rootDocument baseDirectory rootPath = .ok root ∧
      Entered reading (.root root text) frame ∧ Worked reading frame written position ∧
      why = reason flaw.defect ∧ place = displayed frame.document ∧
      offset = some (flaw.offset : Int) ∧
      Directive.first (written ++ frame.text.drop position) = .error flaw ∧
      (flaw.offset < written.length ∨
        ∃ there, position ≤ there ∧ there + written.length = flaw.offset + position ∧
          Directive.Flawed frame.text flaw.defect there) := by
  obtain ⟨failure, refused, -, same⟩ | ⟨root, reads, found, derived, -⟩ :=
    transform?_eq_some_iff.mp fails
  · obtain ⟨message, rfl⟩ := rootDocument_eq_error refused
    cases same
  · obtain ⟨last, reached, raised⟩ := exists_raised derived
    obtain ⟨frame, written, position, entered, worked, rfl⟩ := exists_worked reached
    obtain ⟨flaw, first, rfl, shown, rfl⟩ := first_of_malformed raised
    refine ⟨root, frame, written, position, flaw, found, entered, worked, rfl, shown, rfl, first, ?_⟩
    rcases Nat.lt_or_ge flaw.offset written.length with inside | behind
    · exact Or.inl inside
    · exact Or.inr (flawed_of_worked first behind)

/-- A document, and the short text that it includes in front of a malformed directive. -/
def shortReading : Reading := .ofDocuments [("r", "<include src=\"a\"/><include/>"), ("a", "A")]

theorem transform?_short :
    transform? shortReading none (some ⟨.root, ["r"]⟩) .empty
        "<include src=\"a\"/><include/>".toList =
      some (⟨[⟨.root, ["a"]⟩], [.including ⟨.root, ["a"]⟩ 1]⟩, .error (.failure
        (.malformedDirective "missing or empty src attribute" (some ⟨.root, ["r"]⟩) (some 1)))) := by
  have enters : step shortReading (.ofNames ["r"] "<include src=\"a\"/><include/>".toList) =
      .enters ⟨['a'], 0, 18, true⟩ (.ofNames ["r", "a"] "A".toList) := by cbv
  have done : step shortReading (.ofNames ["r", "a"] "A".toList) = .ends (.ok "A".toList) := by cbv
  have fails : step shortReading (.ofNames ["r"] "A<include/>".toList) = .ends (.error (.failure
      (.malformedDirective "missing or empty src attribute" (some ⟨.root, ["r"]⟩) (some 1)))) := by
    cbv
  exact expand?_of_expands (.spliced enters (.ended done) (.ended fails)) .empty

/-- The directive is reported with an offset at which no directive begins in the document. -/
theorem transform?_malformed_moved :
    transform? shortReading none (some ⟨.root, ["r"]⟩) .empty
        "<include src=\"a\"/><include/>".toList =
      some (⟨[⟨.root, ["a"]⟩], [.including ⟨.root, ["a"]⟩ 1]⟩, .error (.failure
        (.malformedDirective "missing or empty src attribute" (some ⟨.root, ["r"]⟩) (some 1)))) ∧
      Directive.beginsAt ("<include src=\"a\"/><include/>".toList.drop 1) = false ∧
      Directive.Flawed "<include src=\"a\"/><include/>".toList .sourceless 18 :=
  ⟨transform?_short, by cbv, by cbv, by cbv⟩

/-- The document is worked off by the text that was put in place of its first directive. -/
theorem transform?_malformed_short :
    transform? shortReading none (some ⟨.root, ["r"]⟩) .empty
        "<include src=\"a\"/><include/>".toList =
      some (⟨[⟨.root, ["a"]⟩], [.including ⟨.root, ["a"]⟩ 1]⟩, .error (.failure
        (.malformedDirective "missing or empty src attribute" (some ⟨.root, ["r"]⟩) (some 1)))) ∧
      ∃ root frame written position flaw,
        rootDocument none (some ⟨.root, ["r"]⟩) = .ok root ∧
        Entered shortReading (.root root "<include src=\"a\"/><include/>".toList) frame ∧
        Worked shortReading frame written position ∧
        "missing or empty src attribute" = reason flaw.defect ∧
        some ⟨.root, ["r"]⟩ = displayed frame.document ∧
        some (1 : Int) = some (flaw.offset : Int) ∧
        Directive.first (written ++ frame.text.drop position) = .error flaw ∧
        (flaw.offset < written.length ∨
          ∃ there, position ≤ there ∧ there + written.length = flaw.offset + position ∧
            Directive.Flawed frame.text flaw.defect there) :=
  ⟨transform?_short, transform?_malformed transform?_short⟩

end Expansion

end PromptWeave
