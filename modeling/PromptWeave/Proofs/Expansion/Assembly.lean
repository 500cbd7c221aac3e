/-
**Expansion in one pass.**

A text is laid out once: its directives from left to right with the gaps between them. It is
assembled by keeping every gap and putting every document, itself assembled, in the place of its
directive; no text is read twice. The expansion instead puts one document in place and reads the
whole text again. Where every gap is sealed nothing that is put in place can join with what stands
beside it, and both come to the same. Main statements:

* `Directive.scanFrom_eq_layoutFrom`: the directives of the layout are those of a scan;
* `Expansion.assemble`: the assembly of a document;
* `Expansion.expand?_eq_fill`: from any point of a text on, expanding the rest is assembling it;
* `Expansion.transform?_eq_assembleRoot`: an expansion of sealed documents ends as the assembly.
-/

import PromptWeave.Proofs.Directive.Junction
import PromptWeave.Proofs.Expansion.Run

namespace PromptWeave

open Text

/-! ### Layouts -/

namespace Directive

/-- How a text is laid out: its directives from left to right, each with the gap in front of it, and
the gap behind the last of them, or the malformed directive that stands there. -/
structure Layout where
  pieces : List (Text × Directive)
  ending : Except Malformed Text
deriving DecidableEq

/-- The layout from a position on, each search beginning where the last directive ended. -/
def layoutFrom (start : Nat) (text : Text) : Layout :=
  match _found : firstAfter start text with
  | .error malformed => ⟨[], .error malformed⟩
  | .ok none => ⟨[], .ok (text.drop start)⟩
  | .ok (some directive) =>
    let later := layoutFrom directive.stop text
    { later with
      pieces := ((text.drop start).take (directive.start - start), directive) :: later.pieces }
termination_by text.length - start
decreasing_by
  have := firstAfter_span _found
  omega

/-- The layout of a text. -/
def layout (text : Text) : Layout := layoutFrom 0 text

/-- The gaps of a layout, those in front of directives and the one behind the last of them. -/
def Layout.gaps (laid : Layout) : List Text :=
  laid.pieces.map (·.1) ++ laid.ending.toOption.toList

theorem Layout.mem_gaps_ending {pieces : List (Text × Directive)} {gap : Text} :
    gap ∈ (Layout.mk pieces (.ok gap)).gaps :=
  List.mem_append_right _ (List.mem_singleton_self gap)

@[simp] theorem Layout.gaps_cons (gap : Text) (directive : Directive)
    (pieces : List (Text × Directive)) (ending : Except Malformed Text) :
    (Layout.mk ((gap, directive) :: pieces) ending).gaps = gap :: (Layout.mk pieces ending).gaps :=
  rfl

theorem layoutFrom_error {start : Nat} {text : Text} {malformed : Malformed}
    (found : firstAfter start text = .error malformed) :
    layoutFrom start text = ⟨[], .error malformed⟩ := by
  rw [layoutFrom]
  split <;> rename_i other <;> rw [found] at other <;> cases other
  rfl

theorem layoutFrom_none {start : Nat} {text : Text}
    (found : firstAfter start text = .ok none) :
    layoutFrom start text = ⟨[], .ok (text.drop start)⟩ := by
  rw [layoutFrom]
  split <;> rename_i other <;> rw [found] at other <;> cases other

theorem layoutFrom_some {start : Nat} {text : Text} {directive : Directive}
    (found : firstAfter start text = .ok (some directive)) :
    layoutFrom start text =
      ⟨((text.drop start).take (directive.start - start), directive) ::
        (layoutFrom directive.stop text).pieces, (layoutFrom directive.stop text).ending⟩ := by
  rw [layoutFrom]
  split <;> rename_i other <;> rw [found] at other <;> cases other
  rfl

/-- **The directives of a layout are those of a scan**, which fails as the layout ends. -/
theorem scanFrom_eq_layoutFrom (start : Nat) (text : Text) :
    scanFrom start text =
      (layoutFrom start text).ending.map fun _ => (layoutFrom start text).pieces.map (·.2) := by
  fun_induction scanFrom start text with
  | case1 start malformed found => rw [layoutFrom_error found]; rfl
  | case2 start found => rw [layoutFrom_none found]; rfl
  | case3 start directive found ih =>
    rw [layoutFrom_some found, ih]
    cases (layoutFrom directive.stop text).ending <;> rfl

end Directive

namespace Expansion

variable {reading : Reading}

/-! ### Assembly -/

mutual

/-- The assembly of a document from its layout. -/
def assemble (reading : Reading) (frame : Frame) (trace : Trace) : Trace × Except Fault Text :=
  fill reading frame trace [] 0 (Directive.layout frame.text).pieces
    (Directive.layout frame.text).ending
termination_by (room reading frame, (Directive.layout frame.text).pieces.length + 1)

/-- Writes what is left of a layout, from a position of its text on, behind what is written. The
offset of a malformed directive is counted in what is written. -/
def fill (reading : Reading) (frame : Frame) (trace : Trace) (written : Text) (position : Nat) :
    List (Text × Directive) → Except Directive.Malformed Text → Trace × Except Fault Text
  | [], .ok gap => (trace, .ok (written ++ gap))
  | [], .error flaw =>
    (trace, .error (.failure (malformed (displayed frame.document)
      { flaw with offset := written.length + (flaw.offset - position) })))
  | (gap, directive) :: pieces, ending =>
    match _loads : load reading frame directive.source with
    | .error fault => (trace, .error fault)
    | .ok inner =>
      match assemble reading inner (trace.record inner.document inner.chain.depth) with
      | (trace, .error fault) => (trace, .error fault)
      | (trace, .ok text) =>
        fill reading frame trace (written ++ gap ++ text) directive.stop pieces ending
termination_by pieces => (room reading frame, pieces.length)
decreasing_by
  · exact Prod.Lex.left _ _ (room_lt_of_load _loads)
  · exact Prod.Lex.right _ (by simp)

end

theorem fill_unloaded {frame : Frame} {gap : Text} {directive : Directive} {fault : Fault}
    (fails : load reading frame directive.source = .error fault) (trace : Trace) (written : Text)
    (position : Nat) (pieces : List (Text × Directive)) (ending : Except Directive.Malformed Text) :
    fill reading frame trace written position ((gap, directive) :: pieces) ending =
      (trace, .error fault) := by
  rw [fill]
  split <;> rename_i other <;> rw [fails] at other <;> cases other
  rfl

theorem fill_loaded {frame inner : Frame} {gap : Text} {directive : Directive}
    (loads : load reading frame directive.source = .ok inner) (trace : Trace) (written : Text)
    (position : Nat) (pieces : List (Text × Directive)) (ending : Except Directive.Malformed Text) :
    fill reading frame trace written position ((gap, directive) :: pieces) ending =
      match assemble reading inner (trace.record inner.document inner.chain.depth) with
      | (trace, .error fault) => (trace, .error fault)
      | (trace, .ok text) =>
        fill reading frame trace (written ++ gap ++ text) directive.stop pieces ending := by
  rw [fill]
  split <;> rename_i other <;> rw [loads] at other <;> cases other
  rfl

/-- The assembly of a root text. -/
def assembleRoot (reading : Reading) (baseDirectory rootPath : Option Path) (trace : Trace)
    (text : Text) : Trace × Except Fault Text :=
  match rootDocument baseDirectory rootPath with
  | .error failure => (trace, .error (.failure failure))
  | .ok root => assemble reading (.root root text) trace

/-! ### Sealed documents -/

/-- The documents of an expansion as they are loaded: the one it starts with, and every document
that it enters. -/
inductive Entered (reading : Reading) (start : Frame) : Frame → Prop
  | start : Entered reading start start
  | inner {frame inner : Frame} {directive : Directive} (reached : Reached reading start frame)
      (enters : step reading frame = .enters directive inner) : Entered reading start inner

theorem Entered.reached {start frame : Frame} (entered : Entered reading start frame) :
    Reached reading start frame := by
  cases entered with
  | start => exact .start
  | inner reached enters => exact .descent reached enters

/-- No document of an expansion has a gap that ends in a part of `<include`. -/
def SealedThroughout (reading : Reading) (start : Frame) : Prop :=
  ∀ frame, Entered reading start frame →
    ∀ gap ∈ (Directive.layout frame.text).gaps, Directive.Sealed gap

/-- A document is expanded as it is assembled, and to a text in which no directive can begin. -/
def Assembles (reading : Reading) (frame : Frame) : Prop :=
  ∀ trace, frame.expand? reading trace = some (assemble reading frame trace) ∧
    ∀ text, (assemble reading frame trace).2 = .ok text → Directive.Quiet text

/-! ### Behind what is written -/

/-- A document in which everything in front of a position is written anew. -/
def Frame.rewritten (frame : Frame) (written : Text) (position : Nat) : Frame :=
  { frame with text := written ++ frame.text.drop position }

@[simp] theorem load_rewritten (frame : Frame) (written : Text) (position : Nat) (source : Text) :
    load reading (frame.rewritten written position) source = load reading frame source := rfl

/-- What is found behind a quiet text is found as if the text were not rewritten, moved. -/
theorem exists_found (frame : Frame) {written : Text} (position : Nat)
    (quiet : Directive.Quiet written) :
    ∃ found, Directive.firstAfter position frame.text = Directive.moved position found ∧
      Directive.first (frame.rewritten written position).text =
        Directive.moved written.length found ∧
      found = Directive.firstFrom 0 (frame.text.drop position) := by
  refine ⟨_, ?_, ?_, rfl⟩
  · rw [← Directive.firstFrom_add, Nat.zero_add]
    rfl
  · rw [← Directive.firstFrom_add, Directive.first, Frame.rewritten]
    exact Directive.firstFrom_clear (quiet _)

/-- Behind a quiet text a malformed directive is met where the layout meets it, moved. -/
theorem step_rewritten_error {frame : Frame} {written : Text} {position : Nat}
    {flaw : Directive.Malformed} (quiet : Directive.Quiet written)
    (found : Directive.firstAfter position frame.text = .error flaw) :
    step reading (frame.rewritten written position) =
      .ends (.error (.failure (malformed (displayed frame.document)
        { flaw with offset := written.length + (flaw.offset - position) }))) := by
  obtain ⟨search, after, first, _⟩ := exists_found frame position quiet
  rw [found] at after
  rcases search with near | _
  · cases after
    rw [step, first]
    simp only [Directive.moved, Frame.rewritten]
    rw [Nat.add_sub_cancel, Nat.add_comm]
  · cases after

/-- Behind a quiet text no directive is found where the layout has none. -/
theorem first_rewritten_none {frame : Frame} {written : Text} {position : Nat}
    (quiet : Directive.Quiet written)
    (found : Directive.firstAfter position frame.text = .ok none) :
    Directive.first (frame.rewritten written position).text = .ok none := by
  obtain ⟨search, after, first, _⟩ := exists_found frame position quiet
  rw [found] at after
  rcases search with _ | _ | _
  · cases after
  · exact first
  · cases after

/-- **The first directive behind a quiet text** names what it names in the layout, and its document is
loaded as there. What is put in its place is written behind the gap in front of it, which is quiet if it is
sealed. -/
theorem exists_step_rewritten {frame : Frame} {written gap : Text} {position : Nat}
    {directive : Directive} (quiet : Directive.Quiet written)
    (found : Directive.firstAfter position frame.text = .ok (some directive))
    (before : gap = (frame.text.drop position).take (directive.start - position)) :
    ∃ near, (∀ fault, load reading frame directive.source = .error fault →
        step reading (frame.rewritten written position) = .ends (.error fault)) ∧
      (∀ inner, load reading frame directive.source = .ok inner →
        step reading (frame.rewritten written position) = .enters near inner) ∧
      (∀ text, (frame.rewritten written position).splice near text =
        frame.rewritten (written ++ gap ++ text) directive.stop) ∧
      (Directive.Sealed gap → Directive.Quiet gap) := by
  obtain ⟨search, after, first, searched⟩ := exists_found frame position quiet
  rw [found] at after
  rcases search with flaw | _ | near
  · cases after
  · cases after
  simp only [Directive.moved, Option.map_some, Except.ok.injEq, Option.some.injEq] at after
  obtain ⟨front, rest, whole, clear, _, start, _⟩ := Directive.exists_of_firstFrom searched.symm
  have same : gap = front := by
    rw [before, after, whole, start]
    simp
  subst same
  have source : near.source = directive.source := by rw [after]
  refine ⟨{ near with start := near.start + written.length, stop := near.stop + written.length },
    fun fault loads => ?_, fun inner loads => ?_, ?_, ?_⟩
  · rw [step, first]
    simp only [Directive.moved, Option.map_some, load_rewritten, source, loads]
  · exact step_eq_enters_iff.mpr ⟨first, by rw [load_rewritten, source, loads]⟩
  · intro text
    have cut : (written ++ frame.text.drop position).take (near.start + written.length) =
        written ++ gap := by
      rw [Nat.add_comm, List.take_length_add_append, whole, start]
      simp
    have left : (written ++ frame.text.drop position).drop (near.stop + written.length) =
        frame.text.drop directive.stop := by
      rw [Nat.add_comm, List.drop_length_add_append, List.drop_drop, after, Nat.add_comm]
    simp only [Frame.splice, Frame.rewritten, cut, left]
  · intro closed
    exact Directive.quiet_of_clear closed clear

/-! ### One pass -/

/-- **From any point of a text on, expanding the rest is assembling it**, if all documents that are
entered from here are expanded as they are assembled. -/
theorem expand?_eq_fill {start frame : Frame} {written : Text} {position : Nat}
    (inside : ∀ inner, room reading inner < room reading frame → Entered reading start inner →
      Assembles reading inner)
    (seals : ∀ gap ∈ (Directive.layoutFrom position frame.text).gaps, Directive.Sealed gap)
    (quiet : Directive.Quiet written)
    (reached : Reached reading start (frame.rewritten written position)) (trace : Trace) :
    let finished := fill reading frame trace written position
      (Directive.layoutFrom position frame.text).pieces
      (Directive.layoutFrom position frame.text).ending
    (frame.rewritten written position).expand? reading trace = some finished ∧
      ∀ text, finished.2 = .ok text → Directive.Quiet text := by
  -- The induction is on the directives that are still to come; what is written stays quiet.
  induction left : frame.text.length - position using Nat.strong_induction_on
    generalizing position written trace with
  | _ left ih =>
  subst left
  cases found : Directive.firstAfter position frame.text with
  | error flaw =>
    rw [Directive.layoutFrom_error found, fill]
    refine ⟨expand?_of_expands (.ended (step_rewritten_error quiet found)) trace, ?_⟩
    intro text done
    cases done
  | ok found? =>
    cases found? with
    | none =>
      rw [Directive.layoutFrom_none found] at seals ⊢
      rw [fill]
      have done := first_rewritten_none quiet found
      refine ⟨expand?_of_expands (.ended (step_eq_ends_ok_iff.mpr ⟨done, rfl⟩)) trace, ?_⟩
      intro text same
      cases same
      have clear := (Directive.clear_append_iff.mp (Directive.firstFrom_eq_none_iff.mp done)).2
      exact quiet.append (Directive.quiet_of_clear (seals _ Directive.Layout.mem_gaps_ending) clear)
    | some directive =>
      obtain ⟨near, fails, enters, spliced, quietGap⟩ := exists_step_rewritten quiet found rfl
      rw [Directive.layoutFrom_some found] at seals ⊢
      rw [Directive.Layout.gaps_cons, List.forall_mem_cons] at seals
      cases loads : load reading frame directive.source with
      | error fault =>
        rw [fill_unloaded loads]
        refine ⟨expand?_of_expands (.ended (fails fault loads)) trace, ?_⟩
        intro text done
        cases done
      | ok inner =>
        rw [fill_loaded loads]
        replace enters := enters inner loads
        obtain ⟨expanded, quietInner⟩ := inside inner (room_lt_of_load loads)
          (.inner reached enters) (trace.record inner.document inner.chain.depth)
        rw [Frame.expand?, enters]
        simp only [expanded, Option.bind_eq_bind, Option.bind_some]
        rcases result : assemble reading inner (trace.record inner.document inner.chain.depth) with
          ⟨later, fault | text⟩
        · refine ⟨rfl, ?_⟩
          intro text done
          cases done
        · rw [result] at expanded quietInner
          obtain ⟨reads, derived, _⟩ := expands_of_expand? expanded
          have next := Reached.turn reached enters derived
          rw [spliced] at next
          simp only [spliced]
          refine ih _ ?_ seals.2 ((quiet.append (quietGap seals.1)).append (quietInner text rfl))
            next later rfl
          have span := Directive.firstAfter_span found
          omega

/-- **A sealed document is expanded as it is assembled.** -/
theorem assembles_of_entered {start frame : Frame} (seals : SealedThroughout reading start)
    (entered : Entered reading start frame) : Assembles reading frame := by
  induction size : room reading frame using Nat.strong_induction_on generalizing frame with
  | _ size ih =>
  subst size
  intro trace
  rw [assemble]
  exact expand?_eq_fill (fun inner smaller loaded => ih _ smaller loaded rfl)
    (seals frame entered) Directive.quiet_nil entered.reached trace

/-- **The expansion of sealed documents is their assembly.** If neither the root text nor any
document that is loaded has a gap which ends in a part of `<include`, the expansion of the root text
ends, with the trace and the outcome of the assembly: the same text, or the same first fault. -/
theorem transform?_eq_assembleRoot (reading : Reading) (baseDirectory rootPath : Option Path)
    (trace : Trace) (text : Text)
    (seals : ∀ root, rootDocument baseDirectory rootPath = .ok root →
      SealedThroughout reading (.root root text)) :
    transform? reading baseDirectory rootPath trace text =
      some (assembleRoot reading baseDirectory rootPath trace text) := by
  unfold transform? assembleRoot
  cases found : rootDocument baseDirectory rootPath with
  | error failure => rfl
  | ok root => exact (assembles_of_entered (seals root found) .start trace).1

/-- The frames of a run that puts a greeting in place. -/
theorem greeting_reached {frame : Frame}
    (reached : Reached greetingReading (.ofNames ["r"] "See <include src=\"a\"/>!".toList) frame) :
    frame = .ofNames ["r"] "See <include src=\"a\"/>!".toList ∨
      frame = .ofNames ["r", "a"] "A.".toList ∨ frame = .ofNames ["r"] "See A.!".toList := by
  induction reached with
  | start => exact Or.inl rfl
  | descent _ enters ih =>
    rcases ih with rfl | rfl | rfl
    · rw [step_greeting] at enters
      cases enters
      exact Or.inr (Or.inl rfl)
    · rw [step_greeting_inside] at enters
      cases enters
    · rw [step_greeting_done] at enters
      cases enters
  | turn _ enters inside ih =>
    rcases ih with rfl | rfl | rfl
    · rw [step_greeting] at enters
      cases enters
      cases (inside.of_ends step_greeting_inside).2
      exact Or.inr (Or.inr rfl)
    · rw [step_greeting_inside] at enters
      cases enters
    · rw [step_greeting_done] at enters
      cases enters

/-- Neither the greeting nor the text around it has a gap that could join with the other. -/
theorem transform?_eq_assembleRoot_greeting :
    (∀ root, rootDocument none (some ⟨.root, ["r"]⟩) = .ok root →
      SealedThroughout greetingReading (.root root "See <include src=\"a\"/>!".toList)) ∧
    transform? greetingReading none (some ⟨.root, ["r"]⟩) .empty
        "See <include src=\"a\"/>!".toList =
      some (assembleRoot greetingReading none (some ⟨.root, ["r"]⟩) .empty
        "See <include src=\"a\"/>!".toList) := by
  have seals : ∀ root, rootDocument none (some ⟨.root, ["r"]⟩) = .ok root →
      SealedThroughout greetingReading (.root root "See <include src=\"a\"/>!".toList) := by
    intro root found frame entered
    cases found
    have named : Directive.firstAfter 0 "See <include src=\"a\"/>!".toList =
      .ok (some ⟨['a'], 4, 22, true⟩) := by cbv
    have last : Directive.firstAfter 22 "See <include src=\"a\"/>!".toList = .ok none := by cbv
    have greeting : Directive.firstAfter 0 "A.".toList = .ok none := by cbv
    have whole : Directive.firstAfter 0 "See A.!".toList = .ok none := by cbv
    rcases greeting_reached entered.reached with rfl | rfl | rfl
    · show ∀ gap ∈ (Directive.layout "See <include src=\"a\"/>!".toList).gaps, _
      rw [Directive.layout, Directive.layoutFrom_some named, Directive.layoutFrom_none last]
      decide
    · show ∀ gap ∈ (Directive.layout "A.".toList).gaps, _
      rw [Directive.layout, Directive.layoutFrom_none greeting]
      decide
    · show ∀ gap ∈ (Directive.layout "See A.!".toList).gaps, _
      rw [Directive.layout, Directive.layoutFrom_none whole]
      decide
  exact ⟨seals, transform?_eq_assembleRoot greetingReading none _ .empty _ seals⟩

end Expansion

end PromptWeave
