/-
**What placeholders are replaced by.**

Every text is cut in one way into placeholders and gaps in which none begins. Filling it in puts the value of
each name in the place of its placeholder, or nothing if it has none, and leaves the gaps as they are; what is
put in is not looked at again. It fails only where a value cannot be rendered or a name asks for too much. Main
statements:

* `Placeholder.Cut`: how a text is cut;
* `Placeholder.existsUnique_cut`: every text is cut in one way;
* `Template.fill_ofText_cut`: what the filling of a text comes to;
* `Pipeline.fillStage_cut`: what the stage of the placeholders comes to.
-/

import Mathlib
import PromptWeave.Proofs.Message.Filling
import PromptWeave.Proofs.Placeholder.Grammar
import PromptWeave.Proofs.Value.Lookup
import PromptWeave.Proofs.Value.Paths

namespace PromptWeave

open Text

namespace Placeholder

/-! ### How a text is cut -/

/-- No placeholder begins in a gap in front of a text. -/
def Free (gap rest : Text) : Prop :=
  ∀ front back, gap = front ++ back → back ≠ [] → ∀ (spelling : Spelling) (behind : Text),
    back ++ rest ≠ spelling.text ++ behind

/-- A text is cut into gaps, each before a placeholder, and a last gap: from left to right each placeholder is
the first that begins behind the one before it. -/
inductive Cut : Text → List (Text × Spelling) → Text → Prop
  | last {gap : Text} (free : Free gap []) : Cut gap [] gap
  | next {gap rest last : Text} {spelling : Spelling} {pieces : List (Text × Spelling)}
    (free : Free gap (spelling.text ++ rest)) (more : Cut rest pieces last) :
    Cut (gap ++ (spelling.text ++ rest)) ((gap, spelling) :: pieces) last

theorem Cut.of_eq {text gap last : Text} {spelling : Spelling} {pieces : List (Text × Spelling)} (rest : Text)
    (whole : text = gap ++ (spelling.text ++ rest)) (free : Free gap (spelling.text ++ rest))
    (more : Cut rest pieces last) : Cut text ((gap, spelling) :: pieces) last := by
  rw [whole]
  exact .next free more

theorem free_nil (rest : Text) : Free [] rest := by
  intro front back whole inhabited
  exact absurd (List.append_eq_nil_iff.mp whole.symm).2 inhabited

/-- A gap is free exactly if nothing is read at its first character and the rest of it is free. -/
theorem free_cons_iff {c : Char} {gap rest : Text} :
    Free (c :: gap) rest ↔ read? (c :: (gap ++ rest)) = none ∧ Free gap rest := by
  constructor
  · intro free
    constructor
    · rw [Option.eq_none_iff_forall_ne_some]
      rintro ⟨name, behind⟩ read
      obtain ⟨spelling, -, whole⟩ := read?_eq_some_iff.mp read
      exact free [] (c :: gap) rfl (List.cons_ne_nil _ _) spelling behind whole
    · intro front back whole
      exact free (c :: front) back (by rw [whole, List.cons_append])
  · rintro ⟨unread, free⟩ front back whole inhabited spelling behind same
    cases front with
    | nil =>
      rw [List.nil_append] at whole
      rw [← whole, List.cons_append] at same
      rw [same, spelling.read?_text] at unread
      cases unread
    | cons d front => exact free front back (List.cons.inj whole).2 inhabited spelling behind same

instance decidableFree : (gap rest : Text) → Decidable (Free gap rest)
  | [], rest => .isTrue (free_nil rest)
  | _ :: gap, rest =>
    have : Decidable (Free gap rest) := decidableFree gap rest
    decidable_of_iff _ free_cons_iff.symm

/-- **Every text is cut.** -/
theorem exists_cut (text : Text) : ∃ pieces last, Cut text pieces last := by
  induction size : text.length using Nat.strongRecOn generalizing text with
  | ind length shorter =>
    subst size
    cases text with
    | nil => exact ⟨[], [], .last (free_nil [])⟩
    | cons c rest =>
      cases read : read? (c :: rest) with
      | some found =>
        obtain ⟨name, behind⟩ := found
        obtain ⟨pieces, last, more⟩ := shorter _ (read?_length_lt read) behind rfl
        obtain ⟨spelling, -, whole⟩ := read?_eq_some_iff.mp read
        rw [whole]
        exact ⟨([], spelling) :: pieces, last, .next (free_nil _) more⟩
      | none =>
        obtain ⟨pieces, last, cut⟩ := shorter rest.length (Nat.lt_succ_self _) rest rfl
        cases cut with
        | last free => exact ⟨[], c :: rest, .last (free_cons_iff.mpr ⟨by rwa [List.append_nil], free⟩)⟩
        | @next gap behind last spelling pieces free more =>
          exact ⟨(c :: gap, spelling) :: pieces, last, .next (free_cons_iff.mpr ⟨read, free⟩) more⟩

/-- A gap in which nothing begins does not reach beyond the first placeholder. -/
theorem Free.not_beyond {gap rest back behind : Text} {spelling : Spelling} (free : Free (gap ++ back) rest)
    (same : back ++ rest = spelling.text ++ behind) : back = [] := by
  by_contra inhabited
  exact free gap back rfl inhabited spelling behind same

theorem Spelling.text_ne_nil (spelling : Spelling) : spelling.text ≠ [] := by
  unfold text braces
  split
  · exact List.cons_ne_nil _ _
  · exact List.cons_ne_nil _ _

/-- The first placeholder that begins in a text is one. -/
theorem Free.unique {gap gap' rest rest' : Text} {spelling spelling' : Spelling}
    (free : Free gap (spelling.text ++ rest)) (free' : Free gap' (spelling'.text ++ rest'))
    (same : gap ++ (spelling.text ++ rest) = gap' ++ (spelling'.text ++ rest')) :
    gap = gap' ∧ spelling = spelling' ∧ rest = rest' := by
  have gaps : gap = gap' := by
    rcases List.append_eq_append_iff.mp same with ⟨back, rfl, tail⟩ | ⟨back, rfl, tail⟩
    · rw [free'.not_beyond tail.symm, List.append_nil]
    · rw [free.not_beyond tail.symm, List.append_nil]
  subst gaps
  obtain ⟨spellings, rests⟩ := Spelling.unique (List.append_cancel_left same)
  exact ⟨rfl, spellings, rests⟩

/-- A gap up to the end of a text has no placeholder. -/
theorem Free.ne_append {gap gap' rest : Text} {spelling : Spelling} (free : Free gap []) :
    gap ≠ gap' ++ (spelling.text ++ rest) := by
  rintro rfl
  have none := free.not_beyond (List.append_nil _)
  exact spelling.text_ne_nil (List.append_eq_nil_iff.mp none).1

/-- **A text is cut in one way only.** -/
theorem Cut.unique {text text' last last' : Text} {pieces pieces' : List (Text × Spelling)}
    (first : Cut text pieces last) (second : Cut text' pieces' last') (same : text = text') :
    pieces = pieces' ∧ last = last' := by
  induction first generalizing text' pieces' last' with
  | last free =>
    cases second with
    | last => exact ⟨rfl, same⟩
    | next => exact absurd same free.ne_append
  | next free more ih =>
    cases second with
    | last free' => exact absurd same.symm free'.ne_append
    | next free' more' =>
      obtain ⟨rfl, rfl, rests⟩ := free.unique free' same
      obtain ⟨rfl, rfl⟩ := ih more' rests
      exact ⟨rfl, rfl⟩

/-- **Every text is cut in one way.** -/
theorem existsUnique_cut (text : Text) : ∃! cut : List (Text × Spelling) × Text, Cut text cut.1 cut.2 := by
  obtain ⟨pieces, last, cut⟩ := exists_cut text
  refine ⟨(pieces, last), cut, ?_⟩
  rintro ⟨pieces', last'⟩ cut'
  obtain ⟨same, same'⟩ := cut'.unique cut rfl
  exact Prod.ext same same'

/-! ### The template of a cut text -/

/-- The names of placeholders in order. -/
def namesOf (pieces : List (Text × Spelling)) : List Text := pieces.map fun piece => piece.2.name

/-- The template of gaps and placeholders. -/
def templateOf (pieces : List (Text × Spelling)) (last : Text) : Template :=
  pieces.flatMap (fun piece => piece.1.map .plain ++ [.hole piece.2.name]) ++ last.map .plain

theorem templateOf_cons (piece : Text × Spelling) (pieces : List (Text × Spelling)) (last : Text) :
    templateOf (piece :: pieces) last = piece.1.map .plain ++ (.hole piece.2.name :: templateOf pieces last) := by
  simp only [templateOf, List.flatMap_cons, List.append_assoc, List.cons_append, List.nil_append]

/-- A gap is plain. -/
theorem Free.ofText {gap rest : Text} (free : Free gap rest) :
    Template.ofText (gap ++ rest) = gap.map .plain ++ Template.ofText rest := by
  induction gap with
  | nil => rfl
  | cons c gap ih =>
    obtain ⟨unread, free⟩ := free_cons_iff.mp free
    rw [List.cons_append, (Template.ofText_of_unread unread).1, ih free]
    rfl

/-- **The template of a text is that of its cut.** -/
theorem Cut.ofText {text last : Text} {pieces : List (Text × Spelling)} (cut : Cut text pieces last) :
    Template.ofText text = templateOf pieces last := by
  induction cut with
  | last free =>
    have plain := free.ofText
    rw [List.append_nil, Template.ofText, List.append_nil] at plain
    exact plain
  | @next gap rest last spelling pieces free more ih =>
    rw [free.ofText, (Template.ofText_of_read (spelling.read?_text rest)).1, ih, templateOf_cons]

end Placeholder

/-! ### What is put in -/

namespace Template

/-- Whether a name has a value. -/
def isFound (bindings : Mapping) (name : Text) : Bool :=
  match Mapping.lookup bindings name with
  | .ok (some _) => true
  | _ => false

/-- What stands for a name: its value as it is rendered, or nothing if it has none. -/
def standIn (indent : Int) (bindings : Mapping) (name : Text) : Text :=
  match Mapping.lookup bindings name with
  | .ok (some value) => (value.render indent).toOption.getD []
  | _ => []

/-- The text of gaps and of what stands for the names between them. -/
def filled (indent : Int) (bindings : Mapping) (pieces : List (Text × Placeholder.Spelling)) (last : Text) : Text :=
  pieces.flatMap (fun piece => piece.1 ++ standIn indent bindings piece.2.name) ++ last

/-- A name whose value, if it has one, can be rendered. -/
def Renders (indent : Int) (bindings : Mapping) (name : Text) : Prop :=
  ∀ value, Mapping.lookup bindings name = .ok (some value) → ∃ shown, value.render indent = .ok shown

section

variable {indent : Int} {bindings : Mapping} {name : Text}

theorem fillIn_of_renders (renders : Renders indent bindings name)
    (searched : ∀ fault, Mapping.lookup bindings name ≠ .error fault) :
    fillIn indent bindings name = .ok (standIn indent bindings name, isFound bindings name) := by
  unfold fillIn standIn isFound
  cases found : Mapping.lookup bindings name with
  | error fault => exact absurd found (searched fault)
  | ok item =>
    cases item with
    | none => rfl
    | some value =>
      obtain ⟨shown, rendered⟩ := renders value found
      dsimp only
      rw [rendered]
      rfl

theorem fillIn_of_error {fault : NumeralFault} (stopped : Mapping.lookup bindings name = .error fault) :
    fillIn indent bindings name = .error (.numeral fault) := by
  unfold fillIn
  rw [stopped]

/-- **What the filling of a cut text comes to,** if every name can be searched for and every value rendered. -/
theorem fill_templateOf {pieces : List (Text × Placeholder.Spelling)} (last : Text)
    (renders : ∀ piece ∈ pieces, Renders indent bindings piece.2.name)
    (searched : ∀ piece ∈ pieces, ∀ fault, Mapping.lookup bindings piece.2.name ≠ .error fault) :
    fill indent bindings (Placeholder.templateOf pieces last) =
      ⟨.ok (filled indent bindings pieces last),
        (Placeholder.namesOf pieces).map fun name => ⟨name, isFound bindings name⟩⟩ := by
  induction pieces with
  | nil =>
    have plain := fill_map_plain indent bindings last []
    rw [List.append_nil, fill, Filling.prepend, Except.map, List.append_nil] at plain
    exact plain
  | cons piece pieces ih =>
    have here := fillIn_of_renders (renders piece List.mem_cons_self) (searched piece List.mem_cons_self)
    have others := ih (fun other inside => renders other (List.mem_cons_of_mem _ inside))
      fun other inside => searched other (List.mem_cons_of_mem _ inside)
    rw [Placeholder.templateOf_cons, fill_map_plain, fill, here]
    dsimp only
    rw [others]
    simp only [Filling.prepend, Except.map, filled, Placeholder.namesOf, List.flatMap_cons, List.append_assoc,
      List.map_cons]

/-- A name that cannot be searched for stops the filling. -/
theorem fill_templateOf_error {pieces : List (Text × Placeholder.Spelling)} (last : Text)
    (stopped : ∃ piece ∈ pieces, ∃ fault, Mapping.lookup bindings piece.2.name = .error fault) :
    ∃ fault, (fill indent bindings (Placeholder.templateOf pieces last)).text = .error fault := by
  induction pieces with
  | nil =>
    obtain ⟨_, absent, -⟩ := stopped
    cases absent
  | cons piece pieces ih =>
    rw [Placeholder.templateOf_cons, fill_map_plain, fill]
    cases here : fillIn indent bindings piece.2.name with
    | error fault => exact ⟨fault, rfl⟩
    | ok shown =>
      have later : ∃ piece ∈ pieces, ∃ fault, Mapping.lookup bindings piece.2.name = .error fault := by
        obtain ⟨other, inside, fault, stops⟩ := stopped
        rcases List.mem_cons.mp inside with rfl | inside
        · rw [fillIn_of_error stops] at here
          cases here
        · exact ⟨other, inside, fault, stops⟩
      obtain ⟨fault, text⟩ := ih later
      refine ⟨fault, ?_⟩
      dsimp only [Filling.prepend]
      rw [text]
      rfl

end

end Template

/-! ### The stage of the placeholders -/

namespace Pipeline

open Placeholder Template

section

variable {text last : Text} {pieces : List (Text × Spelling)} {recipe : Recipe} {bindings : Mapping}
  (cut : Cut text pieces last) (given : recipe.bindings = some bindings) (progress : Progress)

include cut given

/-- The text of gaps and values, and the names that are noted. -/
theorem fillStage_of_searched (renders : ∀ piece ∈ pieces, Renders recipe.indent bindings piece.2.name)
    (searched : ∀ piece ∈ pieces, ¬ bindings.AsksTooFar piece.2.name) :
    (fillStage recipe progress text).2 = .ok (filled recipe.indent bindings pieces last) ∧
      (fillStage recipe progress text).1.substituted =
        progress.substituted ++ (namesOf pieces).filter (isFound bindings) ∧
      (fillStage recipe progress text).1.missing =
        progress.missing ++ (namesOf pieces).filter (!isFound bindings ·) := by
  have found : ∀ piece ∈ pieces, ∀ fault, Mapping.lookup bindings piece.2.name ≠ .error fault :=
    fun piece inside fault stopped =>
      searched piece inside ((Mapping.lookup_eq_error_iff piece.2.isName.small).mp ⟨fault, stopped⟩)
  have filling := fill_templateOf last renders found
  rw [← cut.ofText] at filling
  unfold fillStage
  rw [given]
  dsimp only
  rw [filling]
  refine ⟨rfl, ?_, ?_⟩
  · simp [Filling.substituted, List.filter_map, Function.comp_def]
  · simp [Filling.missing, List.filter_map, Function.comp_def]

/-- A name that asks for too much stops the stage. -/
theorem fillStage_of_asksTooFar (far : ∃ piece ∈ pieces, bindings.AsksTooFar piece.2.name) :
    ∃ fault, (fillStage recipe progress text).2 = .error fault := by
  obtain ⟨piece, inside, far⟩ := far
  have stopped := (Mapping.lookup_eq_error_iff piece.2.isName.small).mpr far
  have filling : ∃ fault, (fill recipe.indent bindings (templateOf pieces last)).text = .error fault :=
    fill_templateOf_error last ⟨piece, inside, stopped⟩
  rw [← cut.ofText] at filling
  obtain ⟨fault, filling⟩ := filling
  refine ⟨.host (HostFault.ofJson fault), ?_⟩
  unfold fillStage
  rw [given]
  dsimp only
  rw [filling]
  rfl

end

/-- **Placeholders are replaced exactly, in one pass.** A text begins with at most one placeholder, and every text
is cut in one way into placeholders and gaps in which none begins. If the values of the names can be rendered, then
the stage comes to a text exactly if no name asks for too much; and this text has the gaps as they are and between
them what stands for the names, while the names with a value are noted as substituted and the others as missing. -/
theorem fillStage_cut (text : Text) (recipe : Recipe) (bindings : Mapping) (progress : Progress) :
    (∀ (first second : Spelling) (rest rest' : Text), text = first.text ++ rest →
      text = second.text ++ rest' → first = second ∧ rest = rest') ∧
    (∃! cut : List (Text × Spelling) × Text, Cut text cut.1 cut.2) ∧
    ∀ (pieces : List (Text × Spelling)) (last : Text), Cut text pieces last →
      recipe.bindings = some bindings → (∀ piece ∈ pieces, Renders recipe.indent bindings piece.2.name) →
      ((∃ result, (fillStage recipe progress text).2 = .ok result) ↔
        ∀ piece ∈ pieces, ¬ bindings.AsksTooFar piece.2.name) ∧
      ((∀ piece ∈ pieces, ¬ bindings.AsksTooFar piece.2.name) →
        (fillStage recipe progress text).2 = .ok (filled recipe.indent bindings pieces last) ∧
        (fillStage recipe progress text).1.substituted =
          progress.substituted ++ (namesOf pieces).filter (isFound bindings) ∧
        (fillStage recipe progress text).1.missing =
          progress.missing ++ (namesOf pieces).filter (!isFound bindings ·) ∧
        List.Disjoint ((namesOf pieces).filter (isFound bindings))
          ((namesOf pieces).filter (!isFound bindings ·))) := by
  refine ⟨fun first second rest rest' here there => Spelling.unique (here.symm.trans there),
    existsUnique_cut text, ?_⟩
  intro pieces last cut given renders
  constructor
  · constructor
    · rintro ⟨result, comes⟩ piece inside far
      obtain ⟨fault, stops⟩ := fillStage_of_asksTooFar cut given progress ⟨piece, inside, far⟩
      rw [stops] at comes
      cases comes
    · intro searched
      exact ⟨_, (fillStage_of_searched cut given progress renders searched).1⟩
  · intro searched
    obtain ⟨result, substituted, missing⟩ := fillStage_of_searched cut given progress renders searched
    refine ⟨result, substituted, missing, ?_⟩
    intro name found other
    have yes := (List.mem_filter.mp found).2
    have no := (List.mem_filter.mp other).2
    rw [yes] at no
    cases no

/-- A text with three placeholders, of which the last has one brace too many behind it. -/
def threePlacesText : Text := "Hi \x7b\x7b name \x7d\x7d\x7b\x7b\x7bx.1\t\x7d\x7d\x7d: \x7b\x7by\x7d\x7d\x7d".toList

/-- How it is cut, up to that brace. -/
def threePlaces : List (Text × Spelling) :=
  [("Hi ".toList, ⟨false, [' '], "name".toList, [' '], List.forall_mem_singleton.mpr rfl,
      List.forall_mem_singleton.mpr rfl,
      (readName_spec (by decide +kernel : readName "name".toList = some ("name".toList, []))).2⟩),
    ([], ⟨true, [], "x.1".toList, ['\t'], List.forall_mem_nil _, List.forall_mem_singleton.mpr rfl,
      (readName_spec (by decide +kernel : readName "x.1".toList = some ("x.1".toList, []))).2⟩),
    (": ".toList, ⟨false, [], "y".toList, [], List.forall_mem_nil _, List.forall_mem_nil _,
      (readName_spec (by decide +kernel : readName "y".toList = some ("y".toList, []))).2⟩)]

def threeValues : Mapping :=
  [(Key.ofString "name", .text "\x7b\x7b y \x7d\x7d".toList), (Key.ofString "x", .list [.null, .string "b"])]

def threeRecipe : Recipe := ⟨⟨.ofDocuments [], 32, true⟩, none, none, some threeValues, 2⟩

/-- Values are put in as they are, also one that looks like a placeholder. -/
theorem fillStage_cut_threePlaces : Cut threePlacesText threePlaces ['\x7d'] ∧
    (fillStage threeRecipe .empty threePlacesText).2 = .ok "Hi \x7b\x7b y \x7d\x7db: \x7d".toList ∧
    (fillStage threeRecipe .empty threePlacesText).1.missing = ["y".toList] := by
  have cut : Cut threePlacesText threePlaces ['\x7d'] := by
    refine .of_eq "\x7b\x7b\x7bx.1\t\x7d\x7d\x7d: \x7b\x7by\x7d\x7d\x7d".toList (by decide) (by decide +kernel) ?_
    refine .of_eq ": \x7b\x7by\x7d\x7d\x7d".toList (by decide) (by decide +kernel) ?_
    exact .of_eq ['\x7d'] (by decide) (by decide +kernel) (.last (by decide +kernel))
  have name : Mapping.lookup threeValues "name".toList =
      .ok (some (.text "\x7b\x7b y \x7d\x7d".toList)) := by rfl
  have item : Mapping.lookup threeValues "x.1".toList = .ok (some (.string "b")) := by cbv
  have absent : Mapping.lookup threeValues "y".toList = .ok none := by cbv
  have renders : ∀ piece ∈ threePlaces, Renders 2 threeValues piece.2.name := by
    intro piece inside value found
    simp only [threePlaces, List.mem_cons, List.not_mem_nil, or_false] at inside
    rcases inside with rfl | rfl | rfl
    · cases name.symm.trans found
      exact ⟨_, rfl⟩
    · cases item.symm.trans found
      exact ⟨_, rfl⟩
    · cases absent.symm.trans found
  have searched : ∀ piece ∈ threePlaces, ¬ threeValues.AsksTooFar piece.2.name := by
    intro piece inside far
    obtain ⟨fault, stopped⟩ := (Mapping.lookup_eq_error_iff piece.2.isName.small).mpr far
    simp only [threePlaces, List.mem_cons, List.not_mem_nil, or_false] at inside
    rcases inside with rfl | rfl | rfl
    · cases name.symm.trans stopped
    · cases item.symm.trans stopped
    · cases absent.symm.trans stopped
  obtain ⟨result, -, missing, -⟩ :=
    ((fillStage_cut _ threeRecipe threeValues .empty).2.2 _ _ cut rfl renders).2 searched
  refine ⟨cut, result.trans ?_, missing.trans ?_⟩
  · cbv
  · cbv

/-- A placeholder for an item of so high a position that its digits are too many. -/
def farPlace : Spelling :=
  ⟨false, [' '], 'a' :: ([] ++ ('.' :: (List.replicate 4301 '1' ++ []))), [' '],
    List.forall_mem_singleton.mpr rfl, List.forall_mem_singleton.mpr rfl,
    .dotted rfl (fun _ absent => by cases absent)
      (.part (List.cons_ne_nil _ _) (fun c inside => by rw [List.eq_of_mem_replicate inside]; rfl) .nil)⟩

/-- No value that is looked up for such a placeholder fails to be rendered, and yet there is no text. -/
theorem fillStage_farPlace :
    Cut farPlace.text [([], farPlace)] [] ∧
    (∀ value, Mapping.lookup [(Key.ofString "a", .list [])] farPlace.name ≠ .ok (some value)) ∧
    ∃ fault, (fillStage ⟨⟨.ofDocuments [], 32, true⟩, none, none, some [(Key.ofString "a", .list [])], 2⟩ .empty
      farPlace.text).2 = .error fault := by
  have cut : Cut farPlace.text [([], farPlace)] [] :=
    .of_eq [] (List.append_nil _).symm (free_nil _) (.last (free_nil _))
  have far : Mapping.AsksTooFar [(Key.ofString "a", .list [])] farPlace.name := by
    have spelled : farPlace.name = 'a' :: '.' :: List.replicate 4301 '1' := by
      show 'a' :: '.' :: (List.replicate 4301 '1' ++ []) = _
      rw [List.append_nil]
    have noKey : Key.same (Key.ofText farPlace.name) (Key.ofString "a") = false := by
      rw [Bool.eq_false_iff]
      intro alike
      have same := Atom.string.inj (Key.atom.inj (Key.same_ofString_right alike))
      have texts : farPlace.name = ['a'] := String.ofList_injective same
      rw [spelled] at texts
      exact List.cons_ne_nil _ _ (List.cons.inj texts).2
    have pieces : splitOn '.' farPlace.name = [['a'], List.replicate 4301 '1'] := by
      have whole : '.' ∉ List.replicate 4301 '1' :=
        fun inside => absurd (List.eq_of_mem_replicate inside) (by decide)
      rw [spelled, splitOn, if_neg (by decide), splitOn, if_pos rfl, splitOn_of_notMem whole]
    refine ⟨?_, ?_⟩
    · rw [Mapping.get?, Entries.get?, noKey]
      rfl
    · rw [pieces]
      refine .inside rfl (.here rfl ⟨?_, ?_⟩)
      · intro c inside
        rw [List.eq_of_mem_replicate inside]
        rfl
      · rw [List.length_replicate]
        decide
  refine ⟨cut, ?_, fillStage_of_asksTooFar cut rfl .empty ⟨_, List.mem_cons_self, far⟩⟩
  intro value found
  obtain ⟨fault, stopped⟩ := (Mapping.lookup_eq_error_iff farPlace.isName.small).mpr far
  rw [stopped] at found
  cases found

end Pipeline

end PromptWeave
