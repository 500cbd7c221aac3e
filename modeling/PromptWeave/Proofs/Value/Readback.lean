/-
**What is rendered is read back.**

A collection is rendered as JSON. Given as a variable or as a setting, its text is read as the collection
again, every sequence and every mapping in it being a plain one. A numeral with blanks around it is read as
its integer, unless an information separator is among the blanks. Main statements:

* `Value.render_reads`: what is rendered for a structure is read as it;
* `Value.render_readBack`: so do the two readers of texts, and settings read numerals;
* `Value.ofText_separator`: a separator before a numeral makes it unreadable.
-/

import PromptWeave.Command.Variables
import PromptWeave.Proofs.Configuration.Coercion
import PromptWeave.Proofs.Json.Rereading

namespace PromptWeave

open Text

namespace Value

/-- Whether a value is a sequence or a mapping. -/
def IsCollection : Value → Prop
  | .sequence _ _ => True
  | .mapping _ _ => True
  | _ => False

/-- What is written for a collection stands between the brackets of its kind. -/
theorem exists_brackets {style : Json.Style} {depth : Nat} {value : Value} {text : Text}
    (collected : value.IsCollection) (written : Json.writeAt style depth value.plainCollections = .ok text) :
    ∃ opening closing inside, (opening, closing) ∈ [('[', ']'), ('\x7b', '\x7d')] ∧
      text = opening :: (inside ++ [closing]) := by
  cases value with
  | sequence frozen items =>
    rw [plainCollections, Json.writeAt] at written
    cases all : Json.writeItems style (depth + 1) (plainItems items) with
    | error fault =>
      rw [all] at written
      cases written
    | ok texts =>
      rw [all] at written
      obtain ⟨inside, enclosed⟩ := Json.exists_enclose style depth '[' ']' texts
      exact ⟨'[', ']', inside, by simp, (Except.ok.inj written).symm.trans enclosed⟩
  | mapping frozen entries =>
    rw [plainCollections, Json.writeAt] at written
    cases all : Json.writeEntries style (depth + 1) (plainEntries entries) with
    | error fault =>
      rw [all] at written
      cases written
    | ok texts =>
      rw [all] at written
      obtain ⟨inside, enclosed⟩ := Json.exists_enclose style depth '\x7b' '\x7d' texts
      exact ⟨'\x7b', '\x7d', inside, by simp, (Except.ok.inj written).symm.trans enclosed⟩
  | atom => cases collected
  | set => cases collected
  | loop => cases collected
  | again => cases collected

/-- **What is rendered for a structure that is a collection** is read as it and stands between brackets. -/
theorem render_reads {value : Value} (structured : value.IsStructure) (collected : value.IsCollection)
    (indent : Int) :
    ∃ opening closing inside, (opening, closing) ∈ [('[', ']'), ('\x7b', '\x7d')] ∧
      value.render indent = .ok (opening :: (inside ++ [closing])) ∧
      Json.valueOf (opening :: (inside ++ [closing])) = .ok value.plainCollections := by
  have unescaped : (⟨some indent, false⟩ : Json.Style).asciiOnly = false := rfl
  obtain ⟨text, written, reads⟩ := Json.writeAt_reads unescaped structured 0
  obtain ⟨opening, closing, inside, brackets, rfl⟩ := exists_brackets collected written
  refine ⟨opening, closing, inside, brackets, ?_, reads.valueOf⟩
  rw [← written]
  cases value with
  | sequence frozen items => exact if_pos structured.isFinite
  | mapping frozen entries => exact if_pos structured.isFinite
  | atom => cases collected
  | set => cases collected
  | loop => cases collected
  | again => cases collected

end Value

namespace Command.Variables

/-- **An entry gives its name the value of what stands behind the first equals sign.** -/
theorem read_entry (world : World) {name : Text} (whole : '=' ∉ name) (named : strip name ≠ []) {text : Text}
    {value : Value} (read : Json.valueOf text = .ok value) :
    Variables.read world none [some (String.ofList (name ++ '=' :: text))] =
      .ok [(Key.ofText (strip name), value)] := by
  have before : ∀ c ∈ name, (c != '=') = true := by
    intro c inside
    exact bne_iff_ne.mpr fun same => whole (same ▸ inside)
  have entry : ofEntry (String.ofList (name ++ '=' :: text)) = .ok (Key.ofText (strip name), value) := by
    have taken : (name ++ '=' :: text).takeWhile (· != '=') = name := by
      rw [List.takeWhile_append_of_pos before]
      simp
    have left : (name ++ '=' :: text).dropWhile (· != '=') = '=' :: text := by
      rw [List.dropWhile_append_of_pos before]
      simp
    obtain ⟨c, rest, solid⟩ := List.exists_cons_of_ne_nil named
    rw [ofEntry, String.toList_ofList, taken, left, solid]
    dsimp only
    rw [read]
  rw [Variables.read, addEntries, entry]
  rfl

end Command.Variables

namespace Value

/-- **What is rendered is read back.** The text rendered for a structure that is a collection is read as the
structure with plain collections when it is given as a variable and when it is given as a setting, and the
numeral of an integer, blanks being around it, is the setting of that integer exactly if no information
separator is among the blanks. -/
theorem render_readBack (value : Value) (indent number : Int) (front back : Text) :
    (value.IsStructure → value.IsCollection →
      ∃ text, value.render indent = .ok text ∧
        (∀ (world : World) (name : Text), '=' ∉ name → strip name ≠ [] →
          Command.Variables.read world none [some (String.ofList (name ++ '=' :: text))] =
            .ok [(Key.ofText (strip name), value.plainCollections)]) ∧
        Setting.ofText text = .ok value.plainCollections) ∧
    ((Numeral.digits number.natAbs).length ≤ Numeral.digitLimit →
      (∀ c ∈ front ++ back, isBlank c = true) →
        (Setting.ofText (front ++ Numeral.ofInt number ++ back) = .ok (.integer number) ↔
          ∀ c ∈ front ++ back, isSeparator c = false)) := by
  constructor
  · intro structured collected
    obtain ⟨opening, closing, inside, brackets, rendered, read⟩ := render_reads structured collected indent
    refine ⟨_, rendered, ?_, ?_⟩
    · intro world name whole named
      exact Command.Variables.read_entry world whole named read
    · rw [Setting.ofText_enclosed brackets, read]
  · intro short blanks
    exact Setting.ofText_spelled_iff short (fun c inside => blanks c (List.mem_append_left _ inside))
      fun c inside => blanks c (List.mem_append_right _ inside)

/-- A frozen mapping of a tuple, whose names and strings have signs that are escaped or that mark entries, and of
an empty mapping. -/
def quotedMapping : Value :=
  .mapping true
    [(Key.ofString "a\"=", .sequence true [integer (-7), bool true, null, string "\\\x7b\n"]),
      (Key.ofString "", .mapping false [])]

theorem isStructure_quotedMapping : quotedMapping.IsStructure := by
  have seven : Numeral.digits 7 = ['7'] := by
    rw [Numeral.digits]
    rfl
  have number : (Atom.integer (-7)).IsPlain := by
    show (Numeral.digits 7).length ≤ Numeral.digitLimit
    rw [seven]
    decide
  have items : ∀ item ∈ [integer (-7), bool true, null, string "\\\x7b\n"], item.IsStructure := by
    simp only [List.forall_mem_cons]
    exact ⟨.atom number, .atom trivial, .atom trivial, .atom trivial, fun _ absent => by cases absent⟩
  refine .mapping ?_ (by simp [Key.ofString]) ?_
  · simp only [List.forall_mem_cons]
    exact ⟨⟨_, rfl⟩, ⟨_, rfl⟩, fun _ absent => by cases absent⟩
  · simp only [List.forall_mem_cons]
    refine ⟨.sequence items, .mapping ?_ List.nodup_nil ?_, ?_⟩
    all_goals
      intro _ absent
      cases absent

/-- Such a mapping comes back as a variable and as a setting, and so does a number between blanks. -/
theorem render_readBack_quotedMapping :
    quotedMapping.IsStructure ∧ quotedMapping.IsCollection ∧
    (∃ text, quotedMapping.render 2 = .ok text ∧
      Command.Variables.read .empty none [some (String.ofList ("x".toList ++ '=' :: text))] =
        .ok [(Key.ofString "x", quotedMapping.plainCollections)] ∧
      Setting.ofText text = .ok quotedMapping.plainCollections) ∧
    Setting.ofText " 5\n".toList = .ok (integer 5) := by
  obtain ⟨text, rendered, given, set⟩ :=
    (render_readBack quotedMapping 2 0 [] []).1 isStructure_quotedMapping trivial
  have five : Numeral.ofInt 5 = ['5'] := by
    rw [Numeral.ofInt_eq, Numeral.digits]
    rfl
  have blanks : ∀ c ∈ [' '] ++ ['\n'], isBlank c = true ∧ isSeparator c = false := by
    simp only [List.singleton_append, List.forall_mem_cons]
    exact ⟨by decide, by decide, List.forall_mem_nil _⟩
  have short : (Numeral.digits (5 : Int).natAbs).length ≤ Numeral.digitLimit := by
    rw [show (5 : Int).natAbs = 5 from rfl, Numeral.digits]
    decide
  have number := ((render_readBack .null 0 5 [' '] ['\n']).2 short
    fun c inside => (blanks c inside).1).mpr fun c inside => (blanks c inside).2
  rw [five] at number
  exact ⟨isStructure_quotedMapping, trivial, ⟨text, rendered, given _ _ (by decide) (by decide), set⟩, number⟩

/-- A file separator in front of a numeral is a blank and makes it unreadable. -/
theorem ofText_separator : isBlank '\x1c' = true ∧
    Setting.ofText ('\x1c' :: Numeral.ofInt 5) =
      .error (.numeral (.notInteger 10 ('\x1c' :: Numeral.ofInt 5))) := by
  have five : Numeral.ofInt 5 = ['5'] := by
    rw [Numeral.ofInt_eq, Numeral.digits]
    rfl
  rw [five]
  exact ⟨by decide, rfl⟩

end Value

end PromptWeave
