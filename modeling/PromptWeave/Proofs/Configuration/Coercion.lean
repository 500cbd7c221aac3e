/-
**What settings written as texts are read as.**

A text enclosed as a JSON collection is that collection if it can be read as one. An integer is read from
its numeral with blanks around it, unless one of the blanks is an information separator: these count as
blanks, but not to the reader of numerals. Main statements:

* `Setting.ofText_enclosed`: the setting of an enclosed text;
* `Setting.ofText_spelled_iff`: when the setting of a numeral with blanks around it is its integer.
-/

import PromptWeave.Configuration.Coercion
import PromptWeave.Proofs.Number.Numeral

namespace PromptWeave

open Text

/-! ### Blanks around a text -/

namespace Text

/-- **Blanks at both ends are taken off** a text whose own ends are none. -/
theorem strip_blanks {front back text : Text} (before : ∀ c ∈ front, isBlank c = true)
    (behind : ∀ c ∈ back, isBlank c = true) (inhabited : text ≠ [])
    (first : ∀ c, text.head? = some c → isBlank c = false)
    (last : ∀ c, text.getLast? = some c → isBlank c = false) : strip (front ++ text ++ back) = text := by
  obtain ⟨c, rest, rfl⟩ := List.exists_cons_of_ne_nil inhabited
  have left : stripLeft (front ++ (c :: rest) ++ back) = c :: rest ++ back := by
    rw [stripLeft, List.append_assoc, List.dropWhile_append_of_pos before, List.cons_append,
      List.dropWhile_cons, first c rfl]
    rfl
  have alone : stripRight (c :: rest) = c :: rest := by
    have whole := strip_eq_self first last
    rwa [strip, stripLeft_cons_of_not (first c rfl)] at whole
  have right : stripRight (c :: rest ++ back) = stripRight (c :: rest) := by
    rw [stripRight, List.reverse_append, List.dropWhile_append_of_pos]
    · rfl
    · intro d inside
      exact behind d (List.mem_reverse.mp inside)
  rw [strip, left, right, alone]

end Text

/-! ### Settings -/

namespace Setting

/-- A text that begins with no letter keeps its first character where words are compared. -/
theorem head?_lower {c : Char} (small : c.toNat < 128) (noLetter : c.isAlpha = false) (rest : Text) :
    (lower (c :: rest)).head? = some c := by
  have same : lowerChar c = c := by
    have all : c.isAlpha = false → c.toLower = c := forall_small small (by decide)
    rw [lowerChar_of_ascii small, all noLetter]
  have noSigma : c ≠ 'Σ' := by
    rintro rfl
    exact absurd small (by decide)
  have noDotted : c ≠ 'İ' := by
    rintro rfl
    exact absurd small (by decide)
  rw [lower, lowerAfter, if_neg noSigma, if_neg noDotted, same]
  rfl

/-- **A text that begins with no letter is no word:** it is a number, a collection or a string. -/
theorem ofText_of_no_letter {text rest : Text} {c : Char} (body : strip text = c :: rest)
    (small : c.toNat < 128) (noLetter : c.isAlpha = false) :
    ofText text =
      if isInteger (c :: rest) then
        match Numeral.read 10 text with
        | .ok number => .ok (.integer number)
        | .error fault => .error (.numeral fault)
      else if isFraction (c :: rest) then
        match Binary64.read (c :: rest) with
        | .ok number => .ok (.atom (.fraction number))
        | .error fault => .error (.numeral fault)
      else if isEnclosed (c :: rest) then Json.valueOf (c :: rest)
      else .ok (.text (c :: rest)) := by
  have letters : ∀ word ∈ ["null", "none", "true", "false"],
      word.toList.head?.all Char.isAlpha = true := by decide
  have apart : ∀ word ∈ ["null", "none", "true", "false"], String.ofList (lower (c :: rest)) ≠ word := by
    intro word known same
    have begins := head?_lower small noLetter rest
    rw [← String.toList_ofList (l := lower (c :: rest)), same] at begins
    have letter := letters word known
    rw [begins, Option.all_some, noLetter] at letter
    cases letter
  simp only [List.forall_mem_cons] at apart
  obtain ⟨noNull, noNone, noTrue, noFalse, -⟩ := apart
  unfold ofText
  rw [body]
  dsimp only
  rw [if_neg (not_or.mpr ⟨noNull, noNone⟩), if_neg noTrue]
  exact if_neg noFalse

theorem unsigned_cons {c : Char} (noPlus : c ≠ '+') (noMinus : c ≠ '-') (rest : Text) :
    unsigned (c :: rest) = c :: rest := by
  unfold unsigned
  split
  · rename_i same
    exact absurd (List.cons.inj same).1 noPlus
  · rename_i same
    exact absurd (List.cons.inj same).1 noMinus
  · rfl

/-- **A text between the brackets of a JSON collection** is read as one. -/
theorem ofText_enclosed {opening closing : Char}
    (brackets : (opening, closing) ∈ [('[', ']'), ('\x7b', '\x7d')]) (inside : Text) :
    ofText (opening :: (inside ++ [closing])) = Json.valueOf (opening :: (inside ++ [closing])) := by
  have kinds : ∀ pair ∈ [('[', ']'), ('\x7b', '\x7d')], isBlank pair.1 = false ∧ isBlank pair.2 = false ∧
      pair.1.toNat < 128 ∧ pair.1.isAlpha = false ∧ isDecimal pair.1 = false ∧ pair.1 ≠ '.' ∧ pair.1 ≠ '+' ∧
      pair.1 ≠ '-' := by decide
  obtain ⟨start, finish, small, noLetter, noDigit, noPoint, noPlus, noMinus⟩ := kinds _ brackets
  have ends : (opening :: (inside ++ [closing])).getLast? = some closing := by
    rw [← List.cons_append, List.getLast?_concat]
  have body : strip (opening :: (inside ++ [closing])) = opening :: (inside ++ [closing]) := by
    apply strip_eq_self
    · intro c first
      cases first
      exact start
    · intro c last
      rw [ends] at last
      cases last
      exact finish
  have noInteger : isInteger (opening :: (inside ++ [closing])) = false := by
    rw [isInteger, unsigned_cons noPlus noMinus, List.all_cons, noDigit, Bool.false_and, Bool.and_false]
  have noFraction : isFraction (opening :: (inside ++ [closing])) = false := by
    rw [isFraction, unsigned_cons noPlus noMinus, List.dropWhile_cons, if_neg (Bool.eq_false_iff.mp noDigit)]
    dsimp only
    split
    · rename_i same
      exact absurd (List.cons.inj same).1 noPoint
    · rfl
  have enclosed : isEnclosed (opening :: (inside ++ [closing])) = true := by
    rw [isEnclosed, ends]
    simp at brackets
    rcases brackets with ⟨rfl, rfl⟩ | ⟨rfl, rfl⟩ <;> rfl
  rw [ofText_of_no_letter body small noLetter, noInteger, noFraction, enclosed]
  rfl

/-- The numeral of an integer has the form of one. -/
theorem isInteger_ofInt (number : Int) : isInteger (Numeral.ofInt number) = true := by
  have decimal : ∀ c ∈ Numeral.digits number.natAbs, isDecimal c = true := by
    intro c inside
    exact Numeral.forall_digit (Numeral.digits_allDigits _ c inside) (by decide)
  have row : unsigned (Numeral.ofInt number) = Numeral.digits number.natAbs := by
    obtain ⟨c, row, whole, digit⟩ := Numeral.exists_digits_cons number.natAbs
    rw [Numeral.ofInt_eq]
    split
    · rfl
    · rw [List.nil_append, whole]
      apply unsigned_cons
      all_goals
        rintro rfl
        cases digit
  rw [isInteger, row, List.all_eq_true.mpr decimal]
  simp [Numeral.digits_ne_nil]

/-- **A numeral between blanks is the setting of its integer** exactly if no separator is among the blanks. -/
theorem ofText_spelled_iff {number : Int} (short : (Numeral.digits number.natAbs).length ≤ Numeral.digitLimit)
    {front back : Text} (before : ∀ c ∈ front, isBlank c = true) (behind : ∀ c ∈ back, isBlank c = true) :
    ofText (front ++ Numeral.ofInt number ++ back) = .ok (.integer number) ↔
      ∀ c ∈ front ++ back, isSeparator c = false := by
  obtain ⟨c, row, whole⟩ := List.exists_cons_of_ne_nil (Numeral.ofInt_ne_nil number)
  have body : strip (front ++ Numeral.ofInt number ++ back) = c :: row := by
    rw [← whole]
    apply strip_blanks before behind (Numeral.ofInt_ne_nil number)
    · intro d first
      exact (Numeral.ofInt_solid (List.mem_of_mem_head? first)).2.2.1
    · intro d last
      exact (Numeral.ofInt_solid (List.mem_of_getLast? last)).2.2.1
  have numeral : isInteger (c :: row) = true := by
    rw [← whole]
    exact isInteger_ofInt number
  obtain ⟨small, -, -, noLetter⟩ := Numeral.ofInt_solid (whole ▸ List.mem_cons_self : c ∈ Numeral.ofInt number)
  rw [← Numeral.read_spelled_iff before behind short, ofText_of_no_letter body (by omega) noLetter, numeral]
  cases Numeral.read 10 (front ++ Numeral.ofInt number ++ back) with
  | ok other => simp [Value.integer]
  | error fault => simp

end Setting

end PromptWeave
