/-
**Written atoms are read back.**

What is written for a string, an integer, a truth value or no value is read back as just that, and what
follows it is left. Only behind an integer must something follow that does not go on with the number.
Main statements:

* `Json.readString_written`: a string is read back from its characters and closing quote;
* `Json.readUnsigned_digits`: a number is read back from its decimal digits;
* `Json.readAtom_integer`, `Json.readAtom_word`: an integer and a word are read back.
-/

import PromptWeave.Json.Reading
import PromptWeave.Json.Writing
import PromptWeave.Proofs.Number.Numeral

namespace PromptWeave

open Text

namespace Json

/-! ### Strings -/

/-- The code unit of four digits is read whatever follows them. -/
theorem readUnit_append {text left : Text} {unit : Nat} (read : readUnit text = some (unit, left))
    (rest : Text) : readUnit (text ++ rest) = some (unit, left ++ rest) := by
  unfold readUnit at read
  split at read
  · rename_i a b c d more
    simp only [List.cons_append, readUnit]
    split at read
    · cases read
      simp_all
    · cases read
  · cases read

/-- A control character is read back from its code point. -/
theorem readUnit_control {code : Nat} (control : code < 32) (rest : Text) :
    readUnit (hex code 4 ++ rest) = some (code, rest) := by
  have all : ∀ small : Fin 32, readUnit (hex small.val 4) = some (small.val, []) := by decide +kernel
  exact readUnit_append (all ⟨code, control⟩) rest

theorem readCharacter_control {code : Nat} (control : code < 32) (rest : Text) :
    readCharacter code rest = (some (Char.ofNat code), rest) := by
  unfold readCharacter
  rw [if_neg (by omega), if_neg (by omega)]

/-- An escape that is a letter is read as its character. -/
theorem readString_escaped {letter c : Char} (known : escaped? letter = some c) (rest : Text) :
    readString ('\\' :: letter :: rest) =
      (readString rest).map fun (value, left) => (value.map (c :: ·), left) := by
  have other : letter ≠ 'u' := by
    rintro rfl
    cases known
  rw [readString.eq_4 _ _ other, known]

/-- An escape by code point is read as the character of that code point. -/
theorem readString_control {code : Nat} (control : code < 32) (rest : Text) :
    readString (unitEscape code ++ rest) =
      (readString rest).map fun (value, left) => (value.map (Char.ofNat code :: ·), left) := by
  have unit := readUnit_control control rest
  have character := readCharacter_control control rest
  show readString ('\\' :: 'u' :: (hex code 4 ++ rest)) = _
  rw [readString.eq_3]
  split
  · rename_i none
    rw [unit] at none
    cases none
  · rename_i found
    rw [unit] at found
    cases found
    rw [character]
    rfl

/-- A character that needs no escape is read as itself. -/
theorem readString_plain {c : Char} (quote : c ≠ '"') (backslash : c ≠ '\\') (visible : 32 ≤ c.toNat)
    (rest : Text) :
    readString (c :: rest) =
      (readString rest).map fun (value, left) => (value.map (c :: ·), left) := by
  have solid : ¬ (c.toNat < 32 ∨ c = '\\') := by
    rintro (control | same)
    · omega
    · exact backslash same
  rw [readString.eq_5 _ _ quote (fun _ same _ => backslash same) (fun _ _ same _ => backslash same),
    if_neg solid]

/-- **A character is read back** from what is written for it. -/
theorem readString_character (c : Char) (rest : Text) :
    readString (writeCharacter false c ++ rest) =
      (readString rest).map fun (value, left) => (value.map (c :: ·), left) := by
  unfold writeCharacter
  split_ifs with quote backslash feed back tab form bell control wide
  · subst quote
    exact readString_escaped (by decide) rest
  · subst backslash
    exact readString_escaped (by decide) rest
  · subst feed
    exact readString_escaped (by decide) rest
  · subst back
    exact readString_escaped (by decide) rest
  · subst tab
    exact readString_escaped (by decide) rest
  · subst form
    exact readString_escaped (by decide) rest
  · subst bell
    exact readString_escaped (by decide) rest
  · rw [escape, if_pos (by omega), readString_control control, Char.ofNat_toNat]
  · simp at wide
  · exact readString_plain quote backslash (by omega) rest

/-- **A string is read back** from its characters and the quote that closes it. -/
theorem readString_written (text rest : Text) :
    readString (text.flatMap (writeCharacter false) ++ '"' :: rest) = some (some text, rest) := by
  induction text with
  | nil => rw [List.flatMap_nil, List.nil_append, readString]
  | cons c text ih =>
    rw [List.flatMap_cons, List.append_assoc, readString_character, ih]
    rfl

/-! ### Numbers -/

/-- A text that does not go on with a number. -/
def EndsNumber (text : Text) : Prop :=
  ∀ c ∈ text.head?, c.isDigit = false ∧ c ≠ '.' ∧ c ≠ 'e' ∧ c ≠ 'E'

theorem endsNumber_nil : EndsNumber [] := by
  intro c inside
  cases inside

theorem endsNumber_cons {c : Char} (ends : c.isDigit = false ∧ c ≠ '.' ∧ c ≠ 'e' ∧ c ≠ 'E')
    (rest : Text) : EndsNumber (c :: rest) := by
  intro first inside
  cases inside
  exact ends

/-- **The digits of a number are its whole part.** -/
theorem readWhole_digits (number : Nat) {rest : Text} (ends : EndsNumber rest) :
    readWhole (Numeral.digits number ++ rest) = some (Numeral.digits number, rest) := by
  by_cases nought : number = 0
  · have single : Numeral.digits 0 = ['0'] := by
      rw [Numeral.digits]
      rfl
    rw [nought, single]
    rfl
  · have all := Numeral.digits_allDigits number
    have first := Numeral.head?_digits_ne nought
    obtain ⟨c, row, whole⟩ := List.exists_cons_of_ne_nil (Numeral.digits_ne_nil number)
    rw [whole] at all first ⊢
    have solid : c ≠ '0' := fun same => first (same ▸ rfl)
    have inner : ∀ c ∈ row, c.isDigit = true := fun c inside => all c (List.mem_cons_of_mem _ inside)
    obtain ⟨taken, left⟩ := span_append inner fun c first => (ends c first).1
    rw [List.cons_append, readWhole]
    · rw [if_pos (all c List.mem_cons_self), taken, left]
    · exact solid

/-- Behind a number there is no fraction and no exponent. -/
theorem readFraction_ends {rest : Text} (ends : EndsNumber rest) :
    readFraction rest = ([], rest) ∧ readExponent rest = (none, rest) := by
  cases rest with
  | nil => exact ⟨rfl, rfl⟩
  | cons c rest =>
    obtain ⟨_, point, small, capital⟩ := ends c rfl
    constructor
    · rw [readFraction]
      rintro _ same
      exact point (List.cons.inj same).1
    · rw [readExponent, if_neg (by simp [small, capital])]

/-- **A number is read back** from its decimal digits, if there are not too many of them. -/
theorem readUnsigned_digits (negative : Bool) {number : Nat}
    (short : (Numeral.digits number).length ≤ Numeral.digitLimit) {rest : Text}
    (ends : EndsNumber rest) :
    readUnsigned negative (Numeral.digits number ++ rest) =
      some (.integer (if negative then -(number : Int) else number), rest) := by
  obtain ⟨fraction, exponent⟩ := readFraction_ends ends
  unfold readUnsigned
  rw [readWhole_digits number ends]
  dsimp only
  rw [fraction]
  dsimp only
  rw [exponent]
  dsimp only
  rw [if_pos ⟨rfl, rfl⟩, if_neg (by omega), Numeral.value_digits]

/-! ### Words and numbers -/

/-- **A text that begins with a digit, or with a minus and a digit, is no word.** -/
theorem words_find?_number {c : Char} (digit : c.isDigit = true) (rest : Text) :
    (words.find? fun word => word.1.isPrefixOf (c :: rest)) = none ∧
      (words.find? fun word => word.1.isPrefixOf ('-' :: c :: rest)) = none := by
  have apart : ∀ word ∈ words, ∃ first second more, word.1 = first :: second :: more ∧
      first.isDigit = false ∧ second.isDigit = false := by
    simp [words]
  have other : ∀ letter : Char, letter.isDigit = false → (letter == c) = false := by
    intro letter solid
    rw [beq_eq_false_iff_ne]
    rintro rfl
    rw [solid] at digit
    cases digit
  rw [List.find?_eq_none, List.find?_eq_none]
  constructor
  · intro word inside begins
    obtain ⟨first, second, more, spelled, solid, -⟩ := apart word inside
    rw [spelled, List.isPrefixOf, other first solid] at begins
    cases begins
  · intro word inside begins
    obtain ⟨first, second, more, spelled, -, solid⟩ := apart word inside
    rw [spelled, List.isPrefixOf, List.isPrefixOf, other second solid, Bool.false_and,
      Bool.and_false] at begins
    cases begins

/-- **An integer is read back** from its numeral, if it does not have too many digits. -/
theorem readAtom_integer {value : Int}
    (short : (Numeral.digits value.natAbs).length ≤ Numeral.digitLimit) {rest : Text}
    (ends : EndsNumber rest) :
    readAtom (Numeral.ofInt value ++ rest) = some (.integer value, rest) := by
  cases value with
  | ofNat number =>
    obtain ⟨c, row, whole, digit⟩ := Numeral.exists_digits_cons number
    have read : readUnsigned false (Numeral.digits number ++ rest) = some (.integer number, rest) :=
      readUnsigned_digits false short ends
    rw [Numeral.ofInt]
    rw [whole, List.cons_append] at read ⊢
    rw [readAtom, (words_find?_number digit _).1]
    · exact read
    · rintro _ same
      cases same
      cases digit
  | negSucc number =>
    obtain ⟨c, row, whole, digit⟩ := Numeral.exists_digits_cons (number + 1)
    have read : readUnsigned true (Numeral.digits (number + 1) ++ rest) =
        some (.integer (Int.negSucc number), rest) := readUnsigned_digits true short ends
    rw [Numeral.ofInt]
    rw [whole, List.cons_append] at read
    rw [whole, List.cons_append, List.cons_append, readAtom, (words_find?_number digit _).2]
    exact read

/-- **A word is read back,** whatever follows it. -/
theorem readAtom_word (rest : Text) : readAtom (['n', 'u', 'l', 'l'] ++ rest) = some (.null, rest) ∧
    readAtom (['t', 'r', 'u', 'e'] ++ rest) = some (.bool true, rest) ∧
    readAtom (['f', 'a', 'l', 's', 'e'] ++ rest) = some (.bool false, rest) :=
  ⟨rfl, rfl, rfl⟩

end Json

end PromptWeave
