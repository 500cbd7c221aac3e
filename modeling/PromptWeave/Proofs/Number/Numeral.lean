/-
**Reading numerals.**

The numeral of an integer is read back as it, with blanks around it too, unless one of the blanks is an
information separator: these count as blanks, but not to the reader of numerals. A row of digits is read
exactly if there are not too many of them and none that only stands alone. Main statements:

* `Numeral.read_spelled_iff`: when a numeral with blanks around it is read;
* `Numeral.read_row`: what a row of digits is read as;
* `Numeral.read_eq_error_iff`: which rows of digits of any scripts cannot be read.
-/

import Mathlib.Data.List.Basic
import Mathlib.Data.List.TakeWhile
import PromptWeave.Number.Numeral

namespace PromptWeave

open Text

namespace Text

/-- Whether a character is one of the information separators. -/
def isSeparator (c : Char) : Bool := 28 ≤ c.toNat && c.toNat ≤ 31

/-- Among the first 128 characters the digits are those of the Latin script. -/
theorem isDigit_iff_of_small {c : Char} (small : c.toNat < 128) : isDigit c = true ↔ c.isDigit = true :=
  forall_small small (by decide +kernel)

end Text

namespace Numeral

/-! ### Decimal digits -/

/-- The digits of a number other than nought do not begin with nought. -/
theorem head?_digits_ne {number : Nat} (positive : number ≠ 0) : (digits number).head? ≠ some '0' := by
  rw [digits]
  split
  · rename_i small
    have nonzero : ∀ digit : Fin 10, digit.val ≠ 0 → digitChar digit.val ≠ '0' := by decide
    intro first
    exact nonzero ⟨number, small⟩ positive (Option.some.inj first)
  · rename_i large
    have before : (digits (number / 10)).head? ≠ some '0' := head?_digits_ne (by omega)
    rw [List.head?_append_of_ne_nil _ (digits_ne_nil _)]
    exact before
termination_by number
decreasing_by omega

/-- The row of a number begins with a digit. -/
theorem exists_digits_cons (number : Nat) : ∃ c row, digits number = c :: row ∧ c.isDigit = true := by
  obtain ⟨c, row, whole⟩ := List.exists_cons_of_ne_nil (digits_ne_nil number)
  exact ⟨c, row, whole, digits_allDigits number c (whole ▸ List.mem_cons_self)⟩

/-- The digits of the Latin script are ten characters in a row. -/
theorem toNat_of_isDigit {c : Char} (digit : c.isDigit = true) : 48 ≤ c.toNat ∧ c.toNat ≤ 57 := by
  simp only [Char.isDigit, Bool.and_eq_true, decide_eq_true_eq] at digit
  exact digit

/-- What holds for every digit among the first characters holds for every digit. -/
@[elab_as_elim]
theorem forall_digit {holds : Char → Prop} {c : Char} (digit : c.isDigit = true)
    (all : ∀ code : Fin 58, (Char.ofNat code).isDigit = true → holds (Char.ofNat code)) : holds c := by
  have small : c.toNat < 58 := Nat.lt_succ_of_le (toNat_of_isDigit digit).2
  have each : c.isDigit = true → holds c := forall_small small all
  exact each digit

/-! ### Numerals with blanks around them -/

theorem ofInt_eq (number : Int) :
    ofInt number = (if number < 0 then ['-'] else []) ++ digits number.natAbs := by
  cases number with
  | ofNat number => rfl
  | negSucc number =>
    rw [if_pos (Int.negSucc_lt_zero number)]
    rfl

theorem ofInt_ne_nil (number : Int) : ofInt number ≠ [] := by
  rw [ofInt_eq]
  exact List.append_ne_nil_of_right_ne_nil _ (digits_ne_nil _)

theorem sign_cons {c : Char} (noMinus : c ≠ '-') (noPlus : c ≠ '+') (rest : Text) :
    sign (c :: rest) = (false, c :: rest) := by
  unfold sign
  split
  · rename_i same
    exact absurd (List.cons.inj same).1 noMinus
  · rename_i same
    exact absurd (List.cons.inj same).1 noPlus
  · rfl

/-- A digit is no sign. -/
theorem sign_digit {c : Char} (digit : c.isDigit = true) (rest : Text) :
    sign (c :: rest) = (false, c :: rest) := by
  apply sign_cons
  all_goals
    rintro rfl
    cases digit

theorem sign_ofInt (number : Int) (rest : Text) :
    sign (ofInt number ++ rest) = (decide (number < 0), digits number.natAbs ++ rest) := by
  obtain ⟨c, row, whole, digit⟩ := exists_digits_cons number.natAbs
  rw [ofInt_eq]
  split
  · rename_i negative
    rw [decide_eq_true negative]
    rfl
  · rename_i positive
    rw [decide_eq_false positive, List.nil_append, whole, List.cons_append, sign_digit digit]

/-- A character as it is looked at where numerals are read: a blank beyond the first 128 characters as a
blank of these. -/
def spelled (c : Char) : Char := if c.toNat < 127 then c else ' '

/-- A text of characters that are below the last of the first 128, or blank, is looked at one by one. -/
theorem plain_eq_map {text : Text} (readable : ∀ c ∈ text, c.toNat < 127 ∨ isBlank c = true) :
    plain text = text.map spelled := by
  unfold plain
  split
  · rename_i small
    rw [List.all_eq_true] at small
    have same : ∀ c ∈ text, spelled c = c := by
      intro c inside
      have bound := of_decide_eq_true (small c inside)
      refine if_pos ?_
      rcases readable c inside with plain | blank
      · exact plain
      · by_contra large
        have code : c.toNat = 127 := by omega
        simp [isBlank, code] at blank
    rw [List.map_congr_left same, List.map_id']
  · apply List.map_congr_left
    intro c inside
    unfold spelled
    rcases readable c inside with plain | blank
    · rw [if_pos plain, if_pos plain]
    · rw [blank, if_pos rfl]

/-- **A blank is one to the reader of numerals, unless it is an information separator;** no part of a numeral
is spelled as one. -/
theorem spelled_blank {c : Char} (blank : isBlank c = true) : isPlainBlank (spelled c) = !isSeparator c ∧
    isSpelled 10 (spelled c) = false ∧ spelled c ≠ '-' ∧ spelled c ≠ '+' := by
  by_cases small : c.toNat < 127
  · have all : isBlank c = true →
        isPlainBlank c = !isSeparator c ∧ isSpelled 10 c = false ∧ c ≠ '-' ∧ c ≠ '+' :=
      forall_small small (by decide)
    rw [spelled, if_pos small]
    exact all blank
  · have solid : isSeparator c = false := by
      simp only [isSeparator, Bool.and_eq_false_iff, decide_eq_false_iff_not]
      omega
    rw [spelled, if_neg small, solid]
    decide

/-- A digit of the Latin script is one in base ten. -/
theorem digitValue_lt_of_isDigit {c : Char} (digit : c.isDigit = true) : digitValue c < 10 := by
  have bounds := toNat_of_isDigit digit
  have code : '0'.toNat = 48 := rfl
  rw [digitValue, if_pos (show '0' ≤ c ∧ c ≤ '9' from bounds)]
  omega

theorem joined?_digits {row : Text} (digits : ∀ c ∈ row, c.isDigit = true) (inhabited : row ≠ []) :
    joined? (fun c => digitValue c < 10) row = some row := by
  induction row with
  | nil => exact absurd rfl inhabited
  | cons c row ih =>
    have here : decide (digitValue c < 10) = true :=
      decide_eq_true (digitValue_lt_of_isDigit (digits c List.mem_cons_self))
    cases row with
    | nil => rw [joined?, if_pos here]
    | cons d row =>
      have next := digits d (List.mem_cons_of_mem _ List.mem_cons_self)
      have rest := ih (fun e inside => digits e (List.mem_cons_of_mem _ inside)) (List.cons_ne_nil _ _)
      rw [joined?, if_pos here, rest]
      · rfl
      · exact List.cons_ne_nil _ _
      · rintro more same
        cases same
        cases next

/-- In base ten there is no mark of the base. -/
theorem withoutBaseMark_ten (text : Text) : withoutBaseMark 10 text = text := by
  unfold withoutBaseMark
  split
  · rfl
  · rfl

/-- A row of digits ends before a text that does not begin with a part of one. -/
theorem span_spelled {row rest : Text} (digits : ∀ c ∈ row, c.isDigit = true)
    (ends : ∀ c, rest.head? = some c → isSpelled 10 c = false) :
    (row ++ rest).takeWhile (isSpelled 10) = row ∧ (row ++ rest).dropWhile (isSpelled 10) = rest := by
  refine span_append (fun c inside => ?_) ends
  rw [isSpelled, decide_eq_true (digitValue_lt_of_isDigit (digits c inside)), Bool.true_or]

/-- Digits and the minus are below the last of the first 128 characters, and neither blanks nor letters. -/
theorem solid_of_sign_or_digit {c : Char} (kind : c.isDigit = true ∨ c = '-') :
    c.toNat < 127 ∧ isPlainBlank c = false ∧ isBlank c = false ∧ c.isAlpha = false := by
  have small : c.toNat < 127 := by
    rcases kind with digit | rfl
    · have bounds := toNat_of_isDigit digit
      omega
    · decide
  have all : c.isDigit = true ∨ c = '-' → isPlainBlank c = false ∧ isBlank c = false ∧ c.isAlpha = false :=
    forall_small small (by decide)
  exact ⟨small, all kind⟩

theorem ofInt_solid {number : Int} {c : Char} (inside : c ∈ ofInt number) :
    c.toNat < 127 ∧ isPlainBlank c = false ∧ isBlank c = false ∧ c.isAlpha = false := by
  apply solid_of_sign_or_digit
  rw [ofInt_eq, List.mem_append] at inside
  rcases inside with minus | digit
  · split at minus
    · exact .inr (List.mem_singleton.mp minus)
    · cases minus
  · exact .inl (digits_allDigits _ c digit)

/-- A text of the first characters is spelled as it stands. -/
theorem map_spelled {text : Text} (small : ∀ c ∈ text, c.toNat < 127) : text.map spelled = text := by
  have same : ∀ c ∈ text, spelled c = c := fun c inside => if_pos (small c inside)
  rw [List.map_congr_left same, List.map_id']

section

variable {number : Int} {front back : Text} (before : ∀ c ∈ front, isBlank c = true)
  (behind : ∀ c ∈ back, isBlank c = true)

include before behind

/-- The blanks around a numeral are spelled one by one. -/
theorem plain_spelled :
    plain (front ++ ofInt number ++ back) = front.map spelled ++ (ofInt number ++ back.map spelled) := by
  rw [plain_eq_map, List.map_append, List.map_append, map_spelled fun c inside => (ofInt_solid inside).1,
    List.append_assoc]
  intro c inside
  rw [List.mem_append, List.mem_append] at inside
  rcases inside with (inside | inside) | inside
  · exact .inr (before c inside)
  · exact .inl (ofInt_solid inside).1
  · exact .inr (behind c inside)

/-- A separator in front of a numeral makes it none. -/
theorem read_of_separator_before (apart : ∃ c ∈ front, isSeparator c = true) :
    read 10 (front ++ ofInt number ++ back) = .error (.notInteger 10 (front ++ ofInt number ++ back)) := by
  obtain ⟨mark, inside, separator⟩ := apart
  have stays : (front.map spelled).dropWhile isPlainBlank ≠ [] := by
    rw [Ne, List.dropWhile_eq_nil_iff]
    intro all
    have plain := all _ (List.mem_map_of_mem inside)
    rw [(spelled_blank (before mark inside)).1, separator] at plain
    cases plain
  obtain ⟨first, rest, left⟩ := List.exists_cons_of_ne_nil stays
  have among : first ∈ front.map spelled :=
    (List.dropWhile_suffix _).mem (left ▸ List.mem_cons_self)
  obtain ⟨blank, inFront, rfl⟩ := List.mem_map.mp among
  obtain ⟨-, apart, noMinus, noPlus⟩ := spelled_blank (before blank inFront)
  unfold read
  rw [plain_spelled before behind, List.dropWhile_append, left]
  simp only [List.isEmpty_cons, Bool.false_eq_true, if_false, List.cons_append,
    sign_cons noMinus noPlus, withoutBaseMark_ten,
    List.takeWhile_cons, apart]
  rfl

/-- Behind a numeral nothing but blanks may stand that are ones to the reader of numerals. -/
theorem read_of_no_separator_before (short : (digits number.natAbs).length ≤ digitLimit)
    (together : ∀ c ∈ front, isSeparator c = false) :
    read 10 (front ++ ofInt number ++ back) =
      if (back.map spelled).all isPlainBlank then .ok number
      else .error (.notInteger 10 (front ++ ofInt number ++ back)) := by
  have blanks : ∀ c ∈ front.map spelled, isPlainBlank c = true := by
    intro c inside
    obtain ⟨blank, inFront, rfl⟩ := List.mem_map.mp inside
    rw [(spelled_blank (before blank inFront)).1, together blank inFront]
    rfl
  have start : (ofInt number ++ back.map spelled).dropWhile isPlainBlank = ofInt number ++ back.map spelled := by
    obtain ⟨c, row, whole⟩ := List.exists_cons_of_ne_nil (ofInt_ne_nil number)
    have solid := (ofInt_solid (whole ▸ List.mem_cons_self : c ∈ ofInt number)).2.1
    rw [whole, List.cons_append, List.dropWhile_cons, if_neg (by rw [solid]; decide)]
  have ends : ∀ c, (back.map spelled).head? = some c → isSpelled 10 c = false := by
    intro c inside
    obtain ⟨blank, inBack, rfl⟩ := List.mem_map.mp (List.mem_of_mem_head? inside)
    exact (spelled_blank (behind blank inBack)).2.1
  obtain ⟨taken, left⟩ := span_spelled (digits_allDigits number.natAbs) ends
  have row := joined?_digits (digits_allDigits number.natAbs) (digits_ne_nil number.natAbs)
  unfold read
  rw [plain_spelled before behind, List.dropWhile_append_of_pos blanks, start, sign_ofInt]
  dsimp only
  rw [withoutBaseMark_ten, taken, left, row]
  dsimp only
  rw [if_neg (by omega), value_digits]
  cases (back.map spelled).all isPlainBlank with
  | false => rfl
  | true =>
    by_cases negative : number < 0
    · simp only [negative, decide_true, Bool.not_true, Bool.false_eq_true, if_true, if_false]
      rw [show -(number.natAbs : Int) = number by omega]
    · simp only [negative, decide_false, Bool.not_true, Bool.false_eq_true, if_true, if_false]
      rw [show (number.natAbs : Int) = number by omega]

/-- **A numeral between blanks is read** as its integer, if no separator is among the blanks. -/
theorem read_spelled_iff (short : (digits number.natAbs).length ≤ digitLimit) :
    read 10 (front ++ ofInt number ++ back) = .ok number ↔ ∀ c ∈ front ++ back, isSeparator c = false := by
  simp only [List.mem_append, or_imp, forall_and]
  by_cases apart : ∃ c ∈ front, isSeparator c = true
  · rw [read_of_separator_before before behind apart]
    obtain ⟨c, inside, separator⟩ := apart
    constructor
    · intro same
      cases same
    · rintro ⟨together, -⟩
      rw [together c inside] at separator
      cases separator
  · have together : ∀ c ∈ front, isSeparator c = false := by
      intro c inside
      exact Bool.eq_false_iff.mpr fun separator => apart ⟨c, inside, separator⟩
    have closing : (back.map spelled).all isPlainBlank = true ↔ ∀ c ∈ back, isSeparator c = false := by
      rw [List.all_eq_true, List.forall_mem_map]
      refine forall₂_congr fun c inside => ?_
      rw [(spelled_blank (behind c inside)).1, Bool.not_eq_true']
    rw [read_of_no_separator_before before behind short together, ← closing]
    split
    · rename_i plain
      exact ⟨fun _ => ⟨together, plain⟩, fun _ => rfl⟩
    · rename_i mixed
      constructor
      · intro same
        cases same
      · rintro ⟨-, plain⟩
        exact absurd plain mixed

end

/-- What is read of a text that is spelled as a row of digits. -/
theorem read_of_plain {text row : Text} (spells : plain text = row) (digits : ∀ c ∈ row, c.isDigit = true)
    (inhabited : row ≠ []) :
    read 10 text =
      if digitLimit < row.length then .error (.tooLongToRead row.length) else .ok (value 10 row) := by
  obtain ⟨c, rest, rfl⟩ := List.exists_cons_of_ne_nil inhabited
  have first := digits c List.mem_cons_self
  have start : (c :: rest).dropWhile isPlainBlank = c :: rest := by
    rw [List.dropWhile_cons, if_neg (Bool.eq_false_iff.mp (solid_of_sign_or_digit (.inl first)).2.1)]
  obtain ⟨taken, left⟩ := span_spelled digits fun d (inside : ([] : Text).head? = some d) => nomatch inside
  rw [List.append_nil] at taken left
  unfold read
  rw [spells, start, sign_digit first]
  dsimp only
  rw [withoutBaseMark_ten, taken, left, joined?_digits digits inhabited]
  dsimp only
  split
  · rename_i long
    rw [if_pos long.2]
  · rename_i short
    rw [if_neg fun long => short ⟨rfl, long⟩]
    rfl

/-- **A row of digits is read** exactly if there are not too many of them. -/
theorem read_row {row : Text} (digits : ∀ c ∈ row, c.isDigit = true) (inhabited : row ≠ []) :
    read 10 row =
      if digitLimit < row.length then .error (.tooLongToRead row.length) else .ok (value 10 row) := by
  have small : ∀ c ∈ row, c.toNat < 127 := fun c inside => (solid_of_sign_or_digit (.inl (digits c inside))).1
  refine read_of_plain ?_ digits inhabited
  rw [plain_eq_map fun c inside => .inl (small c inside), map_spelled small]

/-! ### Digits of every script -/

/-- A digit as the reader of numerals looks at it: the one of the Latin script with its value. One that only
stands alone is looked at as a mark that no numeral has. -/
def latin (c : Char) : Char :=
  match decimalValue? c with
  | some value => digitChar value
  | none => '?'

/-- The blanks of every script. -/
def blankCodes : List Nat :=
  [9, 10, 11, 12, 13, 28, 29, 30, 31, 32, 0x85, 0xA0, 0x1680, 0x2000, 0x2001, 0x2002, 0x2003, 0x2004, 0x2005,
    0x2006, 0x2007, 0x2008, 0x2009, 0x200A, 0x2028, 0x2029, 0x202F, 0x205F, 0x3000]

/-- No digit is a blank. -/
theorem isBlank_of_isDigit {c : Char} (digit : isDigit c = true) : isBlank c = false := by
  by_contra blank
  rw [Bool.not_eq_false] at blank
  have listed : c.toNat ∈ blankCodes := by
    simp only [isBlank, Bool.or_eq_true, Bool.and_eq_true, decide_eq_true_eq, beq_iff_eq] at blank
    simp only [blankCodes, List.mem_cons, List.not_mem_nil, or_false]
    omega
  have all : ∀ code ∈ blankCodes, isDigit (Char.ofNat code) = false := by decide +kernel
  have none := all c.toNat listed
  rw [Char.ofNat_toNat, digit] at none
  cases none

/-- Among the first characters a digit is looked at as it is. -/
theorem latin_of_small {c : Char} (small : c.toNat < 128) : isDigit c = true → latin c = c :=
  forall_small small (by decide +kernel)

theorem isDigit_latin {c : Char} (valued : decimalValue? c ≠ none) : (latin c).isDigit = true := by
  obtain ⟨value, found⟩ := Option.ne_none_iff_exists'.mp valued
  rw [latin, found]
  exact digitChar_isDigit value

/-- How a row of digits is spelled. -/
theorem plain_digits {row : Text} (digits : ∀ c ∈ row, isDigit c = true) : plain row = row.map latin := by
  unfold plain
  split
  · rename_i small
    have same : ∀ c ∈ row, latin c = c := fun c inside =>
      latin_of_small (of_decide_eq_true (List.all_eq_true.mp small c inside)) (digits c inside)
    rw [List.map_congr_left same, List.map_id']
  · refine List.map_congr_left fun c inside => ?_
    rw [isBlank_of_isDigit (digits c inside), if_neg Bool.false_ne_true, latin]
    split
    · rename_i small
      rw [← latin, latin_of_small (by omega) (digits c inside)]
    · rfl

/-- A mark behind digits makes a numeral unreadable. -/
theorem exists_read_error {text front back : Text} (spells : plain text = front ++ '?' :: back)
    (digits : ∀ c ∈ front, c.isDigit = true) : ∃ fault, read 10 text = .error fault := by
  have start : ∃ c rest, front ++ '?' :: back = c :: rest ∧ isPlainBlank c = false ∧ c ≠ '-' ∧ c ≠ '+' := by
    cases front with
    | nil => exact ⟨'?', back, rfl, by decide, by decide, by decide⟩
    | cons c front =>
      have first := digits c List.mem_cons_self
      refine ⟨c, _, rfl, (solid_of_sign_or_digit (.inl first)).2.1, ?_, ?_⟩ <;>
      · rintro rfl
        cases first
  obtain ⟨c, rest, whole, solid, noMinus, noPlus⟩ := start
  have ends : ∀ d, ('?' :: back).head? = some d → isSpelled 10 d = false := by
    rintro d ⟨⟩
    decide
  obtain ⟨taken, left⟩ := span_spelled digits ends
  unfold read
  rw [spells, whole, List.dropWhile_cons, if_neg (Bool.eq_false_iff.mp solid), sign_cons noMinus noPlus, ← whole]
  dsimp only
  rw [withoutBaseMark_ten, taken, left]
  cases joined? (fun c => decide (digitValue c < 10)) front with
  | none => exact ⟨_, rfl⟩
  | some row =>
    dsimp only
    split
    · exact ⟨_, rfl⟩
    · exact ⟨_, rfl⟩

/-- **A row of digits of any scripts cannot be read** exactly if there are too many of them, or if one of them has
no place in a numeral. -/
theorem read_eq_error_iff {row : Text} (digits : ∀ c ∈ row, isDigit c = true) (inhabited : row ≠ []) :
    (∃ fault, read 10 row = .error fault) ↔ digitLimit < row.length ∨ ∃ c ∈ row, decimalValue? c = none := by
  by_cases lone : ∃ c ∈ row, decimalValue? c = none
  · refine iff_of_true ?_ (.inr lone)
    obtain ⟨c, inside, unvalued⟩ := lone
    obtain ⟨front, back, spells, clear⟩ := List.eq_append_cons_of_mem
      (show '?' ∈ row.map latin from List.mem_map.mpr ⟨c, inside, by rw [latin, unvalued]⟩)
    refine exists_read_error ((plain_digits digits).trans spells) fun d among => ?_
    obtain ⟨e, -, rfl⟩ := List.mem_map.mp (spells ▸ List.mem_append_left _ among : d ∈ row.map latin)
    refine isDigit_latin fun unvalued => clear ?_
    rwa [latin, unvalued] at among
  · rw [or_iff_left lone, read_of_plain (plain_digits digits), List.length_map]
    · split
      · rename_i long
        exact ⟨fun _ => long, fun _ => ⟨_, rfl⟩⟩
      · rename_i short
        exact ⟨nofun, fun long => absurd long short⟩
    · intro d among
      obtain ⟨c, inside, rfl⟩ := List.mem_map.mp among
      exact isDigit_latin fun unvalued => lone ⟨c, inside, unvalued⟩
    · exact mt List.map_eq_nil_iff.mp inhabited

end Numeral

end PromptWeave
