/-
**The numbers of binary fractions.**

A finite binary fraction stands for a rational number, its significand times a power of two with a sign. What
is done with the fraction on naturals agrees with that number. Main statements:

* `Binary64.number?`: the number that a fraction stands for;
* `Binary64.exists_truncate`: a fraction that is an integer is cut off to just this integer;
* `Binary64.ltInt_iff`: a fraction is less than an integer when its number is.
-/

import Mathlib
import PromptWeave.Number.Binary64

namespace PromptWeave.Binary64

/-- The number that a fraction stands for, if it is finite. -/
def number? : Binary64 → Option ℚ
  | undefined _ => none
  | infinite _ => none
  | finite negative significand exponent =>
    some ((if negative then -1 else 1) * (significand * 2 ^ exponent))

/-- The magnitude of a finite fraction is the quotient of two naturals, of which the second one is positive. -/
theorem ratio_spec (significand : Nat) (exponent : Int) :
    0 < (ratio significand exponent).2 ∧
      (significand * 2 ^ exponent : ℚ) = (ratio significand exponent).1 / (ratio significand exponent).2 := by
  unfold ratio
  split
  · rename_i natural
    obtain ⟨count, rfl⟩ := Int.eq_ofNat_of_zero_le natural
    simp
  · rename_i fractional
    obtain ⟨count, same⟩ := Int.eq_ofNat_of_zero_le (Int.neg_nonneg_of_nonpos (by omega : exponent ≤ 0))
    obtain rfl : exponent = -count := by omega
    simp [div_eq_mul_inv]

/-- **A fraction that is an integer** is cut off to the integer that it stands for. -/
theorem exists_truncate {value : Binary64} (integral : value.isIntegral = true) :
    ∃ whole : Int, value.truncate = .ok whole ∧ value.number? = some (whole : ℚ) := by
  unfold isIntegral at integral
  split at integral
  · cases integral
  · cases integral
  · rename_i negative significand exponent
    obtain ⟨positive, magnitude⟩ := ratio_spec significand exponent
    dsimp only at integral
    rw [decide_eq_true_eq] at integral
    have whole : ((ratio significand exponent).1 / (ratio significand exponent).2 : ℚ) =
        ((ratio significand exponent).1 / (ratio significand exponent).2 : Nat) :=
      (Nat.cast_div (Nat.dvd_of_mod_eq_zero integral) (by positivity)).symm
    cases negative with
    | false =>
      refine ⟨((ratio significand exponent).1 / (ratio significand exponent).2 : Nat), rfl, ?_⟩
      rw [number?, magnitude, whole, if_neg Bool.false_ne_true, one_mul, Int.cast_natCast]
    | true =>
      refine ⟨-((ratio significand exponent).1 / (ratio significand exponent).2 : Nat), rfl, ?_⟩
      rw [number?, magnitude, whole, if_pos rfl, neg_one_mul, Int.cast_neg, Int.cast_natCast]

/-- **A fraction is less than an integer** when the number that it stands for is. -/
theorem ltInt_iff {value : Binary64} {number : ℚ} (stands : value.number? = some number) (bound : Int) :
    value.ltInt bound = true ↔ number < bound := by
  unfold number? at stands
  split at stands
  · cases stands
  · cases stands
  · rename_i negative significand exponent
    obtain ⟨positive, magnitude⟩ := ratio_spec significand exponent
    rw [Option.some.injEq, magnitude] at stands
    have bottom : (0 : ℚ) < (ratio significand exponent).2 := by exact_mod_cast positive
    rw [ltInt, decide_eq_true_eq, ← stands, ← Int.cast_lt (R := ℚ)]
    push_cast
    cases negative with
    | false => rw [if_neg Bool.false_ne_true, if_neg Bool.false_ne_true, one_mul, div_lt_iff₀ bottom]
    | true => rw [if_pos rfl, if_pos rfl, neg_one_mul, ← neg_div, div_lt_iff₀ bottom]

end PromptWeave.Binary64
