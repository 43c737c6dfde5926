import LiveTable.Binary64.Basic
import Mathlib.Algebra.Ring.Nat
import Mathlib.Order.Compare
import Mathlib.Order.Monotone.Basic

/-!
# The number line

Where a number stands among others can be read off its word: the field grows with what the number
is worth, and the sign turns the line around.

* `magnitude field`: what a field is worth, in units of `2 ^ -1074`;
* `magnitude_strictMono`: a larger field is worth more;
* `value x`: what a number is worth, in the same units;
* `rank_lt_rank_iff`, `compare_rank`: ranks are ordered as what they are worth.

An infinity has the field after that of the largest number and is worth the next power of two, so it
stands beyond all numbers.
-/

namespace LiveTable.Binary64

/-- The absolute value of a number with the given field, in units of `2 ^ -1074`. -/
def magnitude (field : Nat) : Nat :=
  if field < 2 ^ 52 then field else (2 ^ 52 + field % 2 ^ 52) * 2 ^ (field / 2 ^ 52 - 1)

theorem scaled_eq_magnitude (x : Binary64) : x.scaled = magnitude x.field := by
  simp only [scaled, significand, exponent, magnitude, Nat.pow_eq, Nat.shiftLeft_eq]
  split
  · next h => rw [Nat.div_eq_of_lt h, Nat.zero_sub, Nat.pow_zero, Nat.mul_one]
  · rfl

/-- Fields with the exponent `e` or a smaller one are worth less than the least one with the next
exponent. -/
theorem magnitude_lt_of_div_le {field e : Nat} (h : field / 2 ^ 52 ≤ e) :
    magnitude field < 2 ^ 52 * 2 ^ e := by
  unfold magnitude
  split
  · next hsmall => exact Nat.lt_of_lt_of_le hsmall (Nat.le_mul_of_pos_right _ (Nat.two_pow_pos e))
  · next hlarge =>
    have hmod : field % 2 ^ 52 < 2 ^ 52 := Nat.mod_lt _ (Nat.two_pow_pos 52)
    have hpos : 1 ≤ e := by omega
    calc (2 ^ 52 + field % 2 ^ 52) * 2 ^ (field / 2 ^ 52 - 1)
        < (2 ^ 52 * 2) * 2 ^ (field / 2 ^ 52 - 1) :=
          Nat.mul_lt_mul_of_pos_right (by omega) (Nat.two_pow_pos _)
      _ ≤ (2 ^ 52 * 2) * 2 ^ (e - 1) :=
          Nat.mul_le_mul_left _ (Nat.pow_le_pow_right (by decide) (by omega))
      _ = 2 ^ 52 * 2 ^ e := by
          rw [Nat.mul_assoc, ← Nat.pow_succ', Nat.succ_eq_add_one, Nat.sub_add_cancel hpos]

/-- Fields with the exponent `e + 1` are worth at least the least one with it. -/
theorem le_magnitude_of_le_div {field e : Nat} (h : e + 1 ≤ field / 2 ^ 52) :
    2 ^ 52 * 2 ^ e ≤ magnitude field := by
  have hlarge : ¬ field < 2 ^ 52 := by omega
  rw [magnitude, if_neg hlarge]
  exact Nat.mul_le_mul (Nat.le_add_right _ _) (Nat.pow_le_pow_right (by decide) (by omega))

/-- **A larger field is worth more.** -/
theorem magnitude_strictMono : StrictMono magnitude := by
  intro a b hab
  have hdiv : a / 2 ^ 52 ≤ b / 2 ^ 52 := Nat.div_le_div_right (Nat.le_of_lt hab)
  rcases Nat.lt_or_eq_of_le hdiv with hlt | heq
  · exact Nat.lt_of_lt_of_le (magnitude_lt_of_div_le (Nat.le_refl _)) (le_magnitude_of_le_div hlt)
  · -- With the same exponent the significands decide.
    unfold magnitude
    by_cases ha : a < 2 ^ 52
    · have hb : b < 2 ^ 52 := by omega
      rwa [if_pos ha, if_pos hb]
    · have hb : ¬ b < 2 ^ 52 := by omega
      rw [if_neg ha, if_neg hb, heq]
      exact Nat.mul_lt_mul_of_pos_right (by omega) (Nat.two_pow_pos _)

/-- What a number is worth, in units of `2 ^ -1074`. -/
def value (x : Binary64) : Int := if x.negative then -(x.scaled : Int) else x.scaled

/-- **Numbers are ranked by what they are worth.** -/
theorem rank_lt_rank_iff (x y : Binary64) : x.rank < y.rank ↔ x.value < y.value := by
  have hlt : ∀ a b : Binary64, a.scaled < b.scaled ↔ a.field < b.field := fun a b => by
    rw [scaled_eq_magnitude, scaled_eq_magnitude, magnitude_strictMono.lt_iff_lt]
  have hpos : ∀ a : Binary64, 0 < a.scaled ↔ 0 < a.field := fun a => by
    rw [scaled_eq_magnitude]
    show magnitude 0 < magnitude a.field ↔ 0 < a.field
    exact magnitude_strictMono.lt_iff_lt
  have hxy := hlt x y
  have hyx := hlt y x
  have hx := hpos x
  have hy := hpos y
  unfold rank value
  cases x.negative <;> cases y.negative <;> simp only [Bool.false_eq_true, if_true, if_false] <;>
    omega

theorem compare_rank (x y : Binary64) :
    Ord.compare x.rank y.rank = Ord.compare x.value y.value := by
  rcases lt_trichotomy x.rank y.rank with h | h | h
  · rw [compare_lt_iff_lt.2 h, compare_lt_iff_lt.2 ((rank_lt_rank_iff x y).1 h)]
  · have hxy := mt (rank_lt_rank_iff x y).2 (by omega)
    have hyx := mt (rank_lt_rank_iff y x).2 (by omega)
    rw [compare_eq_iff_eq.2 h, compare_eq_iff_eq.2 (by omega)]
  · rw [compare_gt_iff_gt.2 h, compare_gt_iff_gt.2 ((rank_lt_rank_iff y x).1 h)]

end LiveTable.Binary64
