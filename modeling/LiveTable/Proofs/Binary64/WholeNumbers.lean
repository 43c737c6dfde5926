import LiveTable.Binary64.Round
import LiveTable.Proofs.Binary64.NumberLine
import Mathlib.Tactic.Ring

/-!
# Whole numbers

A whole number of at most `2 ^ 53` is a number of the format, so rounding leaves it as it is. From
there on the format has gaps: `2 ^ 53 + 1` is rounded to `2 ^ 53`.

* `halfEven_mul`: a quotient that is whole is not rounded;
* `magnitude_mul_add`: what the field with the exponent `e + 1` and a significand is worth;
* `magnitude_fieldOfRatio`: a small whole number is not rounded;
* `value_ofInt`: it is worth what it is;
* `eq_of_equal_ofInt`: different small whole numbers are rounded to different numbers.
-/

namespace LiveTable.Binary64

/-- A quotient that is whole is not rounded. -/
theorem halfEven_mul (m : Nat) {den : Nat} (h : 0 < den) : halfEven (m * den) den = m := by
  rw [halfEven, Nat.mul_div_cancel m h, Nat.mul_mod_left]
  exact if_pos h

/-- What the field with the exponent `e + 1` and the significand `m` is worth. -/
theorem magnitude_mul_add {m : Nat} (e : Nat) (hm : 2 ^ 52 ≤ m) (hm' : m < 2 ^ 53) :
    magnitude (e * 2 ^ 52 + m) = m * 2 ^ e := by
  obtain ⟨fraction, rfl⟩ := Nat.exists_eq_add_of_le hm
  have hfield : e * 2 ^ 52 + (2 ^ 52 + fraction) = fraction + 2 ^ 52 * (e + 1) := by ring
  have hfraction : fraction < 2 ^ 52 := by omega
  have hlarge : ¬ fraction + 2 ^ 52 * (e + 1) < 2 ^ 52 := by omega
  rw [hfield, magnitude, if_neg hlarge, Nat.add_mul_mod_self_left, Nat.mod_eq_of_lt hfraction,
    Nat.add_mul_div_left _ _ (Nat.two_pow_pos 52), Nat.div_eq_of_lt hfraction, Nat.zero_add,
    Nat.add_sub_cancel]

/-- The unit of the significand of a small whole number divides it. -/
theorem exists_significand {n k : Nat} (hpos : n ≠ 0) (hn : n ≤ 2 ^ 53) (hk : 52 < k) :
    ∃ m, n * 2 ^ k = m * 2 ^ ((n * 2 ^ k).log2 - 52) ∧ 2 ^ 52 ≤ m ∧ m < 2 ^ 53 ∧
      (n * 2 ^ k).log2 - 52 ≤ k + 1 := by
  have hlog : (n * 2 ^ k).log2 = n.log2 + k := by
    have hne : n * 2 ^ k ≠ 0 := Nat.mul_ne_zero hpos (Nat.two_pow_pos k).ne'
    rw [Nat.log2_eq_iff hne, Nat.pow_add, Nat.add_right_comm, Nat.pow_add]
    exact ⟨Nat.mul_le_mul_right _ (Nat.log2_self_le hpos),
      Nat.mul_lt_mul_of_pos_right Nat.lt_log2_self (Nat.two_pow_pos k)⟩
  have hlow := Nat.log2_self_le hpos
  have hhigh := @Nat.lt_log2_self n
  rw [hlog]
  by_cases hsmall : n.log2 ≤ 52
  · refine ⟨n * 2 ^ (52 - n.log2), ?_, ?_, ?_, by omega⟩
    · rw [Nat.mul_assoc, ← Nat.pow_add]
      congr 2
      omega
    · calc 2 ^ 52 = 2 ^ n.log2 * 2 ^ (52 - n.log2) := by
            rw [← Nat.pow_add]
            congr 1
            omega
        _ ≤ n * 2 ^ (52 - n.log2) := Nat.mul_le_mul_right _ hlow
    · calc n * 2 ^ (52 - n.log2) < 2 ^ (n.log2 + 1) * 2 ^ (52 - n.log2) :=
            Nat.mul_lt_mul_of_pos_right hhigh (Nat.two_pow_pos _)
        _ = 2 ^ 53 := by
            rw [← Nat.pow_add]
            congr 1
            omega
  · -- The number is the power of two itself.
    have hlarge : 2 ^ 53 ≤ n := (Nat.le_log2 hpos).1 (by omega)
    obtain rfl : n = 2 ^ 53 := Nat.le_antisymm hn hlarge
    have hlog53 : (2 ^ 53 : Nat).log2 = 53 := Nat.log2_two_pow
    rw [hlog53]
    refine ⟨2 ^ 52, ?_, Nat.le_refl _, by decide, by omega⟩
    rw [← Nat.pow_add, ← Nat.pow_add]
    congr 1
    omega

/-- The field to which a small whole number is rounded when it is counted in units of `2 ^ -k`. -/
theorem magnitude_halfEven {n k e field : Nat} (hn : n ≤ 2 ^ 53) (hk : 52 < k) (hk' : k ≤ 1074)
    (he : e = (n <<< k).log2 - 52)
    (hfield : field = min (e * 2 ^ 52 + halfEven (n <<< k) (1 <<< e)) infiniteField) :
    field < 2 ^ 63 ∧ magnitude field = n * 1 <<< k := by
  rw [Nat.shiftLeft_eq] at he
  rw [Nat.shiftLeft_eq, Nat.shiftLeft_eq, Nat.one_mul] at hfield
  rw [Nat.shiftLeft_eq, Nat.one_mul]
  rcases Nat.eq_zero_or_pos n with rfl | hpos
  · obtain rfl : field = 0 := by simp [hfield, he, halfEven]
    rw [Nat.zero_mul]
    decide
  · obtain ⟨m, hm, hlow, hhigh, hexp⟩ := exists_significand (Nat.ne_of_gt hpos) hn hk
    rw [← he] at hm hexp
    rw [hm, halfEven_mul m (Nat.two_pow_pos e), Nat.min_eq_left
      (by rw [infiniteField, Nat.pow_eq]; omega)] at hfield
    rw [hfield, magnitude_mul_add e hlow hhigh, hm]
    exact ⟨by omega, rfl⟩

/-- **A small whole number is not rounded.** -/
theorem magnitude_fieldOfRatio {n : Nat} (hn : n ≤ 2 ^ 53) :
    fieldOfRatio n 1 < 2 ^ 63 ∧ magnitude (fieldOfRatio n 1) = n * 1 <<< 1074 :=
  magnitude_halfEven hn (by decide) (Nat.le_refl 1074) rfl (by
    rw [fieldOfRatio, Nat.div_one, Nat.pow_eq])

theorem negative_ofField (negative : Bool) {field : Nat} (h : field < 2 ^ 63) :
    (ofField negative field).negative = negative ∧ (ofField negative field).field = field := by
  unfold ofField Binary64.negative Binary64.field
  cases negative <;> simp [UInt64.toNat_ofNat', Nat.pow_eq] <;> omega

/-- **A small whole number is worth what it is**, in units of `2 ^ -1074`. -/
theorem value_ofInt {i : Int} (hi : i.natAbs ≤ 2 ^ 53) :
    (ofInt i).value = i * ((1 <<< 1074 : Nat) : Int) := by
  obtain ⟨hfield, hworth⟩ := magnitude_fieldOfRatio hi
  obtain ⟨hnegative, hsame⟩ := negative_ofField (decide (i < 0)) hfield
  rw [ofInt, ofRatio, value, scaled_eq_magnitude, hnegative, hsame, hworth]
  split
  · next hneg =>
    have habs : (i.natAbs : Int) = -i := by
      have := of_decide_eq_true hneg
      omega
    rw [Nat.cast_mul, habs, Int.neg_mul, Int.neg_neg]
  · next hneg =>
    have habs : (i.natAbs : Int) = i := by
      have : ¬ i < 0 := fun hlt => hneg (decide_eq_true hlt)
      omega
    rw [Nat.cast_mul, habs]

/-- **Different small whole numbers are rounded to different numbers.** -/
theorem eq_of_equal_ofInt {i j : Int} (hi : i.natAbs ≤ 2 ^ 53) (hj : j.natAbs ≤ 2 ^ 53)
    (h : (ofInt i).equal (ofInt j) = true) : i = j := by
  have hrank : (ofInt i).rank = (ofInt j).rank := by
    simp only [equal, Bool.and_eq_true, beq_iff_eq] at h
    exact h.2
  have hlt := mt (rank_lt_rank_iff (ofInt i) (ofInt j)).2 (by omega)
  have hgt := mt (rank_lt_rank_iff (ofInt j) (ofInt i)).2 (by omega)
  have hvalue : (ofInt i).value = (ofInt j).value := by omega
  rw [value_ofInt hi, value_ofInt hj] at hvalue
  have hunit : ((1 <<< 1074 : Nat) : Int) ≠ 0 := by decide +kernel
  exact Int.eq_of_mul_eq_mul_right hunit hvalue

/-- From there on there are gaps. -/
example : (ofInt (2 ^ 53 + 1)).equal (ofInt (2 ^ 53)) = true := by decide +kernel

end LiveTable.Binary64
