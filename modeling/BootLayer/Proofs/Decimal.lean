import Mathlib.Tactic.Ring
import Mathlib.Tactic.NormNum
import Mathlib.Tactic.Positivity
import Mathlib.Algebra.Order.Ring.Nat
import Mathlib.Data.List.TakeWhile
import BootLayer.Number.Layout
import BootLayer.Proofs.Rounding

/-!
The exact value of a decimal, and the double nearest to it.

A decimal is the quotient of its `numerator` and its `denominator`.  `magnitude_eq` says that its
magnitude is the one nearest to that quotient, whatever the exponent, and `magnitude_congr` that
decimals of the same value have the same magnitude.  From this follow

* `magnitude_reduce`, `magnitude_exact`: dropping zeros changes nothing, and the exact value of a
  finite magnitude reads back as it;
* `magnitude_shortest`: the shortest digits read back as the magnitude they were found for.
-/

namespace BootLayer.Decimal

/-! ### Value -/

/-- The numerator of a decimal, over its `denominator`. -/
def numerator (d : Decimal) : Nat := d.digits * 10 ^ d.exponent.toNat

/-- The denominator of a decimal: the power of ten for the places after the point. -/
def denominator (d : Decimal) : Nat := 10 ^ (-d.exponent).toNat

/-- Two decimals have the same value. -/
def SameValue (d e : Decimal) : Prop := d.numerator * e.denominator = e.numerator * d.denominator

lemma denominator_pos (d : Decimal) : 0 < d.denominator := Nat.pow_pos (by norm_num)

lemma SameValue.refl (d : Decimal) : SameValue d d := rfl

lemma SameValue.trans {d e f : Decimal} (h : SameValue d e) (h' : SameValue e f) :
    SameValue d f := by
  refine Nat.eq_of_mul_eq_mul_right e.denominator_pos ?_
  calc d.numerator * f.denominator * e.denominator
      = d.numerator * e.denominator * f.denominator := by ring
    _ = e.numerator * f.denominator * d.denominator := by rw [h]; ring
    _ = f.numerator * d.denominator * e.denominator := by rw [h']; ring

/-- One more zero among the digits makes up for one less in the exponent. -/
lemma sameValue_ten_mul (n : Nat) (e : Int) : SameValue ⟨10 * n, e⟩ ⟨n, e + 1⟩ := by
  simp only [SameValue, numerator, denominator]
  rcases lt_or_ge e 0 with he | he
  · rw [show e.toNat = 0 by omega, show (e + 1).toNat = 0 by omega,
      show (-e).toNat = (-(e + 1)).toNat + 1 by omega, pow_succ]
    ring
  · rw [show (-e).toNat = 0 by omega, show (-(e + 1)).toNat = 0 by omega,
      show (e + 1).toNat = e.toNat + 1 by omega, pow_succ]
    ring

/-- As many zeros among the digits as there are in the power make up for its exponent. -/
lemma sameValue_mul_pow (n k : Nat) (e : Int) : SameValue ⟨n * 10 ^ k, e⟩ ⟨n, e + k⟩ := by
  induction k generalizing e with
  | zero => simpa using SameValue.refl ⟨n, e⟩
  | succ k ih =>
      have hstep := sameValue_ten_mul (n * 10 ^ k) e
      have hrest := ih (e + 1)
      rw [show e + 1 + (k : Int) = e + ((k + 1 : Nat) : Int) by push_cast; ring] at hrest
      rw [show n * 10 ^ (k + 1) = 10 * (n * 10 ^ k) by rw [pow_succ]; ring]
      exact hstep.trans hrest

/-! ### The nearest magnitude -/

/-- A number has fewer than ten to the number of its digits. -/
lemma lt_pow_length_toDigits (n : Nat) : n < 10 ^ (Nat.toDigits 10 n).length :=
  (Nat.length_toDigits_le_iff (by norm_num) Nat.length_toDigits_pos).1 le_rfl

lemma two_pow_le_ten_pow : 2 ^ 2098 ≤ 10 ^ 401 * Double.one := by decide +kernel

lemma two_mul_one_lt_ten_pow : 2 * Double.one < 10 ^ 401 := by decide +kernel

/-- Past the exponent 400 everything but zero is infinite. -/
lemma nearest_of_large_exponent {d : Decimal} (hd : d.digits ≠ 0) (he : 400 < d.exponent) :
    Double.nearest (d.numerator * Double.one) d.denominator = Double.infMagnitude := by
  have hden : d.denominator = 1 := by
    rw [denominator, show (-d.exponent).toNat = 0 by omega, pow_zero]
  have hnum : 10 ^ 401 ≤ d.numerator := by
    calc 10 ^ 401 ≤ 10 ^ d.exponent.toNat := pow_le_pow_right₀ (by norm_num) (by omega)
      _ ≤ d.numerator := Nat.le_mul_of_pos_left _ (Nat.pos_of_ne_zero hd)
  refine Double.nearest_of_huge ?_
  rw [hden, Nat.div_one]
  exact two_pow_le_ten_pow.trans (Nat.mul_le_mul_right _ hnum)

/-- A number with its first digit more than 400 places after the point is nearest to zero. -/
lemma nearest_of_small_exponent {d : Decimal}
    (he : d.exponent + (Nat.toDigits 10 d.digits).length < -400) :
    Double.nearest (d.numerator * Double.one) d.denominator = 0 := by
  have hnum : d.numerator = d.digits := by
    rw [numerator, show d.exponent.toNat = 0 by omega, pow_zero, Nat.mul_one]
  have hden : 10 ^ (Nat.toDigits 10 d.digits).length * 10 ^ 401 ≤ d.denominator := by
    rw [denominator, ← pow_add]
    exact Nat.pow_le_pow_right (by norm_num) (by omega)
  refine Double.nearest_of_tiny (lt_of_lt_of_le ?_ hden)
  rw [hnum]
  calc 2 * (d.digits * Double.one) = d.digits * (2 * Double.one) := by ring
    _ ≤ d.digits * 10 ^ 401 := Nat.mul_le_mul_left _ two_mul_one_lt_ten_pow.le
    _ < 10 ^ (Nat.toDigits 10 d.digits).length * 10 ^ 401 :=
        Nat.mul_lt_mul_of_pos_right (lt_pow_length_toDigits _) (by positivity)

/-- **The magnitude of a decimal is the one nearest to its value**, also where the size of the
exponent alone decides it. -/
theorem magnitude_eq (d : Decimal) :
    d.magnitude = Double.nearest (d.numerator * Double.one) d.denominator := by
  rw [magnitude]
  split_ifs with hzero hbig hsmall hsign
  · have hnum : d.numerator * Double.one = 0 := by rw [numerator, hzero, Nat.zero_mul, Nat.zero_mul]
    rw [hnum, Double.nearest_of_tiny]
    exact d.denominator_pos
  · exact (nearest_of_large_exponent hzero hbig).symm
  · exact (nearest_of_small_exponent hsmall).symm
  · rw [denominator, show (-d.exponent).toNat = 0 by omega]
    rfl
  · rw [numerator, show d.exponent.toNat = 0 by omega, pow_zero, Nat.mul_one]
    rfl

/-- Decimals of the same value have the same magnitude. -/
lemma magnitude_congr {d e : Decimal} (h : SameValue d e) : d.magnitude = e.magnitude := by
  rw [magnitude_eq, magnitude_eq]
  refine Double.nearest_congr d.denominator_pos e.denominator_pos ?_
  rw [Nat.mul_right_comm, h, Nat.mul_right_comm]

/-! ### Shortest digits -/

/-- Zeros at the end of the digits do not count. -/
lemma sameValue_reduce (d : Decimal) : SameValue d d.reduce := by
  fun_induction reduce d with
  | case1 d h ih =>
      have hten : 10 * (d.digits / 10) = d.digits := by omega
      have hstep := sameValue_ten_mul (d.digits / 10) d.exponent
      rw [hten] at hstep
      exact hstep.trans ih
  | case2 d h => exact SameValue.refl d

lemma magnitude_reduce (d : Decimal) : d.reduce.magnitude = d.magnitude :=
  (magnitude_congr (sameValue_reduce d)).symm

/-- Digits that turn a power of ten into units give a whole number of units. -/
lemma magnitude_of_units {a : Nat} {e : Int} (u : Nat) (he : e ≤ 0)
    (ha : a * Double.one = 10 ^ (-e).toNat) : magnitude ⟨u * a, e⟩ = Double.nearest u 1 := by
  have hnum : numerator ⟨u * a, e⟩ * Double.one = u * 10 ^ (-e).toNat := by
    simp only [numerator]
    rw [show e.toNat = 0 by omega, pow_zero, Nat.mul_one, Nat.mul_assoc, ha]
  have hden : denominator ⟨u * a, e⟩ = 1 * 10 ^ (-e).toNat := (Nat.one_mul _).symm
  rw [magnitude_eq, hnum, hden, Double.nearest_mul_right _ _ (Nat.pow_pos (by norm_num))]

lemma five_pow_mul_one : Nat.pow 5 1074 * Double.one = 10 ^ (-(-1074 : Int)).toNat := by
  decide +kernel

/-- The exact value of a finite magnitude reads back as it. -/
lemma magnitude_exact {m : Nat} (hm : m < Double.infMagnitude) : (exact m).magnitude = m := by
  rw [exact, magnitude_reduce, magnitude_of_units _ (by decide) five_pow_mul_one,
    Double.nearest_units hm]

/-- What is found on a grid reads back. -/
lemma magnitude_of_shortestOn {tie : Tie} {m count : Nat} {d : Decimal}
    (h : shortestOn tie m count = some d) : d.magnitude = m := by
  unfold shortestOn at h
  extract_lets value whole size step lower exponent below above twice middle nearer at h
  -- which digits the candidates have does not count, only that they were read back
  clear_value below above
  split_ifs at h with hbelow hpick habove
  · rw [← Option.some.inj h]
    exact hpick.1
  · rw [← Option.some.inj h]
    exact hbelow
  · rw [← Option.some.inj h]
    exact habove

/-- **The shortest digits read back** as the magnitude they were found for. -/
theorem magnitude_shortest (tie : Tie) {m : Nat} (hm : m < Double.infMagnitude) :
    (shortest tie m).magnitude = m := by
  rw [shortest]
  cases hfound : (List.range 17).findSome? fun i => shortestOn tie m (i + 1) with
  | none => rw [Option.elim_none, magnitude_exact hm]
  | some d =>
      obtain ⟨i, -, hi⟩ := List.exists_of_findSome?_eq_some hfound
      rw [Option.elim_some, magnitude_reduce, magnitude_of_shortestOn hi]

end BootLayer.Decimal
