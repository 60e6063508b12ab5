import Mathlib.Tactic.FieldSimp
import BootLayer.Json.Numeral
import BootLayer.Proofs.ShortestDigits

/-!
How far the two steps of reading go: digits are widened to a double, and the double is multiplied or
divided by a power of ten that is itself a double.

* `scale_of_nonneg`, `scale_of_neg`, `scale_of_deep`: the three ways to scale.  Below `10 ^ -308` it
  takes two divisions.
* `close_first_quotient`: the first of the two divisions together with what came before it moves a
  number no further than two roundings do, because `10 ^ 308` is nearly a double and because a
  quotient by it that has a large error comes from digits with a small one.
* `scale_near`: digits as they occur in shortest decimals are scaled to a magnitude at most two
  steps away from the nearest one.
* `scale_exact`: digits of at most `2 ^ 53` with an exponent between `-22` and `22` are scaled to
  the nearest one.
-/

namespace BootLayer.Json.Numeral

open Double

/-! ### Ways to scale -/

lemma scale_of_nonneg {k : Nat} (m : Nat) (hk : k ≤ 308)
    (hfinite : nearest (units m * units (powerOfTen k)) one < infMagnitude) :
    scale m k = some (nearest (units m * units (powerOfTen k)) one) := by
  have hpower : k ≤ maxPower := hk
  rw [scale, Int.natAbs_natCast, if_pos hpower, if_pos (Int.natCast_nonneg k)]
  exact if_pos hfinite

lemma scale_of_neg {k : Nat} (m : Nat) (hpos : 0 < k) (hk : k ≤ 308) :
    scale m (-k) = some (nearest (units m * one) (units (powerOfTen k))) := by
  have hpower : k ≤ maxPower := hk
  rw [scale, Int.natAbs_neg, Int.natAbs_natCast, if_pos hpower, if_neg (by omega)]
  rfl

/-- Below `10 ^ -308` there are two divisions. -/
lemma scale_of_deep {m k : Nat} (hm : m ≠ 0) (hpos : 0 < k) (hk : k ≤ 308) :
    scale m (-(308 + k : Nat)) =
      some (nearest (units (nearest (units m * one) (units (powerOfTen 308))) * one)
        (units (powerOfTen k))) := by
  rw [scale, Int.natAbs_neg, Int.natAbs_natCast, if_neg (by rw [maxPower]; omega), if_neg hm,
    if_neg (by omega), show -((308 + k : Nat) : Int) + (maxPower : Nat) = -(k : Int) by
      rw [maxPower]; omega]
  exact scale_of_neg _ hpos hk

/-! ### Widening -/

/-- The 53 bits of the double `10 ^ 308`. -/
def topBits : Nat := 0x11CCF385EBC8A0

/-- The double `10 ^ 308`, computed: it is finite, its bits, its error from above and from below,
and that a quotient of three by it is of normal size. -/
lemma topPower_computed :
    10 ^ 308 < 2 ^ 1024 - 2 ^ 970 ∧
    units (powerOfTen 308) = topBits * 2 ^ 971 * one ∧
    units (powerOfTen 308) * (1000 * 2 ^ 53) ≤ (1000 * 2 ^ 53 + 99) * (10 ^ 308 * one) ∧
    10 ^ 308 * one * (1000 * 2 ^ 53) ≤ (1000 * 2 ^ 53 + 99) * units (powerOfTen 308) ∧
    10 * (2 ^ 52 * units (powerOfTen 308)) ≤ 29 * (one * one) := by
  decide +kernel

lemma ofNatMagnitude_lt_of_le {n : Nat} (hn : n ≤ 10 ^ 308) : ofNatMagnitude n < infMagnitude :=
  (ofNatMagnitude_lt_iff n).2 (hn.trans_lt topPower_computed.1)

lemma two_pow_le_one : 2 ^ 52 ≤ one := by
  have hpow : ∀ k, 52 ≤ k → 2 ^ 52 ≤ Nat.pow 2 k :=
    fun k hk => Nat.pow_le_pow_right (by norm_num) hk
  unfold one
  exact hpow 1074 (by norm_num)

lemma two_pow_le_mul_one {n : Nat} (hn : 0 < n) : 2 ^ 52 * 1 ≤ n * one := by
  rw [Nat.mul_one]
  exact two_pow_le_one.trans (Nat.le_mul_of_pos_left _ hn)

/-- Widening moves a number by at most one rounding. -/
lemma close_units_ofNatMagnitude {n : Nat} (hpos : 0 < n) (hn : n ≤ 10 ^ 308) :
    Close (1 + roundoff) (units (ofNatMagnitude n)) (n * one) := by
  have hclose := close_nearest Nat.one_pos (ofNatMagnitude_lt_of_le hn) (two_pow_le_mul_one hpos)
  rw [Nat.cast_one, div_one] at hclose
  exact_mod_cast hclose

lemma close_units_powerOfTen {k : Nat} (hk : k ≤ 308) :
    Close (1 + roundoff) (units (powerOfTen k)) (10 ^ k * one) := by
  have hclose := close_units_ofNatMagnitude (Nat.pow_pos (n := k) (show 0 < 10 by norm_num))
    (pow_le_pow_right₀ (by norm_num) hk)
  exact_mod_cast hclose

/-- Powers of ten up to `10 ^ 22` are doubles, since `5 ^ 22` has fewer than 53 bits. -/
lemma units_powerOfTen {k : Nat} (hk : k ≤ 22) : units (powerOfTen k) = 10 ^ k * one := by
  have hfive : 5 ^ k ≤ 2 ^ 53 := (pow_le_pow_right₀ (by norm_num) hk).trans (by norm_num)
  have hten : 10 ^ k = 5 ^ k * 2 ^ k := by rw [← Nat.mul_pow]
  rw [powerOfTen, Nat.pow_eq, hten, units_ofNatMagnitude hfive (by omega)]

lemma units_ofNatMagnitude_of_le {n : Nat} (hn : n ≤ 2 ^ 53) :
    units (ofNatMagnitude n) = n * one := by
  have h := units_ofNatMagnitude hn (Nat.zero_le 970)
  rwa [pow_zero, Nat.mul_one] at h

lemma units_ofNatMagnitude_pos {n : Nat} (hpos : 0 < n) (hn : n ≤ 10 ^ 308) :
    0 < units (ofNatMagnitude n) := by
  have hone : (0 : ℚ) < one := Nat.cast_pos.2 Double.one_pos
  have hn' : (0 : ℚ) < n := Nat.cast_pos.2 hpos
  have hclose := (close_units_ofNatMagnitude hpos hn).ge
  have hfactor : 0 < 1 + roundoff := by norm_num [roundoff]
  exact Nat.cast_pos.1 (pos_of_mul_pos_right ((mul_pos hn' hone).trans_le hclose) hfactor.le)

lemma ofNatMagnitude_ne_zero {n : Nat} (hpos : 0 < n) (hn : n ≤ 10 ^ 308) :
    ofNatMagnitude n ≠ 0 := by
  intro hzero
  have hunits := units_ofNatMagnitude_pos hpos hn
  rw [hzero] at hunits
  exact absurd hunits (by decide)

lemma units_powerOfTen_pos {k : Nat} (hk : k ≤ 308) : 0 < units (powerOfTen k) := by
  have hle : 10 ^ k ≤ 10 ^ 308 := pow_le_pow_right₀ (by norm_num) hk
  exact units_ofNatMagnitude_pos (Nat.pow_pos (by norm_num)) hle

/-! ### The first of two divisions -/

lemma units_topPower : units (powerOfTen 308) = topBits * 2 ^ 971 * one := topPower_computed.2.1

lemma close_of_mul_le {p t : Nat} (hle : p * (1000 * 2 ^ 53) ≤ (1000 * 2 ^ 53 + 99) * t)
    (hge : t * (1000 * 2 ^ 53) ≤ (1000 * 2 ^ 53 + 99) * p) :
    Close (1 + 99 / 1000 * roundoff) p t := by
  have hle' : (p : ℚ) * (1000 * 2 ^ 53) ≤ (1000 * 2 ^ 53 + 99) * t := by exact_mod_cast hle
  have hge' : (t : ℚ) * (1000 * 2 ^ 53) ≤ (1000 * 2 ^ 53 + 99) * p := by exact_mod_cast hge
  constructor
  · rw [roundoff]
    linarith
  · rw [roundoff]
    linarith

/-- The double `10 ^ 308` has a tenth of the error that a rounding can have. -/
lemma close_topPower :
    Close (1 + 99 / 1000 * roundoff) (units (powerOfTen 308)) ((10 ^ 308 * one : Nat) : ℚ) := by
  obtain ⟨-, -, hle, hge, -⟩ := topPower_computed
  exact close_of_mul_le hle hge

/-- A number whose 53 bits are at least those of `10 ^ 308` was widened with an error well below a
whole rounding. -/
lemma close_of_topBits_le {n k : Nat} {q : ℚ} (hn : topBits ≤ n)
    (herror : |(n : ℚ) * 2 ^ k - q| ≤ 2 ^ k / 2) :
    Close (1 + 9 / 10 * roundoff) ((n : ℚ) * 2 ^ k) q := by
  have hn' : (topBits : ℚ) ≤ n := Nat.cast_le.2 hn
  have hk : (0 : ℚ) < 2 ^ k := by positivity
  have hsize : (topBits : ℚ) * 2 ^ k ≤ n * 2 ^ k := mul_le_mul_of_nonneg_right hn' hk.le
  have hbelow := (abs_le.1 herror).2
  generalize (2 : ℚ) ^ k = w at *
  generalize (n : ℚ) * w = a at *
  norm_num [topBits] at hsize
  refine Close.of_abs_le (herror.trans ?_) (herror.trans ?_)
  · rw [roundoff]
    linarith
  · rw [roundoff]
    linarith

section

variable {n k j w o : Nat}

/-- A quotient of a number by one with greater 53 bits is on a grid with one bit less before it. -/
lemma lt_of_quotient {b : Nat} (ho : 0 < o) (hlt : n < b)
    (h : 2 ^ 52 * 2 ^ j * (b * 2 ^ w * o) ≤ n * 2 ^ k * o) : j + w + 52 < k := by
  have hb : 0 < b * o := Nat.mul_pos (Nat.zero_lt_of_lt hlt) ho
  have hpow : 2 ^ (j + w + 52) * (b * o) < 2 ^ k * (b * o) := by
    calc 2 ^ (j + w + 52) * (b * o) = 2 ^ 52 * 2 ^ j * (b * 2 ^ w * o) := by
          rw [pow_add, pow_add]
          ring
      _ ≤ n * 2 ^ k * o := h
      _ = 2 ^ k * (n * o) := by ring
      _ < 2 ^ k * (b * o) :=
          Nat.mul_lt_mul_of_pos_left (Nat.mul_lt_mul_of_pos_right hlt ho) (Nat.two_pow_pos k)
  exact (pow_lt_pow_iff_right₀ one_lt_two).1 (Nat.lt_of_mul_lt_mul_right hpow)

/-- Such a quotient is at least eight ninths of the greatest number on its grid. -/
lemma le_quotient (ho : 0 < o) (hn : 2 ^ 52 ≤ n) (hlt : j + w + 52 < k) :
    8 / 9 * 2 ^ 53 * 2 ^ j ≤
      ((n * 2 ^ k * o : Nat) : ℚ) / (topBits * 2 ^ w * o : Nat) := by
  have hpow : 2 ^ (j + w + 53) ≤ 2 ^ k := Nat.pow_le_pow_right (by norm_num) hlt
  have hnum : 2 ^ 105 * 2 ^ j * 2 ^ w * o ≤ n * 2 ^ k * o := by
    refine Nat.mul_le_mul_right o ?_
    calc 2 ^ 105 * 2 ^ j * 2 ^ w = 2 ^ 52 * 2 ^ (j + w + 53) := by
          rw [pow_add, pow_add]
          ring
      _ ≤ n * 2 ^ k := Nat.mul_le_mul hn hpow
  have hnum' : (2 : ℚ) ^ 105 * 2 ^ j * 2 ^ w * o ≤ (n * 2 ^ k * o : Nat) := by
    exact_mod_cast hnum
  have ho' : (0 : ℚ) < o := Nat.cast_pos.2 ho
  have hden : (0 : ℚ) < (topBits * 2 ^ w * o : Nat) := by
    rw [Nat.cast_pos]
    exact Nat.mul_pos (Nat.mul_pos (by norm_num [topBits]) (Nat.two_pow_pos w)) ho
  rw [le_div_iff₀ hden]
  refine le_trans ?_ hnum'
  have hpos : (0 : ℚ) < 2 ^ j * 2 ^ w * o := by positivity
  push_cast
  calc (8 / 9 * 2 ^ 53 * 2 ^ j * (topBits * 2 ^ w * o) : ℚ)
      = 8 / 9 * 2 ^ 53 * topBits * (2 ^ j * 2 ^ w * o) := by ring
    _ ≤ 2 ^ 105 * (2 ^ j * 2 ^ w * o) :=
        mul_le_mul_of_nonneg_right (by norm_num [topBits]) hpos.le
    _ = 2 ^ 105 * 2 ^ j * 2 ^ w * o := by ring

/-- So its rounding has little more than half the error that a rounding can have. -/
lemma close_of_lt_topBits {b : Nat} (ho : 0 < o) (hn : 2 ^ 52 ≤ n) (hlt : n < topBits)
    (hquot : 2 ^ 52 * 2 ^ j ≤ ((n * 2 ^ k * o : Nat) : ℚ) / (topBits * 2 ^ w * o : Nat))
    (herror : |(b : ℚ) * 2 ^ j - (n * 2 ^ k * o : Nat) / (topBits * 2 ^ w * o : Nat)| ≤
      2 ^ j / 2) :
    Close (1 + 6 / 10 * roundoff) ((b : ℚ) * 2 ^ j)
      ((n * 2 ^ k * o : Nat) / (topBits * 2 ^ w * o : Nat)) := by
  have hden : 0 < topBits * 2 ^ w * o :=
    Nat.mul_pos (Nat.mul_pos (by norm_num [topBits]) (Nat.two_pow_pos w)) ho
  have hgrid : 2 ^ 52 * 2 ^ j * (topBits * 2 ^ w * o) ≤ n * 2 ^ k * o := by
    rw [le_div_iff₀ (Nat.cast_pos.2 hden)] at hquot
    exact_mod_cast hquot
  have hsize := le_quotient ho hn (lt_of_quotient ho hlt hgrid)
  have hbelow := (abs_le.1 herror).1
  generalize ((n * 2 ^ k * o : Nat) : ℚ) / (topBits * 2 ^ w * o : Nat) = q at *
  have hj : (0 : ℚ) < 2 ^ j := by positivity
  refine Close.of_abs_le (herror.trans ?_) (herror.trans ?_)
  · rw [roundoff]
    linarith
  · rw [roundoff]
    linarith

end

/-- A quotient that is not above a finite magnitude is rounded to a finite one. -/
lemma nearest_lt_infMagnitude_of_le {num den m : Nat} (hden : 0 < den) (hm : m < infMagnitude)
    (h : num ≤ units m * den) : nearest num den < infMagnitude := by
  have hself : nearest (units m) 1 < infMagnitude := by rwa [nearest_units hm]
  rw [nearest_lt_infMagnitude_iff Nat.one_pos, Nat.mul_one] at hself
  rw [nearest_lt_infMagnitude_iff hden]
  exact h.trans_lt (Nat.mul_lt_mul_of_pos_right hself hden)

lemma one_le_topPower : one ≤ units (powerOfTen 308) := by
  have hpow : ∀ k, one ≤ topBits * 2 ^ k * one := fun k =>
    Nat.le_mul_of_pos_left _ (Nat.mul_pos (by norm_num [topBits]) (Nat.two_pow_pos k))
  rw [units_topPower]
  exact hpow 971

/-- The first quotient is of normal size as soon as the digits are at least three. -/
lemma normal_first_quotient {n : Nat} (hn : 3 ≤ n) (hle : n ≤ 10 ^ 308) :
    2 ^ 52 * units (powerOfTen 308) ≤ units (ofNatMagnitude n) * one := by
  have hone := Double.one_pos
  have hclose := (close_units_ofNatMagnitude (by omega) hle).ge
  obtain ⟨-, -, -, -, hpower⟩ := topPower_computed
  generalize units (ofNatMagnitude n) = u at *
  generalize units (powerOfTen 308) = p at *
  generalize one = o at *
  have ho : (0 : ℚ) < o := Nat.cast_pos.2 hone
  have hthree : (3 : ℚ) * o ≤ n * o := mul_le_mul_of_nonneg_right (by exact_mod_cast hn) ho.le
  have hsize : 29 * o ≤ 10 * u := by
    have hsize' : (29 : ℚ) * o ≤ 10 * u := by
      norm_num [roundoff] at hclose
      linarith
    exact_mod_cast hsize'
  have hscaled : 29 * (o * o) ≤ 10 * (u * o) := by
    calc 29 * (o * o) = 29 * o * o := by ring
      _ ≤ 10 * u * o := Nat.mul_le_mul_right o hsize
      _ = 10 * (u * o) := by ring
  omega

/-- A quotient of numbers that are close to others. -/
lemma close_quotient {c c' s a p t o : ℚ} (hs : Close c s a) (hp : Close c' p (t * o))
    (hs₀ : 0 ≤ s) (ha₀ : 0 ≤ a) (hp₀ : 0 < p) (ht₀ : 0 < t) (ho₀ : 0 < o) :
    Close (c * c') (s * o / p) (a / t) := by
  have hnum := hs.mul (Close.refl o) hs₀ ho₀.le ha₀ ho₀.le
  have hquot := hnum.div hp (mul_nonneg hs₀ ho₀.le) (mul_nonneg ha₀ ho₀.le) hp₀ (mul_pos ht₀ ho₀)
  rwa [mul_one, mul_div_mul_right _ _ ho₀.ne'] at hquot

/-- A product of numbers that are close to others. -/
lemma close_product {c c' s a p t o : ℚ} (hs : Close c s (a * o)) (hp : Close c' p (t * o))
    (hs₀ : 0 ≤ s) (ha₀ : 0 ≤ a) (hp₀ : 0 ≤ p) (ht₀ : 0 ≤ t) (ho₀ : 0 < o) :
    Close (c * c') (s * p / o) (a * t * o) := by
  have hnum := hs.mul hp hs₀ hp₀ (mul_nonneg ha₀ ho₀.le) (mul_nonneg ht₀ ho₀.le)
  have hquot := hnum.div (Close.refl o) (mul_nonneg hs₀ hp₀)
    (mul_nonneg (mul_nonneg ha₀ ho₀.le) (mul_nonneg ht₀ ho₀.le)) ho₀ ho₀
  rwa [mul_one, ← mul_assoc, mul_div_assoc _ o o, div_self ho₀.ne', mul_one, mul_right_comm]
    at hquot

/-- Three small errors that make up two roundings: of a quotient, of its numerator and of its
denominator. -/
lemma close_of_three {c c' r s a : ℚ} {o p t : Nat} (ho : 0 < o) (hp : 0 < p) (ht : 0 < t)
    (hpower : Close (1 + 99 / 1000 * roundoff) p (t * o : Nat)) (hr : Close c r (s * o / p))
    (hs : Close c' s a) (hr₀ : 0 ≤ r) (hs₀ : 0 ≤ s) (ha₀ : 0 ≤ a) (hc : 0 ≤ c) (hc' : 0 ≤ c')
    (hfactor : c * (c' * (1 + 99 / 1000 * roundoff)) ≤ (1 + roundoff) ^ 2) :
    Close ((1 + roundoff) ^ 2) r (a / t) := by
  have ht' : (0 : ℚ) < t := Nat.cast_pos.2 ht
  have hroundoff := roundoff_pos
  rw [Nat.cast_mul] at hpower
  have hquot := close_quotient hs hpower hs₀ ha₀ (Nat.cast_pos.2 hp) ht' (Nat.cast_pos.2 ho)
  exact (hr.trans hquot hc (by positivity)).mono hfactor hr₀ (div_nonneg ha₀ ht'.le)

/-- **The first of two divisions and what came before it move a number by no more than two roundings
do.**  The bits of the widened digits are compared with those of `10 ^ 308`: if they are not below,
the digits were widened with less than a whole rounding; if they are, the quotient just misses a
power of two, and its rounding is the small one. -/
lemma close_first_quotient {n : Nat} (hn : 3 ≤ n) (hle : n ≤ 10 ^ 308) :
    Close ((1 + roundoff) ^ 2)
      (units (nearest (units (ofNatMagnitude n) * one) (units (powerOfTen 308))))
      ((n * one : Nat) / (10 ^ 308 : Nat)) := by
  have hone := Double.one_pos
  have hpower : 0 < units (powerOfTen 308) := hone.trans_le one_le_topPower
  have hwidened := ofNatMagnitude_lt_of_le hle
  have hfinite : nearest (units (ofNatMagnitude n) * one) (units (powerOfTen 308)) <
      infMagnitude :=
    nearest_lt_infMagnitude_of_le hpower hwidened (Nat.mul_le_mul_left _ one_le_topPower)
  have hnormal := normal_first_quotient hn hle
  obtain ⟨b, k, hunits, hb, -, herror⟩ :=
    exists_grid_of_normal Nat.one_pos hwidened (two_pow_le_mul_one (show 0 < n by omega))
  obtain ⟨b', j, hunits', -, hquot, herror'⟩ := exists_grid_of_normal hpower hfinite hnormal
  have hwide : units (ofNatMagnitude n) = b * 2 ^ k := hunits
  have hten : 0 < 10 ^ 308 := by positivity
  rcases Nat.lt_or_ge b topBits with hlt | hge
  · have hsmall : Close (1 + 6 / 10 * roundoff)
        (units (nearest (units (ofNatMagnitude n) * one) (units (powerOfTen 308))))
        ((units (ofNatMagnitude n) * one : Nat) / units (powerOfTen 308)) := by
      rw [hwide, units_topPower] at hquot herror' hunits' ⊢
      rw [hunits', Nat.cast_mul b', Nat.cast_pow, Nat.cast_two]
      exact close_of_lt_topBits hone hb hlt hquot herror'
    rw [Nat.cast_mul] at hsmall
    have hwidening := close_units_ofNatMagnitude (show 0 < n by omega) hle
    rw [← Nat.cast_mul] at hwidening
    exact close_of_three hone hpower hten close_topPower hsmall hwidening (Nat.cast_nonneg _)
      (Nat.cast_nonneg _) (Nat.cast_nonneg _) (by norm_num [roundoff]) (by norm_num [roundoff])
      (by norm_num [roundoff])
  · have hsmall : Close (1 + 9 / 10 * roundoff) (units (ofNatMagnitude n))
        ((n * one : Nat) : ℚ) := by
      rw [Nat.cast_one, div_one] at herror
      rw [hwide, Nat.cast_mul b, Nat.cast_pow, Nat.cast_two]
      exact close_of_topBits_le hge herror
    have hrounding := close_nearest hpower hfinite hnormal
    rw [Nat.cast_mul] at hrounding
    exact close_of_three hone hpower hten close_topPower hrounding hsmall (Nat.cast_nonneg _)
      (Nat.cast_nonneg _) (Nat.cast_nonneg _) (by norm_num [roundoff]) (by norm_num [roundoff])
      (by norm_num [roundoff])

/-! ### The error of scaling -/

lemma magnitude_nonneg (n k : Nat) :
    Decimal.magnitude ⟨n, k⟩ = nearest (n * 10 ^ k * one) 1 := by
  rw [Decimal.magnitude_eq, Decimal.numerator, Decimal.denominator, Int.toNat_natCast,
    Int.toNat_neg_natCast, pow_zero]

lemma magnitude_neg (n k : Nat) :
    Decimal.magnitude ⟨n, -k⟩ = nearest (n * one) (10 ^ k) := by
  rw [Decimal.magnitude_eq, Decimal.numerator, Decimal.denominator, neg_neg, Int.toNat_natCast,
    Int.toNat_neg_natCast, pow_zero, Nat.mul_one]

section

variable {n k : Nat} (hpos : 0 < n) (hn : n ≤ 10 ^ 308)

include hpos hn

lemma dist_product_le (hk : k ≤ 308)
    (hfinite : Decimal.magnitude ⟨n, k⟩ < infMagnitude) :
    Nat.dist (nearest (units (ofNatMagnitude n) * units (powerOfTen k)) one)
      (Decimal.magnitude ⟨n, k⟩) ≤ 2 := by
  rw [magnitude_nonneg] at hfinite ⊢
  refine dist_nearest_le_two Nat.one_pos Double.one_pos hfinite ?_
  have hproduct := close_product (close_units_ofNatMagnitude hpos hn) (close_units_powerOfTen hk)
    (Nat.cast_nonneg _) (Nat.cast_nonneg _) (Nat.cast_nonneg _) (pow_nonneg (by norm_num) k)
    (Nat.cast_pos.2 Double.one_pos)
  rw [← sq] at hproduct
  rw [Nat.cast_one, div_one]
  exact_mod_cast hproduct

lemma dist_quotient_le (hk : k ≤ 308)
    (hfinite : Decimal.magnitude ⟨n, -k⟩ < infMagnitude) :
    Nat.dist (nearest (units (ofNatMagnitude n) * one) (units (powerOfTen k)))
      (Decimal.magnitude ⟨n, -k⟩) ≤ 2 := by
  have hpower := units_powerOfTen_pos hk
  rw [magnitude_neg] at hfinite ⊢
  refine dist_nearest_le_two (Nat.pow_pos (by norm_num)) hpower hfinite ?_
  have hquot := close_quotient (close_units_ofNatMagnitude hpos hn) (close_units_powerOfTen hk)
    (Nat.cast_nonneg _) (mul_nonneg (Nat.cast_nonneg _) (Nat.cast_nonneg _))
    (Nat.cast_pos.2 hpower) (pow_pos (by norm_num) k) (Nat.cast_pos.2 Double.one_pos)
  rw [← sq] at hquot
  exact_mod_cast hquot

end

/-- The digits one and two, whose first quotient is too small to be of normal size. -/
lemma dist_deep_of_small : ∀ k < 17, ∀ n < 3, 0 < n →
    Nat.dist (nearest (units (nearest (units (ofNatMagnitude n) * one) (units (powerOfTen 308)))
      * one) (units (powerOfTen k))) (Decimal.magnitude ⟨n, -(308 + k : Nat)⟩) ≤ 2 := by
  decide +kernel

/-- The second division is by a power of ten that is a double, so only its rounding adds to the
error of the first one. -/
lemma dist_deep_le {n k : Nat} (hpos : 0 < n) (hn : n ≤ 10 ^ 308) (hk : k < 17)
    (hfinite : Decimal.magnitude ⟨n, -(308 + k : Nat)⟩ < infMagnitude) :
    Nat.dist (nearest (units (nearest (units (ofNatMagnitude n) * one) (units (powerOfTen 308)))
      * one) (units (powerOfTen k))) (Decimal.magnitude ⟨n, -(308 + k : Nat)⟩) ≤ 2 := by
  rcases Nat.lt_or_ge n 3 with hsmall | hlarge
  · exact dist_deep_of_small k hk n hsmall hpos
  · rw [magnitude_neg] at hfinite ⊢
    rw [units_powerOfTen (show k ≤ 22 by omega), nearest_mul_right _ _ Double.one_pos]
    have hpow : ∀ j, 0 < 10 ^ j := fun j => Nat.pow_pos (by norm_num)
    refine dist_nearest_le_two (hpow (308 + k)) (hpow k) hfinite ?_
    have hk₀ : (0 : ℚ) < (10 ^ k : Nat) := Nat.cast_pos.2 (hpow k)
    have hfirst := close_first_quotient hlarge hn
    rw [pow_add, Nat.cast_mul (10 ^ 308), ← div_div]
    have hquot := hfirst.div (Close.refl _) (Nat.cast_nonneg _)
      (div_nonneg (Nat.cast_nonneg _) (Nat.cast_nonneg _)) hk₀ hk₀
    rwa [mul_one] at hquot

/-- **Digits as they occur in shortest decimals are scaled to a magnitude at most two steps away
from the nearest one**, unless that is infinite. -/
theorem scale_near {d : Decimal} (hd : d.Bounded) (hfinite : d.magnitude < infMagnitude) :
    ∃ m, Nat.dist m d.magnitude ≤ 2 ∧
      (m < infMagnitude → scale (ofNatMagnitude d.digits) d.exponent = some m) := by
  obtain ⟨n, e⟩ := d
  obtain ⟨hpos, hdigits, hlow, hhigh⟩ := hd
  dsimp only at hpos hdigits hlow hhigh ⊢
  have hpow : ∀ k, 17 ≤ k → 10 ^ 17 ≤ 10 ^ k := fun k hk => Nat.pow_le_pow_right (by norm_num) hk
  have hn : n ≤ 10 ^ 308 := hdigits.trans (hpow 308 (by norm_num))
  rcases lt_or_ge e 0 with hneg | hnonneg
  · rcases lt_or_ge e (-308) with hdeep | hshallow
    · obtain ⟨k, rfl⟩ : ∃ k : Nat, e = -(308 + k : Nat) := ⟨(-e - 308).toNat, by omega⟩
      exact ⟨_, dist_deep_le hpos hn (by omega) hfinite, fun _ =>
        scale_of_deep (ofNatMagnitude_ne_zero hpos hn) (by omega) (by omega)⟩
    · obtain ⟨k, rfl⟩ : ∃ k : Nat, e = -(k : Int) := ⟨(-e).toNat, by omega⟩
      exact ⟨_, dist_quotient_le hpos hn (by omega) hfinite, fun _ =>
        scale_of_neg _ (by omega) (by omega)⟩
  · obtain ⟨k, rfl⟩ := Int.eq_ofNat_of_zero_le hnonneg
    exact ⟨_, dist_product_le hpos hn (by omega) hfinite, scale_of_nonneg _ (by omega)⟩

/-- **Digits of at most `2 ^ 53` with an exponent between `-22` and `22` are scaled to the nearest
magnitude**, since digits and power are both doubles. -/
theorem scale_exact {d : Decimal} (hdigits : d.digits ≤ 2 ^ 53) (hexponent : d.exponent.natAbs ≤ 22)
    (hfinite : d.magnitude < infMagnitude) :
    scale (ofNatMagnitude d.digits) d.exponent = some d.magnitude := by
  obtain ⟨n, e⟩ := d
  dsimp only at hdigits hexponent ⊢
  have hunits := units_ofNatMagnitude_of_le hdigits
  rcases lt_or_ge e 0 with hneg | hnonneg
  · obtain ⟨k, rfl⟩ : ∃ k : Nat, e = -(k : Int) := ⟨(-e).toNat, by omega⟩
    rw [scale_of_neg _ (by omega) (by omega), hunits, units_powerOfTen (by omega),
      nearest_mul_right _ _ Double.one_pos, magnitude_neg]
  · obtain ⟨k, rfl⟩ := Int.eq_ofNat_of_zero_le hnonneg
    have hproduct : nearest (units (ofNatMagnitude n) * units (powerOfTen k)) one =
        Decimal.magnitude ⟨n, k⟩ := by
      rw [hunits, units_powerOfTen (by omega), magnitude_nonneg]
      refine nearest_congr Double.one_pos Nat.one_pos ?_
      ring
    rw [← hproduct] at hfinite ⊢
    exact scale_of_nonneg _ (by omega) hfinite

end BootLayer.Json.Numeral
