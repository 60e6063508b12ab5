import Mathlib.Tactic.Ring
import Mathlib.Tactic.NormNum
import Mathlib.Algebra.Order.Ring.Nat
import BootLayer.Number.Double

/-!
Rounding to the nearest double depends on the exact value alone and fixes what a double can hold.

* `nearest_mul_right`: a quotient and its expansions round alike.
* `nearest_units`: every finite magnitude is the one nearest to its own value.
* `nearest_of_huge`, `nearest_of_tiny`: from `2 ^ 1024` on the nearest magnitude is that of
  infinity, and below half a unit it is zero.
* `nearest_eq_zero_iff`: a quotient rounds to zero exactly up to half a unit.
* `nearest_lt_infMagnitude_iff`: a quotient rounds to a finite magnitude exactly below the middle
  between the greatest one and `2 ^ 1024`; for integers this is `isFinite_ofInt_iff`.
* `ofParts_self`, `magnitude_ofParts`, `negative_ofParts`: a double is made of its sign and its
  magnitude.
-/

namespace BootLayer.Double

/-! ### The definitions in powers -/

lemma units_of_lt {m : Nat} (h : m < 2 ^ 52) : units m = m := if_pos h

/-- Above the subnormal magnitudes the lower bits follow a leading one. -/
lemma units_of_le {m : Nat} (h : 2 ^ 52 ≤ m) :
    units m = (2 ^ 52 + m % 2 ^ 52) * 2 ^ (m / 2 ^ 52 - 1) := if_neg (Nat.not_lt.2 h)

/-- The grid on which a quotient is rounded has a width of `2 ^ gridExponent` units. -/
def gridExponent (num den : Nat) : Nat := (num / den).log2 - 52

lemma nearest_eq (num den : Nat) :
    nearest num den =
      min (gridExponent num den * 2 ^ 52 + roundHalfEven num (den * 2 ^ gridExponent num den))
        infMagnitude := rfl

/-! ### Rounding to an integer -/

lemma roundHalfEven_eq (num den : Nat) :
    roundHalfEven num den =
      if 2 * (num % den) < den then num / den
      else if den < 2 * (num % den) then num / den + 1 else num / den + num / den % 2 := rfl

/-- Only the quotient counts. -/
lemma roundHalfEven_mul_right (num den : Nat) {c : Nat} (hc : 0 < c) :
    roundHalfEven (num * c) (den * c) = roundHalfEven num den := by
  have hlt : 2 * (num % den * c) < den * c ↔ 2 * (num % den) < den := by
    rw [← Nat.mul_assoc]
    exact Nat.mul_lt_mul_right hc
  have hgt : den * c < 2 * (num % den * c) ↔ den < 2 * (num % den) := by
    rw [← Nat.mul_assoc]
    exact Nat.mul_lt_mul_right hc
  simp only [roundHalfEven_eq, Nat.mul_div_mul_right _ _ hc, Nat.mul_mod_mul_right, hlt, hgt]

/-- An integer stays as it is. -/
lemma roundHalfEven_mul_self (q : Nat) {den : Nat} (h : 0 < den) :
    roundHalfEven (q * den) den = q := by
  rw [roundHalfEven_eq, Nat.mul_mod_left, Nat.mul_div_left _ h, if_pos (by omega)]

lemma div_le_roundHalfEven (num den : Nat) : num / den ≤ roundHalfEven num den := by
  rw [roundHalfEven_eq]
  split_ifs <;> omega

/-- Less than a half goes to zero. -/
lemma roundHalfEven_of_tiny {num den : Nat} (h : 2 * num < den) : roundHalfEven num den = 0 := by
  have hlt : num < den := by omega
  rw [roundHalfEven_eq, Nat.mod_eq_of_lt hlt, if_pos h, Nat.div_eq_of_lt hlt]

lemma roundHalfEven_le_succ (num den : Nat) : roundHalfEven num den ≤ num / den + 1 := by
  rw [roundHalfEven_eq]
  split_ifs <;> omega

/-- What rounds to an odd number or less lies below the middle between it and the next number; the
middle itself goes up. -/
lemma roundHalfEven_le_iff {num den b : Nat} (hden : 0 < den) (hb : b % 2 = 1) :
    roundHalfEven num den ≤ b ↔ 2 * num < (2 * b + 1) * den := by
  have hdiv := Nat.div_add_mod num den
  have hmod := Nat.mod_lt num hden
  have hsplit : (2 * b + 1) * den = 2 * (den * b) + den := by ring
  rcases Nat.lt_trichotomy (num / den) b with h | h | h
  · have hle : den * (num / den + 1) ≤ den * b := Nat.mul_le_mul_left den h
    rw [Nat.mul_add, Nat.mul_one] at hle
    exact iff_of_true ((roundHalfEven_le_succ num den).trans h) (by omega)
  · rw [roundHalfEven_eq, h]
    rw [h] at hdiv
    split_ifs <;> omega
  · have hle : den * (b + 1) ≤ den * (num / den) := Nat.mul_le_mul_left den h
    rw [Nat.mul_add, Nat.mul_one] at hle
    have hround := div_le_roundHalfEven num den
    exact iff_of_false (by omega) (by omega)

/-! ### Rounding to a magnitude -/

/-- Only the quotient counts. -/
lemma nearest_mul_right (num den : Nat) {c : Nat} (hc : 0 < c) :
    nearest (num * c) (den * c) = nearest num den := by
  have hgrid : gridExponent (num * c) (den * c) = gridExponent num den := by
    rw [gridExponent, gridExponent, Nat.mul_div_mul_right _ _ hc]
  rw [nearest_eq, nearest_eq, hgrid, Nat.mul_right_comm den c, roundHalfEven_mul_right _ _ hc]

/-- Quotients of the same value round alike. -/
lemma nearest_congr {num den num' den' : Nat} (hden : 0 < den) (hden' : 0 < den')
    (h : num * den' = num' * den) : nearest num den = nearest num' den' :=
  calc nearest num den = nearest (num * den') (den * den') :=
        (nearest_mul_right num den hden').symm
    _ = nearest (num' * den) (den' * den) := by rw [h, Nat.mul_comm den den']
    _ = nearest num' den' := nearest_mul_right num' den' hden

/-- Values on their own grid, `n` steps of `2 ^ k` units, are reached exactly. -/
lemma nearest_grid {n k : Nat} (hk : (n * 2 ^ k).log2 - 52 = k) :
    nearest (n * 2 ^ k) 1 = min (k * 2 ^ 52 + n) infMagnitude := by
  have hgrid : gridExponent (n * 2 ^ k) 1 = k := by rw [gridExponent, Nat.div_one, hk]
  rw [nearest_eq, hgrid, Nat.one_mul, roundHalfEven_mul_self n (Nat.two_pow_pos k)]

/-- **Every finite magnitude is nearest to its own value.** -/
theorem nearest_units {m : Nat} (hm : m < infMagnitude) : nearest (units m) 1 = m := by
  rcases Nat.lt_or_ge m (2 ^ 52) with h | h
  · -- a subnormal magnitude counts units, and the grid is that of the units
    have hlog : m.log2 < 52 := by
      rcases Nat.eq_zero_or_pos m with rfl | hpos
      · decide
      · exact (Nat.log2_lt (by omega)).2 h
    have hgrid := nearest_grid (n := m) (k := 0) (by rw [Nat.pow_zero, Nat.mul_one]; omega)
    rw [Nat.pow_zero, Nat.mul_one] at hgrid
    rw [units_of_lt h, hgrid, Nat.zero_mul, Nat.zero_add]
    exact Nat.min_eq_left (by omega)
  · -- a normal one is a significand of 53 bits on the grid of its exponent
    have hexp : 1 ≤ m / 2 ^ 52 := (Nat.one_le_div_iff (by norm_num)).2 h
    have hlog : ((2 ^ 52 + m % 2 ^ 52) * 2 ^ (m / 2 ^ 52 - 1)).log2 = 52 + (m / 2 ^ 52 - 1) := by
      have hlow : m % 2 ^ 52 < 2 ^ 52 := Nat.mod_lt _ (by norm_num)
      have hpos := Nat.two_pow_pos (m / 2 ^ 52 - 1)
      rw [Nat.log2_eq_iff (by positivity), pow_add, Nat.add_right_comm, pow_add]
      constructor
      · exact Nat.mul_le_mul_right _ (by omega)
      · exact Nat.mul_lt_mul_of_pos_right (by omega) hpos
    rw [units_of_le h, nearest_grid (by omega)]
    have hsplit := Nat.div_add_mod m (2 ^ 52)
    have hsum : (m / 2 ^ 52 - 1) * 2 ^ 52 + (2 ^ 52 + m % 2 ^ 52) = m := by
      rw [Nat.sub_mul]
      omega
    rw [hsum]
    exact Nat.min_eq_left hm.le

lemma le_log2_of_two_pow_le {n k : Nat} (h : 2 ^ k ≤ n) : n ≠ 0 ∧ k ≤ n.log2 := by
  have hpos := Nat.two_pow_pos k
  have hne : n ≠ 0 := by omega
  exact ⟨hne, (Nat.le_log2 hne).2 h⟩

/-- From `2 ^ 1024` on, in units, the nearest magnitude is that of infinity. -/
lemma nearest_of_huge {num den : Nat} (h : 2 ^ 2098 ≤ num / den) :
    nearest num den = infMagnitude := by
  obtain ⟨hne, hlog⟩ := le_log2_of_two_pow_le h
  have hk : 2046 ≤ gridExponent num den := by rw [gridExponent]; omega
  -- the rounded quotient keeps the 53 bits of the quotient on its grid
  have hround : 2 ^ 52 ≤ roundHalfEven num (den * 2 ^ gridExponent num den) := by
    refine le_trans ?_ (div_le_roundHalfEven _ _)
    rw [← Nat.div_div_eq_div_mul, Nat.le_div_iff_mul_le (Nat.two_pow_pos _), ← pow_add]
    refine le_trans (Nat.pow_le_pow_right (by norm_num) ?_) (Nat.log2_self_le hne)
    rw [gridExponent]
    omega
  rw [nearest_eq]
  refine Nat.min_eq_right ?_
  have hinf : infMagnitude = 2046 * 2 ^ 52 + 2 ^ 52 := by norm_num [infMagnitude]
  rw [hinf]
  exact Nat.add_le_add (Nat.mul_le_mul_right _ hk) hround

/-- Below half a unit the nearest magnitude is zero. -/
lemma nearest_of_tiny {num den : Nat} (h : 2 * num < den) : nearest num den = 0 := by
  have hgrid : gridExponent num den = 0 := by
    rw [gridExponent, Nat.div_eq_of_lt (by omega)]
    decide
  rw [nearest_eq, hgrid, Nat.pow_zero, Nat.mul_one, roundHalfEven_of_tiny h]
  decide

/-- **A quotient rounds to zero exactly up to half a unit**: of zero and the unit, zero is the even
one. -/
lemma nearest_eq_zero_iff {num den : Nat} (hden : 0 < den) :
    nearest num den = 0 ↔ 2 * num ≤ den := by
  have hinf : 0 < infMagnitude := by decide
  constructor
  · intro h
    have hgrid : gridExponent num den = 0 := by
      rw [nearest_eq] at h
      omega
    have hround : roundHalfEven num den = 0 := by
      rw [nearest_eq, hgrid, Nat.pow_zero, Nat.mul_one] at h
      omega
    have hzero : num / den = 0 := Nat.le_zero.1 (hround ▸ div_le_roundHalfEven num den)
    rw [roundHalfEven_eq, hzero, Nat.mod_eq_of_lt ((Nat.div_eq_zero_iff_lt hden).1 hzero)] at hround
    split_ifs at hround <;> omega
  · intro h
    rcases Nat.lt_or_eq_of_le h with hlt | rfl
    · exact nearest_of_tiny hlt
    · have hdiv : num / (2 * num) = 0 := Nat.div_eq_of_lt (by omega)
      have hgrid : gridExponent num (2 * num) = 0 := by
        rw [gridExponent, hdiv]
        decide
      have hround : roundHalfEven num (2 * num) = 0 := by
        rw [roundHalfEven_eq, hdiv, Nat.mod_eq_of_lt (by omega), if_neg (Nat.lt_irrefl _),
          if_neg (Nat.lt_irrefl _)]
      rw [nearest_eq, hgrid, Nat.pow_zero, Nat.mul_one, hround]
      decide

/-- On its grid a quotient has at most 53 bits. -/
lemma div_grid_lt (num den : Nat) : num / (den * 2 ^ gridExponent num den) < 2 ^ 53 := by
  rw [← Nat.div_div_eq_div_mul, Nat.div_lt_iff_lt_mul (Nat.two_pow_pos _), ← pow_add]
  refine lt_of_lt_of_le Nat.lt_log2_self (Nat.pow_le_pow_right (by norm_num) ?_)
  rw [gridExponent]
  omega

/-- **A quotient rounds to a finite magnitude exactly below the middle between the greatest one and
`2 ^ 1024`**, in units. -/
lemma nearest_lt_infMagnitude_iff {num den : Nat} (hden : 0 < den) :
    nearest num den < infMagnitude ↔ num < (2 ^ 54 - 1) * 2 ^ 2044 * den := by
  have hquot : num < den * (num / den + 1) := Nat.lt_mul_div_succ num hden
  rcases Nat.lt_or_ge (num / den) (2 ^ 2097) with hsmall | hbig
  · -- below the last grid both hold
    refine iff_of_true ?_ ?_
    · have hk : gridExponent num den ≤ 2044 := by
        rw [gridExponent]
        rcases Nat.eq_zero_or_pos (num / den) with hzero | hpos
        · rw [hzero]
          decide
        · have hlog := (Nat.log2_lt hpos.ne').2 hsmall
          omega
      have hround := roundHalfEven_le_succ num (den * 2 ^ gridExponent num den)
      have hgrid := div_grid_lt num den
      have hinf : infMagnitude = 2047 * 2 ^ 52 := by norm_num [infMagnitude]
      rw [nearest_eq, hinf]
      omega
    · have hscale : 2 ^ 2097 ≤ (2 ^ 54 - 1) * 2 ^ 2044 := by
        rw [show 2097 = 53 + 2044 by norm_num, pow_add]
        exact Nat.mul_le_mul_right _ (by norm_num)
      calc num < den * (num / den + 1) := hquot
        _ ≤ den * ((2 ^ 54 - 1) * 2 ^ 2044) := Nat.mul_le_mul_left den (le_trans hsmall hscale)
        _ = (2 ^ 54 - 1) * 2 ^ 2044 * den := Nat.mul_comm _ _
  rcases Nat.lt_or_ge (num / den) (2 ^ 2098) with hlast | hhuge
  · -- on the last grid the middle below `2 ^ 53` steps decides
    have hk : gridExponent num den = 2045 := by
      obtain ⟨hpos, hlow⟩ := le_log2_of_two_pow_le hbig
      have hhigh := (Nat.log2_lt hpos).2 hlast
      rw [gridExponent]
      omega
    have hmiddle : (2 * (2 ^ 53 - 1) + 1) * (den * 2 ^ 2045) =
        2 * ((2 ^ 54 - 1) * 2 ^ 2044 * den) := by
      rw [show 2 * (2 ^ 53 - 1) + 1 = 2 ^ 54 - 1 by norm_num,
        show 2045 = 2044 + 1 by norm_num, pow_succ 2 2044]
      generalize 2 ^ 2044 = p
      ring
    have hround : roundHalfEven num (den * 2 ^ 2045) ≤ 2 ^ 53 - 1 ↔
        num < (2 ^ 54 - 1) * 2 ^ 2044 * den := by
      rw [roundHalfEven_le_iff (by positivity) (by norm_num), hmiddle,
        Nat.mul_lt_mul_left (by norm_num)]
    rw [← hround, nearest_eq, hk]
    have hinf : infMagnitude = 2045 * 2 ^ 52 + 2 ^ 53 := by norm_num [infMagnitude]
    rw [hinf]
    omega
  · -- beyond it neither holds
    have hscale : (2 ^ 54 - 1) * 2 ^ 2044 ≤ 2 ^ 2098 := by
      rw [show 2098 = 54 + 2044 by norm_num, pow_add]
      exact Nat.mul_le_mul_right _ (by norm_num)
    refine iff_of_false (nearest_of_huge hhuge).not_lt (Nat.not_lt.2 ?_)
    exact (Nat.mul_le_mul_right den (hscale.trans hhuge)).trans (Nat.div_mul_le_self num den)

/-! ### Sign and magnitude -/

/-- A double is made of its sign and its magnitude. -/
lemma ofParts_self (x : Double) : ofParts x.negative x.magnitude = x := by
  have hlt : x.bits.toNat < 2 ^ 64 := x.bits.toNat_lt
  have hnat : (if x.negative then Nat.pow 2 63 else 0) + x.magnitude = x.bits.toNat := by
    simp only [negative, magnitude, decide_eq_true_eq]
    show (if 2 ^ 63 ≤ _ then 2 ^ 63 else 0) + _ % 2 ^ 63 = _
    split_ifs with h <;> omega
  rw [ofParts, hnat]
  exact congrArg Double.mk UInt64.ofNat_toNat

lemma toNat_bits_ofParts (negative : Bool) {m : Nat} (h : m < 2 ^ 63) :
    (ofParts negative m).bits.toNat = (if negative then 2 ^ 63 else 0) + m := by
  show ((if negative then 2 ^ 63 else 0) + m) % 2 ^ 64 = _
  refine Nat.mod_eq_of_lt ?_
  split_ifs <;> omega

/-- A sign leaves the magnitude below it alone. -/
lemma magnitude_ofParts (negative : Bool) {m : Nat} (h : m < 2 ^ 63) :
    (ofParts negative m).magnitude = m := by
  rw [magnitude, toNat_bits_ofParts negative h]
  show _ % 2 ^ 63 = m
  split_ifs <;> omega

/-- The sign stands above the magnitude. -/
lemma negative_ofParts (negative : Bool) {m : Nat} (h : m < 2 ^ 63) :
    (ofParts negative m).negative = negative := by
  rw [Double.negative, toNat_bits_ofParts negative h]
  show decide (2 ^ 63 ≤ _) = negative
  cases negative with
  | false => exact decide_eq_false (by simpa using h)
  | true => exact decide_eq_true (Nat.le_add_right ..)

/-! ### Integers -/

lemma one_pos : 0 < one := by
  have hpow : ∀ k, 0 < Nat.pow 2 k := Nat.two_pow_pos
  unfold one
  exact hpow 1074

/-- A quotient rounds to a finite magnitude exactly below the middle between the greatest finite
double and `2 ^ 1024`. -/
lemma nearest_mul_one_lt_iff {num den : Nat} (hden : 0 < den) :
    nearest (num * one) den < infMagnitude ↔ num < (2 ^ 1024 - 2 ^ 970) * den := by
  have hbound : (2 ^ 54 - 1) * 2 ^ 2044 = (2 ^ 1024 - 2 ^ 970) * one := by decide +kernel
  rw [nearest_lt_infMagnitude_iff hden, hbound, Nat.mul_right_comm, Nat.mul_lt_mul_right one_pos]

/-- The double nearest to an integer is finite exactly if the integer lies below the middle between
the greatest finite double and `2 ^ 1024`. -/
lemma ofNatMagnitude_lt_iff (n : Nat) :
    ofNatMagnitude n < infMagnitude ↔ n < 2 ^ 1024 - 2 ^ 970 := by
  rw [ofNatMagnitude, nearest_mul_one_lt_iff Nat.one_pos, Nat.mul_one]

lemma isFinite_ofInt_iff (n : Int) :
    (ofInt n).isFinite = true ↔ n.natAbs < 2 ^ 1024 - 2 ^ 970 := by
  have hinf : infMagnitude < 2 ^ 63 := by decide
  have hle : ofNatMagnitude n.natAbs ≤ infMagnitude := Nat.min_le_right _ _
  rw [isFinite, decide_eq_true_eq, ofInt, magnitude_ofParts _ (by omega), ofNatMagnitude_lt_iff]

/-- From there on the nearest double is the infinity of the same sign. -/
lemma ofInt_of_le {n : Int} (h : 2 ^ 1024 - 2 ^ 970 ≤ n.natAbs) : ofInt n = infinity (n < 0) := by
  have hle : ofNatMagnitude n.natAbs ≤ infMagnitude := Nat.min_le_right _ _
  have hge := mt (ofNatMagnitude_lt_iff n.natAbs).1 (Nat.not_lt.2 h)
  rw [ofInt, infinity, Nat.le_antisymm hle (Nat.not_lt.1 hge)]

end BootLayer.Double
