import Mathlib.Tactic.Positivity
import BootLayer.Proofs.Nearest

/-!
How far rounding goes.

`spacing m` is the distance from a magnitude to the next one, and `Close c p q` says that two
numbers are apart by at most the factor `c`.

* `units_nearest_of_short`: a number with at most 53 significant bits is reached exactly.
* `nearest_eq_of_near`: what is nearer to a magnitude than half way to every other one is rounded to
  it.
* `exists_grid_of_normal`, `close_nearest`: one rounding moves a number of normal size by at most
  half a step of its grid, and so by at most the factor `1 + roundoff`.
* `dist_nearest_le_two`: numbers that are apart by at most two such factors are rounded to
  magnitudes at most two steps apart.
-/

namespace BootLayer.Double

/-! ### From one magnitude to the next -/

/-- The distance from a magnitude to the next one, in units. -/
def spacing (m : Nat) : Nat := 2 ^ (m / 2 ^ 52 - 1)

lemma spacing_pos (m : Nat) : 0 < spacing m := Nat.two_pow_pos _

lemma spacing_mono {m m' : Nat} (h : m ≤ m') : spacing m ≤ spacing m' :=
  Nat.pow_le_pow_right (by norm_num) (Nat.sub_le_sub_right (Nat.div_le_div_right h) 1)

/-- The next magnitude is one spacing away, and at most 53 bits of spacings are below it. -/
lemma units_succ (m : Nat) :
    units (m + 1) = units m + spacing m ∧ units (m + 1) ≤ 2 ^ 53 * spacing m := by
  obtain ⟨k, n, hm, hn, hk⟩ := exists_grid m
  have hspacing : spacing m = 2 ^ k := by
    rw [spacing, show m / 2 ^ 52 - 1 = k by omega]
  have hunits : units m = n * 2 ^ k := by rw [hm, units_grid hn.le hk]
  have hnext : units (m + 1) = (n + 1) * 2 ^ k := by
    rw [hm, Nat.add_assoc, units_grid hn (by omega)]
  rw [hnext, hunits, hspacing]
  exact ⟨Nat.succ_mul n (2 ^ k), Nat.mul_le_mul_right _ hn⟩

/-- Steps upwards never get shorter. -/
lemma units_add_le (m j : Nat) : units m + j * spacing m ≤ units (m + j) := by
  induction j with
  | zero => simp
  | succ j ih =>
      have hnext := (units_succ (m + j)).1
      have hwider := spacing_mono (Nat.le_add_right m j)
      rw [Nat.succ_mul, ← Nat.add_assoc m j 1, hnext]
      omega

/-- Every other magnitude is at least the part `2 ^ -53` of a magnitude away from it. -/
lemma units_le_mul_dist {m m' : Nat} (h : m' ≠ m) :
    units m ≤ 2 ^ 53 * Nat.dist (units m) (units m') := by
  rcases Nat.lt_or_gt_of_ne h with hlt | hgt
  · obtain ⟨j, rfl⟩ : ∃ j, m = j + 1 := ⟨m - 1, by omega⟩
    obtain ⟨hstep, hbits⟩ := units_succ j
    have hle : units m' ≤ units j := units_strictMono.monotone (by omega)
    refine hbits.trans (Nat.mul_le_mul_left _ ?_)
    rw [Nat.dist]
    omega
  · obtain ⟨hstep, hbits⟩ := units_succ m
    have hle : units (m + 1) ≤ units m' := units_strictMono.monotone hgt
    refine le_trans (Nat.le_of_lt ?_) (hbits.trans (Nat.mul_le_mul_left _ ?_))
    · have hpos := spacing_pos m
      omega
    · rw [Nat.dist]
      omega

/-! ### Numbers with few bits -/

/-- A number with at most 53 significant bits is the value of a magnitude. -/
lemma exists_units_eq {a : Nat} (ha : a ≤ 2 ^ 53) (j : Nat) : ∃ m, units m = a * 2 ^ j := by
  induction j generalizing a with
  | zero =>
      refine ⟨a, ?_⟩
      have h := units_grid (k := 0) ha (Or.inl rfl)
      simpa using h
  | succ j ih =>
      -- a factor of two goes into the number while there is room for it, and then into the grid
      rcases Nat.lt_or_ge a (2 ^ 52) with hsmall | hbig
      · obtain ⟨m, hm⟩ := ih (a := 2 * a) (by omega)
        exact ⟨m, by rw [hm, pow_succ]; ring⟩
      · exact ⟨_, units_grid ha (Or.inr hbig)⟩

/-- The value of infinity's magnitude, as far as it had one. -/
lemma units_infMagnitude : units infMagnitude = 2 ^ 53 * 2 ^ 2045 := by
  rw [show infMagnitude = 2045 * 2 ^ 52 + 2 ^ 53 by norm_num [infMagnitude]]
  exact units_grid le_rfl (Or.inr (by norm_num))

/-- **A number with at most 53 significant bits is reached exactly**, below `2 ^ 1024`. -/
lemma units_nearest_of_short {a j : Nat} (ha : a ≤ 2 ^ 53) (hlt : a * 2 ^ j < 2 ^ 53 * 2 ^ 2045) :
    units (nearest (a * 2 ^ j) 1) = a * 2 ^ j := by
  obtain ⟨m, hm⟩ := exists_units_eq ha j
  have hfinite : m < infMagnitude := by
    rw [← units_strictMono.lt_iff_lt, hm, units_infMagnitude]
    exact hlt
  rw [← hm, nearest_units hfinite]

/-- An integer with at most 53 significant bits is a double. -/
lemma units_ofNatMagnitude {a j : Nat} (ha : a ≤ 2 ^ 53) (hj : j ≤ 970) :
    units (ofNatMagnitude (a * 2 ^ j)) = a * 2 ^ j * one := by
  have hpow : ∀ k, a * 2 ^ j * Nat.pow 2 k = a * 2 ^ (j + k) := by
    intro k
    rw [Nat.pow_eq, pow_add, Nat.mul_assoc]
  have hshift : a * 2 ^ j * one = a * 2 ^ (j + 1074) := by
    unfold one
    exact hpow 1074
  have hexponent : 2 ^ (j + 1074) < 2 ^ 2045 := pow_lt_pow_right₀ one_lt_two (by omega)
  have hlt : a * 2 ^ (j + 1074) < 2 ^ 53 * 2 ^ 2045 :=
    Nat.mul_lt_mul_of_le_of_lt ha hexponent (by norm_num)
  rw [ofNatMagnitude, hshift, units_nearest_of_short ha hlt]

/-! ### Half way to the neighbours -/

/-- A quotient lies at most half way above what it is rounded to. -/
lemma le_middle_of_nearest {num den : Nat} (hden : 0 < den)
    (hfinite : nearest num den < infMagnitude) :
    2 * num ≤ (units (nearest num den) + units (nearest num den + 1)) * den := by
  have hclosest := (nearest_closest hden hfinite (nearest num den + 1)).1
  have hlt : units (nearest num den) * den < units (nearest num den + 1) * den :=
    Nat.mul_lt_mul_of_pos_right (units_strictMono (Nat.lt_succ_self _)) hden
  rw [Nat.add_mul]
  simp only [Nat.dist] at hclosest
  omega

/-- A quotient lies at most half way below what it is rounded to, infinity included. -/
lemma middle_le_of_nearest {num den m : Nat} (hden : 0 < den) (h : nearest num den = m + 1) :
    (units m + units (m + 1)) * den ≤ 2 * num := by
  rcases Nat.lt_or_ge (nearest num den) infMagnitude with hfinite | hinfinite
  · have hclosest := (nearest_closest hden hfinite m).1
    have hlt : units m * den < units (m + 1) * den :=
      Nat.mul_lt_mul_of_pos_right (units_strictMono (Nat.lt_succ_self _)) hden
    rw [h] at hclosest
    rw [Nat.add_mul]
    simp only [Nat.dist] at hclosest
    omega
  · have hle : nearest num den ≤ infMagnitude := Nat.min_le_right _ _
    have hlast : m = 2045 * 2 ^ 52 + (2 ^ 53 - 1) := by
      rw [infMagnitude] at hle hinfinite
      omega
    have hinf : m + 1 = infMagnitude := by omega
    have hunits : units m = (2 ^ 53 - 1) * 2 ^ 2045 := by
      rw [hlast]
      exact units_grid (by omega) (Or.inr (by norm_num))
    have hhuge := Nat.not_lt.1 (mt (nearest_lt_infMagnitude_iff hden).2 hinfinite.not_gt)
    rw [hinf, units_infMagnitude, hunits]
    calc ((2 ^ 53 - 1) * 2 ^ 2045 + 2 ^ 53 * 2 ^ 2045) * den
        = 2 * ((2 ^ 54 - 1) * 2 ^ 2044 * den) := by
          rw [show 2045 = 2044 + 1 by norm_num, pow_succ 2 2044]
          generalize 2 ^ 2044 = p
          norm_num
          ring
      _ ≤ 2 * num := Nat.mul_le_mul_left 2 hhuge

/-- **What is nearer to a magnitude than half way to every other one is rounded to it.** -/
lemma nearest_eq_of_near {num den m : Nat} (hden : 0 < den) (hm : m ≤ infMagnitude)
    (h : ∀ m', m' ≠ m →
      2 * Nat.dist (units m * den) num < Nat.dist (units m) (units m') * den) :
    nearest num den = m := by
  by_contra hne
  have hnear := h _ hne
  simp only [Nat.dist, Nat.add_mul, Nat.sub_mul] at hnear
  rcases Nat.lt_or_gt_of_ne hne with hlt | hgt
  · have hmiddle := le_middle_of_nearest hden (hlt.trans_le hm)
    have hself : units (nearest num den) * den ≤ units m * den :=
      Nat.mul_le_mul_right den (units_strictMono.monotone hlt.le)
    have hnext : units (nearest num den + 1) * den ≤ units m * den :=
      Nat.mul_le_mul_right den (units_strictMono.monotone hlt)
    rw [Nat.add_mul] at hmiddle
    omega
  · obtain ⟨j, hj⟩ : ∃ j, nearest num den = j + 1 := ⟨nearest num den - 1, by omega⟩
    have hmiddle := middle_le_of_nearest hden hj
    have hprevious : units m * den ≤ units j * den :=
      Nat.mul_le_mul_right den (units_strictMono.monotone (by omega))
    have hself : units m * den ≤ units (j + 1) * den :=
      Nat.mul_le_mul_right den (units_strictMono.monotone (by omega))
    rw [hj] at hnear
    rw [Nat.add_mul] at hmiddle
    omega

/-! ### Factors -/

/-- Two numbers are apart by at most a factor. -/
structure Close (factor p q : ℚ) : Prop where
  le : p ≤ factor * q
  ge : q ≤ factor * p

namespace Close

variable {c c' p q p' q' : ℚ}

lemma refl (p : ℚ) : Close 1 p p := ⟨(one_mul p).ge, (one_mul p).ge⟩

lemma mono (h : Close c p q) (hc : c ≤ c') (hp : 0 ≤ p) (hq : 0 ≤ q) : Close c' p q :=
  ⟨h.le.trans (mul_le_mul_of_nonneg_right hc hq), h.ge.trans (mul_le_mul_of_nonneg_right hc hp)⟩

lemma trans (h : Close c p q) (h' : Close c' q p') (hc : 0 ≤ c) (hc' : 0 ≤ c') :
    Close (c * c') p p' where
  le := by
    calc p ≤ c * q := h.le
      _ ≤ c * (c' * p') := mul_le_mul_of_nonneg_left h'.le hc
      _ = c * c' * p' := (mul_assoc ..).symm
  ge := by
    calc p' ≤ c' * q := h'.ge
      _ ≤ c' * (c * p) := mul_le_mul_of_nonneg_left h.ge hc'
      _ = c * c' * p := by ring

lemma mul (h : Close c p q) (h' : Close c' p' q') (hp : 0 ≤ p) (hp' : 0 ≤ p') (hq : 0 ≤ q)
    (hq' : 0 ≤ q') : Close (c * c') (p * p') (q * q') where
  le := by
    calc p * p' ≤ (c * q) * (c' * q') := mul_le_mul h.le h'.le hp' (hp.trans h.le)
      _ = c * c' * (q * q') := by ring
  ge := by
    calc q * q' ≤ (c * p) * (c' * p') := mul_le_mul h.ge h'.ge hq' (hq.trans h.ge)
      _ = c * c' * (p * p') := by ring

lemma inv (h : Close c p q) (hp : 0 < p) (hq : 0 < q) : Close c p⁻¹ q⁻¹ where
  le := by
    rw [inv_le_iff_one_le_mul₀ hp, mul_assoc, ← div_eq_inv_mul, ← mul_div_assoc, one_le_div hq]
    exact h.ge
  ge := by
    rw [inv_le_iff_one_le_mul₀ hq, mul_assoc, ← div_eq_inv_mul, ← mul_div_assoc, one_le_div hp]
    exact h.le

lemma div (h : Close c p q) (h' : Close c' p' q') (hp : 0 ≤ p) (hq : 0 ≤ q) (hp' : 0 < p')
    (hq' : 0 < q') : Close (c * c') (p / p') (q / q') := by
  rw [div_eq_mul_inv, div_eq_mul_inv]
  exact h.mul (h'.inv hp' hq') hp (inv_nonneg.2 hp'.le) hq (inv_nonneg.2 hq'.le)

/-- Numbers whose distance is a small part of each of them. -/
lemma of_abs_le {part : ℚ} (hp : |p - q| ≤ part * p) (hq : |p - q| ≤ part * q) :
    Close (1 + part) p q := by
  have hle := (abs_le.1 hq).2
  have hge := (abs_le.1 hp).1
  constructor <;> linarith

end Close

/-! ### The error of one rounding -/

/-- Half a step of the grid, relative to the least number with 53 bits on it. -/
def roundoff : ℚ := 1 / 2 ^ 53

lemma roundoff_pos : 0 < roundoff := by norm_num [roundoff]

lemma two_mul_dist_roundHalfEven (num : Nat) {den : Nat} (hden : 0 < den) :
    2 * Nat.dist (roundHalfEven num den * den) num ≤ den := by
  have hsplit : num / den * den + num % den = num := by rw [Nat.mul_comm, Nat.div_add_mod]
  have hmod : num % den < den := Nat.mod_lt num hden
  rcases roundHalfEven_cases num den with ⟨hround, hhalf, -⟩ | ⟨hround, hhalf, -⟩
  · rw [hround, Nat.dist]
    omega
  · rw [hround, Nat.succ_mul (num / den) den, Nat.dist]
    omega

/-- **One rounding of a number of normal size moves it by at most half a step of its grid**, where
number and result have at least 53 bits. -/
lemma exists_grid_of_normal {num den : Nat} (hden : 0 < den)
    (hfinite : nearest num den < infMagnitude) (hnormal : 2 ^ 52 * den ≤ num) :
    ∃ n k : Nat, units (nearest num den) = n * 2 ^ k ∧ 2 ^ 52 ≤ n ∧
      2 ^ 52 * 2 ^ k ≤ (num : ℚ) / den ∧ |(n : ℚ) * 2 ^ k - num / den| ≤ 2 ^ k / 2 := by
  have hunits := (units_nearest hfinite).1
  have hlow := div_le_roundHalfEven num (den * 2 ^ gridExponent num den)
  have hgrid := two_pow_le_div_grid num den
  have hbits : 2 ^ 52 ≤ num / (den * 2 ^ gridExponent num den) := by
    rcases hgrid with hzero | hbits
    · rw [hzero, Nat.pow_zero, Nat.mul_one]
      exact (Nat.le_div_iff_mul_le hden).2 hnormal
    · exact hbits
  generalize gridExponent num den = k at hunits hlow hbits
  have hstep : 0 < den * 2 ^ k := Nat.mul_pos hden (Nat.two_pow_pos k)
  have hden' : (0 : ℚ) < den := Nat.cast_pos.2 hden
  have hdist := two_mul_dist_roundHalfEven num hstep
  refine ⟨_, k, hunits, hbits.trans hlow, ?_, ?_⟩
  · rw [le_div_iff₀ hden']
    have h := (Nat.le_div_iff_mul_le hstep).1 hbits
    calc (2 : ℚ) ^ 52 * 2 ^ k * den = ((2 ^ 52 * (den * 2 ^ k) : Nat) : ℚ) := by push_cast; ring
      _ ≤ num := Nat.cast_le.2 h
  · generalize roundHalfEven num (den * 2 ^ k) = n at hdist
    have habs : |(n : ℚ) * (den * 2 ^ k) - num| ≤ den * 2 ^ k / 2 := by
      have hcast : (2 : ℚ) * Nat.dist (n * (den * 2 ^ k)) num ≤ den * 2 ^ k := by
        exact_mod_cast hdist
      have hcases : ((Nat.dist (n * (den * 2 ^ k)) num : Nat) : ℚ) =
          |(n : ℚ) * (den * 2 ^ k) - num| := by
        rcases Nat.le_total (n * (den * 2 ^ k)) num with h | h
        · have h' : ((n : ℚ) * (den * 2 ^ k)) ≤ num := by exact_mod_cast h
          rw [Nat.dist_eq_sub_of_le h, Nat.cast_sub h, abs_sub_comm, abs_of_nonneg (by linarith)]
          push_cast
          ring
        · have h' : (num : ℚ) ≤ (n : ℚ) * (den * 2 ^ k) := by exact_mod_cast h
          rw [Nat.dist_eq_sub_of_le_right h, Nat.cast_sub h, abs_of_nonneg (by linarith)]
          push_cast
          ring
      linarith
    have hscale : (n : ℚ) * 2 ^ k - num / den = (n * (den * 2 ^ k) - num) / den := by
      field_simp
    rw [hscale, abs_div, abs_of_pos hden', div_le_iff₀ hden']
    linarith

/-- **One rounding of a number of normal size moves it by at most the factor `1 + roundoff`.** -/
lemma close_nearest {num den : Nat} (hden : 0 < den) (hfinite : nearest num den < infMagnitude)
    (hnormal : 2 ^ 52 * den ≤ num) :
    Close (1 + roundoff) (units (nearest num den)) (num / den) := by
  obtain ⟨n, k, hunits, hn, hquot, herror⟩ := exists_grid_of_normal hden hfinite hnormal
  have hn' : (2 : ℚ) ^ 52 ≤ n := by exact_mod_cast hn
  have hk : (0 : ℚ) < 2 ^ k := by positivity
  rw [hunits]
  push_cast
  refine Close.of_abs_le (herror.trans ?_) (herror.trans ?_)
  · rw [roundoff]
    nlinarith
  · rw [roundoff]
    linarith

/-! ### Two factors make at most two steps -/

lemma nearest_le_add_two {num den num' den' : Nat} (hden : 0 < den) (hden' : 0 < den')
    (hfinite : nearest num den < infMagnitude)
    (h : (num' : ℚ) / den' ≤ (1 + roundoff) ^ 2 * (num / den)) :
    nearest num' den' ≤ nearest num den + 2 := by
  by_contra hlt
  obtain ⟨j, hj⟩ : ∃ j, nearest num' den' = j + 1 := ⟨nearest num' den' - 1, by omega⟩
  -- the lower number is below the middle after its magnitude, the upper one above the middle
  -- before its own, and there are two whole steps between the two middles
  have hlower : (num : ℚ) / den ≤ (units (nearest num den) + units (nearest num den + 1)) / 2 := by
    rw [div_le_div_iff₀ (Nat.cast_pos.2 hden) two_pos]
    have hmiddle := le_middle_of_nearest hden hfinite
    rw [mul_comm (num : ℚ)]
    exact_mod_cast hmiddle
  have hupper : ((units j : ℚ) + units (j + 1)) / 2 ≤ num' / den' := by
    rw [div_le_div_iff₀ two_pos (Nat.cast_pos.2 hden'), mul_comm (num' : ℚ)]
    exact_mod_cast middle_le_of_nearest hden' hj
  generalize nearest num den = m at hlt hlower
  have hfirst : units m + 2 * spacing m ≤ units j :=
    (units_add_le m 2).trans (units_strictMono.monotone (by omega))
  have hsecond : units m + 3 * spacing m ≤ units (j + 1) :=
    (units_add_le m 3).trans (units_strictMono.monotone (by omega))
  obtain ⟨hnext, hbits⟩ := units_succ m
  have hpos := spacing_pos m
  rw [hnext] at hlower hbits
  generalize spacing m = s at *
  generalize units m = u at *
  have hfirst' : (u : ℚ) + 2 * s ≤ units j := by exact_mod_cast hfirst
  have hsecond' : (u : ℚ) + 3 * s ≤ units (j + 1) := by exact_mod_cast hsecond
  have hbits' : (u : ℚ) + s ≤ 2 ^ 53 * s := by exact_mod_cast hbits
  have hpos' : (0 : ℚ) < s := Nat.cast_pos.2 hpos
  push_cast at hlower
  have hchain : ((u : ℚ) + 2 * s + (u + 3 * s)) / 2 ≤
      (1 + roundoff) ^ 2 * ((u + (u + s)) / 2) := by
    calc ((u : ℚ) + 2 * s + (u + 3 * s)) / 2 ≤ ((units j : ℚ) + units (j + 1)) / 2 := by linarith
      _ ≤ num' / den' := hupper
      _ ≤ (1 + roundoff) ^ 2 * (num / den) := h
      _ ≤ (1 + roundoff) ^ 2 * ((u + (u + s)) / 2) :=
          mul_le_mul_of_nonneg_left hlower (by positivity)
  norm_num [roundoff] at hchain
  linarith

/-- **Numbers that are apart by at most two roundings of normal numbers are rounded to magnitudes at
most two steps apart.** -/
lemma dist_nearest_le_two {num den num' den' : Nat} (hden : 0 < den) (hden' : 0 < den')
    (hfinite : nearest num den < infMagnitude)
    (h : Close ((1 + roundoff) ^ 2) (num' / den') (num / den)) :
    Nat.dist (nearest num' den') (nearest num den) ≤ 2 := by
  have hup := nearest_le_add_two hden hden' hfinite h.le
  have hdown : nearest num den ≤ nearest num' den' + 2 := by
    rcases Nat.lt_or_ge (nearest num' den') infMagnitude with hfinite' | hinfinite
    · exact nearest_le_add_two hden' hden hfinite' h.ge
    · omega
  rw [Nat.dist]
  omega

end BootLayer.Double
