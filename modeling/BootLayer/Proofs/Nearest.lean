import Mathlib.Algebra.Order.Field.Rat
import Mathlib.Data.Nat.Cast.Order.Field
import Mathlib.Data.Nat.Dist
import Mathlib.Tactic.FieldSimp
import Mathlib.Tactic.Linarith
import BootLayer.Proofs.Rounding

/-!
Rounding gives the nearest double.

`Double.value` is the exact value of a finite double, and `IsNearest x q` says that no finite double
is nearer to `q` than `x`, and that `x` has the even bits if another one is as near.

* `units_grid`, `units_strictMono`: a magnitude counts the steps of a grid, and a greater magnitude
  has a greater value.
* `nearest_closest`: no magnitude is nearer to a quotient than the one it is rounded to, and a tie
  goes to the even one.
* `isNearest_ofParts`: the same for doubles of both signs, against all finite doubles.
* `IsNearest.unique`: there is one nearest double of each sign.
* `eq_ofInt_iff`: `ofInt` is the nearest double of the sign of an integer, as far as there is a
  finite one.
-/

namespace BootLayer.Double

/-! ### Magnitudes on their grid -/

/-- A magnitude of `n` steps on the grid of `2 ^ k` units, where `n` has 53 bits or `k` is zero.
The step past the last one belongs to the next grid, with the same value. -/
lemma units_grid {n k : Nat} (hn : n ≤ 2 ^ 53) (hk : k = 0 ∨ 2 ^ 52 ≤ n) :
    units (k * 2 ^ 52 + n) = n * 2 ^ k := by
  rcases Nat.lt_or_ge (k * 2 ^ 52 + n) (2 ^ 52) with hlt | hge
  · have hzero : k = 0 := by omega
    rw [units_of_lt hlt, hzero, Nat.zero_mul, Nat.zero_add, Nat.pow_zero, Nat.mul_one]
  · rw [units_of_le hge]
    rcases Nat.lt_or_eq_of_le hn with hlast | rfl
    · have hdiv : (k * 2 ^ 52 + n) / 2 ^ 52 - 1 = k := by omega
      have hmod : 2 ^ 52 + (k * 2 ^ 52 + n) % 2 ^ 52 = n := by omega
      rw [hdiv, hmod]
    · have hdiv : (k * 2 ^ 52 + 2 ^ 53) / 2 ^ 52 - 1 = k + 1 := by omega
      have hmod : 2 ^ 52 + (k * 2 ^ 52 + 2 ^ 53) % 2 ^ 52 = 2 ^ 52 := by omega
      rw [hdiv, hmod, pow_succ]
      ring

/-- Every magnitude is a number of steps on some grid. -/
lemma exists_grid (m : Nat) :
    ∃ k n, m = k * 2 ^ 52 + n ∧ n < 2 ^ 53 ∧ (k = 0 ∨ 2 ^ 52 ≤ n) := by
  refine ⟨m / 2 ^ 52 - 1, m - (m / 2 ^ 52 - 1) * 2 ^ 52, ?_, ?_, ?_⟩ <;> omega

/-- **A greater magnitude has a greater value.** -/
lemma units_strictMono : StrictMono units := by
  refine strictMono_nat_of_lt_succ fun m => ?_
  obtain ⟨k, n, rfl, hn, hk⟩ := exists_grid m
  rw [units_grid hn.le hk, Nat.add_assoc, units_grid hn (by omega)]
  exact Nat.mul_lt_mul_of_pos_right (Nat.lt_succ_self n) (Nat.two_pow_pos k)

/-- A value lies on the grid of `2 ^ k` units, or below the first point of it with 53 bits. -/
lemma units_on_grid_or_lt (m k : Nat) :
    (∃ n, units m = n * 2 ^ k) ∨ 0 < k ∧ units m < 2 ^ 52 * 2 ^ k := by
  obtain ⟨j, n, rfl, hn, hj⟩ := exists_grid m
  rw [units_grid hn.le hj]
  rcases Nat.lt_or_ge j k with hlt | hge
  · refine Or.inr ⟨by omega, ?_⟩
    calc n * 2 ^ j < 2 ^ 53 * 2 ^ j := Nat.mul_lt_mul_of_pos_right hn (Nat.two_pow_pos j)
      _ = 2 ^ (53 + j) := (pow_add 2 53 j).symm
      _ ≤ 2 ^ (52 + k) := Nat.pow_le_pow_right (by norm_num) (by omega)
      _ = 2 ^ 52 * 2 ^ k := pow_add 2 52 k
  · refine Or.inl ⟨n * 2 ^ (j - k), ?_⟩
    rw [Nat.mul_assoc, ← pow_add, Nat.sub_add_cancel hge]

/-! ### The nearest multiple -/

/-- Rounding goes down up to a half and up from a half on; at a half it goes to the even side. -/
lemma roundHalfEven_cases (num den : Nat) :
    (roundHalfEven num den = num / den ∧ 2 * (num % den) ≤ den ∧
      (2 * (num % den) = den → num / den % 2 = 0)) ∨
    (roundHalfEven num den = num / den + 1 ∧ den ≤ 2 * (num % den) ∧
      (2 * (num % den) = den → num / den % 2 = 1)) := by
  rw [roundHalfEven_eq]
  split_ifs <;> omega

/-- **No multiple is nearer than the rounded one**, and a tie goes to the even one. -/
lemma roundHalfEven_closest (num : Nat) {den : Nat} (hden : 0 < den) (n : Nat) :
    Nat.dist (roundHalfEven num den * den) num ≤ Nat.dist (n * den) num ∧
      (Nat.dist (n * den) num = Nat.dist (roundHalfEven num den * den) num →
        n ≠ roundHalfEven num den → roundHalfEven num den % 2 = 0) := by
  have hsplit : num / den * den + num % den = num := by rw [Nat.mul_comm, Nat.div_add_mod]
  have hmod : num % den < den := Nat.mod_lt num hden
  have hsucc : (num / den + 1) * den = num / den * den + den := Nat.succ_mul ..
  -- a multiple is one of the two neighbours, or a whole step beyond them
  have hplace : n = num / den ∨ n = num / den + 1 ∨ n * den + den ≤ num / den * den ∨
      num / den * den + 2 * den ≤ n * den := by
    rcases Nat.lt_trichotomy n (num / den) with h | h | h
    · have hle := Nat.mul_le_mul_right den (Nat.succ_le_of_lt h)
      rw [Nat.succ_mul] at hle
      exact .inr (.inr (.inl hle))
    · exact .inl h
    · rcases Nat.lt_or_eq_of_le (Nat.succ_le_of_lt h) with h' | h'
      · have hle := Nat.mul_le_mul_right den (Nat.succ_le_of_lt h')
        rw [Nat.succ_mul, Nat.succ_mul] at hle
        exact .inr (.inr (.inr (by omega)))
      · exact .inr (.inl h'.symm)
  simp only [Nat.dist]
  rcases roundHalfEven_cases num den with ⟨hround, hhalf, heven⟩ | ⟨hround, hhalf, hodd⟩ <;>
    rw [hround] <;> rcases hplace with rfl | rfl | hplace | hplace <;>
    constructor <;> omega

/-- On its grid a quotient has 53 bits, unless the grid is that of the units. -/
lemma two_pow_le_div_grid (num den : Nat) :
    gridExponent num den = 0 ∨ 2 ^ 52 ≤ num / (den * 2 ^ gridExponent num den) := by
  rcases Nat.eq_zero_or_pos (gridExponent num den) with hzero | hpos
  · exact Or.inl hzero
  · have hlog : (num / den).log2 = 52 + gridExponent num den := by
      rw [gridExponent] at hpos ⊢
      omega
    have hne : num / den ≠ 0 := by
      intro hzero
      rw [hzero] at hlog
      rw [Nat.log2_zero] at hlog
      omega
    refine Or.inr ?_
    rw [← Nat.div_div_eq_div_mul, Nat.le_div_iff_mul_le (Nat.two_pow_pos _), ← pow_add, ← hlog]
    exact Nat.log2_self_le hne

/-- The value of the magnitude that a quotient is rounded to, as a number of steps on its grid. -/
lemma units_nearest {num den : Nat} (hfinite : nearest num den < infMagnitude) :
    units (nearest num den) =
      roundHalfEven num (den * 2 ^ gridExponent num den) * 2 ^ gridExponent num den ∧
    nearest num den % 2 = roundHalfEven num (den * 2 ^ gridExponent num den) % 2 := by
  have hsteps : nearest num den = gridExponent num den * 2 ^ 52 +
      roundHalfEven num (den * 2 ^ gridExponent num den) := by
    rw [nearest_eq] at hfinite ⊢
    omega
  have hlow := div_le_roundHalfEven num (den * 2 ^ gridExponent num den)
  have hhigh := roundHalfEven_le_succ num (den * 2 ^ gridExponent num den)
  have hbits := div_grid_lt num den
  have hgrid := two_pow_le_div_grid num den
  rw [hsteps]
  exact ⟨units_grid (by omega) (by omega), by omega⟩

/-- **No magnitude is nearer to a quotient than the one it is rounded to**, and a tie goes to the
even one, as long as the quotient does not round to infinity. -/
lemma nearest_closest {num den : Nat} (hden : 0 < den) (hfinite : nearest num den < infMagnitude)
    (m : Nat) :
    Nat.dist (units (nearest num den) * den) num ≤ Nat.dist (units m * den) num ∧
      (Nat.dist (units m * den) num = Nat.dist (units (nearest num den) * den) num →
        units m ≠ units (nearest num den) → nearest num den % 2 = 0) := by
  obtain ⟨hunits, hparity⟩ := units_nearest hfinite
  have hfirst := two_pow_le_div_grid num den
  rw [hunits, hparity]
  generalize gridExponent num den = k at hfirst ⊢
  have hscale : ∀ n, n * 2 ^ k * den = n * (den * 2 ^ k) := fun n => by ring
  have hstep : 0 < den * 2 ^ k := Nat.mul_pos hden (Nat.two_pow_pos k)
  rw [hscale]
  rcases units_on_grid_or_lt m k with ⟨n, hn⟩ | ⟨hk, hlt⟩
  · -- a value on the grid is one of the multiples
    obtain ⟨hclosest, htie⟩ := roundHalfEven_closest num hstep n
    rw [hn, hscale]
    refine ⟨hclosest, fun hdist hne => htie hdist ?_⟩
    rintro rfl
    exact hne rfl
  · -- any other value is farther away than the first point of the grid with 53 bits
    obtain ⟨hclosest, -⟩ := roundHalfEven_closest num hstep (2 ^ 52)
    have hbelow : units m * den < 2 ^ 52 * (den * 2 ^ k) := by
      rw [← hscale]
      exact Nat.mul_lt_mul_of_pos_right hlt hden
    have hfirst' : 2 ^ 52 * (den * 2 ^ k) ≤ num :=
      (Nat.le_div_iff_mul_le hstep).1 (hfirst.resolve_left hk.ne')
    simp only [Nat.dist] at hclosest ⊢
    exact ⟨by omega, fun hdist => by omega⟩

/-! ### Exact values -/

/-- The exact value of a finite magnitude. -/
def size (m : Nat) : ℚ := units m / one

/-- The exact value of a finite double. -/
def value (x : Double) : ℚ := (if x.negative then -1 else 1) * size x.magnitude

lemma size_zero : size 0 = 0 := by
  rw [size, units_of_lt (by norm_num), Nat.cast_zero, zero_div]

lemma size_nonneg (m : Nat) : 0 ≤ size m := div_nonneg (Nat.cast_nonneg _) (Nat.cast_nonneg _)

lemma size_strictMono : StrictMono size := by
  intro m m' h
  have hone : (0 : ℚ) < one := Nat.cast_pos.2 one_pos
  exact div_lt_div_of_pos_right (Nat.cast_lt.2 (units_strictMono h)) hone

lemma abs_value (x : Double) : |x.value| = size x.magnitude := by
  rw [value, abs_mul, abs_of_nonneg (size_nonneg _)]
  split_ifs <;> simp

/-- The distance of a size from a quotient, counted in natural numbers. -/
lemma abs_size_sub (m num : Nat) {den : Nat} (hden : 0 < den) :
    |size m - num / (den * one)| = Nat.dist (units m * den) num / (den * one) := by
  have hden' : (0 : ℚ) < den := Nat.cast_pos.2 hden
  have hone : (0 : ℚ) < one := Nat.cast_pos.2 one_pos
  have hpos : (0 : ℚ) < den * one := mul_pos hden' hone
  have hdiff : size m - num / (den * one) = ((units m * den : Nat) - num) / (den * one) := by
    unfold size
    push_cast
    field_simp
  have hdist : |((units m * den : Nat) : ℚ) - num| = Nat.dist (units m * den) num := by
    rcases Nat.le_total (units m * den) num with h | h
    · rw [Nat.dist_eq_sub_of_le h, Nat.cast_sub h, abs_sub_comm,
        abs_of_nonneg (sub_nonneg.2 (Nat.cast_le.2 h))]
    · rw [Nat.dist_eq_sub_of_le_right h, Nat.cast_sub h,
        abs_of_nonneg (sub_nonneg.2 (Nat.cast_le.2 h))]
  rw [hdiff, abs_div, hdist, abs_of_pos hpos]

/-- `nearest_closest` for sizes. -/
lemma size_nearest_closest {num den : Nat} (hden : 0 < den)
    (hfinite : nearest num den < infMagnitude) (m : Nat) :
    |size (nearest num den) - num / (den * one)| ≤ |size m - num / (den * one)| ∧
      (|size m - num / (den * one)| = |size (nearest num den) - num / (den * one)| →
        size m ≠ size (nearest num den) → nearest num den % 2 = 0) := by
  have hpos : (0 : ℚ) < den * one := mul_pos (Nat.cast_pos.2 hden) (Nat.cast_pos.2 one_pos)
  obtain ⟨hclosest, htie⟩ := nearest_closest hden hfinite m
  rw [abs_size_sub _ _ hden, abs_size_sub _ _ hden]
  refine ⟨div_le_div_of_nonneg_right (Nat.cast_le.2 hclosest) hpos.le, fun hdist hne => ?_⟩
  rw [div_left_inj' hpos.ne', Nat.cast_inj] at hdist
  refine htie hdist fun hunits => hne ?_
  rw [size, size, hunits]

/-! ### The nearest double -/

/-- The double is the one nearest to `q`: it is finite, no finite double is nearer, and if another
one is as near then the last bit of this one is zero. -/
structure IsNearest (x : Double) (q : ℚ) : Prop where
  finite : x.isFinite = true
  closest : ∀ y : Double, y.isFinite = true → |x.value - q| ≤ |y.value - q|
  even_of_tie : ∀ y : Double, y.isFinite = true → |y.value - q| = |x.value - q| →
    y.value ≠ x.value → x.magnitude % 2 = 0

/-- The sizes of a double and a number are no farther apart than they are. -/
lemma abs_size_sub_abs_le (y : Double) (q : ℚ) : |size y.magnitude - abs q| ≤ |y.value - q| := by
  rw [← abs_value]
  exact abs_abs_sub_abs_le y.value q

/-- A number of the size `u` that is as far from `p` under a sign as `u` is from `p` is `u` under
that sign, if `u` is no farther from `p` than zero. -/
lemma eq_of_abs_eq_of_tie {sign u p y : ℚ} (hsign : |sign| = 1) (hu : 0 ≤ u) (hp : 0 ≤ p)
    (hzero : |u - p| ≤ p) (hsize : |y| = u) (htie : |y - sign * p| = |u - p|) :
    y = sign * u := by
  have habs : |y| = |sign * u| := by rw [hsize, abs_mul, hsign, one_mul, abs_of_nonneg hu]
  rcases abs_eq_abs.1 habs with h | h
  · exact h
  · have hsum : u + p = |u - p| := by
      rw [← htie, h, neg_sub_left, abs_neg, ← mul_add, abs_mul, hsign, one_mul,
        abs_of_nonneg (add_nonneg hp hu), add_comm]
    have hnull : u = 0 := le_antisymm (by linarith) hu
    rw [h, hnull, mul_zero, neg_zero]

/-- **Rounding a quotient under a sign gives the nearest double.** -/
theorem isNearest_ofParts (negative : Bool) {num den : Nat} (hden : 0 < den)
    (hfinite : nearest num den < infMagnitude) :
    (ofParts negative (nearest num den)).IsNearest
      ((if negative then -1 else 1) * (num / (den * one))) := by
  have hinf : infMagnitude < 2 ^ 63 := by decide
  have hmagnitude := magnitude_ofParts negative (hfinite.trans hinf)
  have hnegative := negative_ofParts negative (hfinite.trans hinf)
  have hclosest := size_nearest_closest hden hfinite
  have hnonneg : (0 : ℚ) ≤ num / (den * one) :=
    div_nonneg num.cast_nonneg (mul_nonneg den.cast_nonneg one.cast_nonneg)
  generalize (num : ℚ) / (den * one) = p at hclosest hnonneg ⊢
  have hsign : |if negative then (-1 : ℚ) else 1| = 1 := by split_ifs <;> simp
  have hvalue : (ofParts negative (nearest num den)).value =
      (if negative then -1 else 1) * size (nearest num den) := by
    rw [value, hmagnitude, hnegative]
  generalize (if negative then (-1 : ℚ) else 1) = sign at hsign hvalue ⊢
  -- the double and the number have the same sign, so their sizes are as far apart as they are
  have hself : |sign * size (nearest num den) - sign * p| = |size (nearest num den) - p| := by
    rw [← mul_sub, abs_mul, hsign, one_mul]
  have hother : ∀ y : Double, |size y.magnitude - p| ≤ |y.value - sign * p| := by
    intro y
    have h := abs_size_sub_abs_le y (sign * p)
    rwa [abs_mul, hsign, one_mul, abs_of_nonneg hnonneg] at h
  refine ⟨?_, fun y _ => ?_, fun y _ hdist hne => ?_⟩
  · rw [isFinite, hmagnitude]
    exact decide_eq_true hfinite
  · rw [hvalue, hself]
    exact (hclosest y.magnitude).1.trans (hother y)
  · rw [hvalue, hself] at hdist
    rw [hvalue] at hne
    rw [hmagnitude]
    have hsame : |size y.magnitude - p| = |size (nearest num den) - p| :=
      le_antisymm ((hother y).trans_eq hdist) (hclosest y.magnitude).1
    refine (hclosest y.magnitude).2 hsame ?_
    intro hsize
    have hzero : |size (nearest num den) - p| ≤ p := by
      have h := (hclosest 0).1
      rwa [size_zero, zero_sub, abs_neg, abs_of_nonneg hnonneg] at h
    exact hne (eq_of_abs_eq_of_tie hsign (size_nonneg _) hnonneg hzero
      ((abs_value y).trans hsize) hdist)

/-- A number as far from `a` as from `b` is nearer to what lies between them. -/
lemma abs_sub_lt_of_between {a b c q : ℚ} (hac : a < c) (hcb : c < b) (h : |a - q| = |b - q|) :
    |c - q| < |a - q| := by
  have hmiddle : a - q = -(b - q) := (abs_eq_abs.1 h).resolve_left (by linarith)
  rw [abs_of_neg (by linarith : a - q < 0), abs_lt]
  constructor <;> linarith

/-- Below the greatest finite magnitude there is a next double of the same sign. -/
lemma exists_next {x : Double} (h : x.magnitude + 1 < infMagnitude) :
    ∃ z : Double, z.isFinite = true ∧ z.negative = x.negative ∧
      z.magnitude = x.magnitude + 1 := by
  have hlt : x.magnitude + 1 < 2 ^ 63 := h.trans (by decide)
  refine ⟨ofParts x.negative (x.magnitude + 1), ?_, negative_ofParts _ hlt,
    magnitude_ofParts _ hlt⟩
  rw [isFinite, magnitude_ofParts _ hlt]
  exact decide_eq_true h

/-- Of two nearest doubles of one sign neither has the greater magnitude. -/
lemma IsNearest.not_magnitude_lt {x y : Double} {q : ℚ} (hx : x.IsNearest q) (hy : y.IsNearest q)
    (hsign : x.negative = y.negative) : ¬x.magnitude < y.magnitude := by
  intro hlt
  have hne : x.value ≠ y.value := by
    rw [value, value, hsign]
    have hsize := (size_strictMono hlt).ne
    split_ifs <;> simpa using hsize
  have htie : |x.value - q| = |y.value - q| :=
    le_antisymm (hx.closest y hy.finite) (hy.closest x hx.finite)
  have hxeven := hx.even_of_tie y hy.finite htie.symm hne.symm
  have hyeven := hy.even_of_tie x hx.finite htie hne
  -- both are even, so there is a magnitude between them, and it is nearer
  have hfinite : x.magnitude + 1 < infMagnitude := by
    have h := hy.finite
    rw [isFinite, decide_eq_true_eq] at h
    omega
  obtain ⟨z, hzfinite, hznegative, hzmagnitude⟩ := exists_next hfinite
  have hxz : size x.magnitude < size z.magnitude := size_strictMono (by omega)
  have hzy : size z.magnitude < size y.magnitude := size_strictMono (by omega)
  refine absurd (hx.closest z hzfinite) (not_le.2 ?_)
  simp only [value, ← hsign, hznegative] at htie ⊢
  split_ifs at htie ⊢
  · simp only [neg_one_mul] at htie ⊢
    rw [htie]
    exact abs_sub_lt_of_between (neg_lt_neg hzy) (neg_lt_neg hxz) htie.symm
  · simp only [one_mul] at htie ⊢
    exact abs_sub_lt_of_between hxz hzy htie

/-- **There is one nearest double of each sign.** -/
theorem IsNearest.unique {x y : Double} {q : ℚ} (hx : x.IsNearest q) (hy : y.IsNearest q)
    (hsign : x.negative = y.negative) : x = y := by
  have hle := Nat.not_lt.1 (hx.not_magnitude_lt hy hsign)
  have hge := Nat.not_lt.1 (hy.not_magnitude_lt hx hsign.symm)
  rw [← ofParts_self x, ← ofParts_self y, hsign, Nat.le_antisymm hge hle]

/-! ### Integers -/

/-- The double of an integer has its sign. -/
lemma negative_ofInt (n : Int) : (ofInt n).negative = decide (n < 0) := by
  have hle : ofNatMagnitude n.natAbs ≤ infMagnitude := Nat.min_le_right _ _
  have hinf : infMagnitude < 2 ^ 63 := by decide
  exact negative_ofParts _ (lt_of_le_of_lt hle hinf)

/-- Below the middle between the greatest finite double and `2 ^ 1024` an integer is rounded to the
nearest double. -/
lemma isNearest_ofInt {n : Int} (h : n.natAbs < 2 ^ 1024 - 2 ^ 970) : (ofInt n).IsNearest n := by
  have hnearest := isNearest_ofParts (decide (n < 0)) Nat.one_pos
    ((ofNatMagnitude_lt_iff n.natAbs).2 h)
  have hone : (one : ℚ) ≠ 0 := Nat.cast_ne_zero.2 one_pos.ne'
  have hvalue : (if decide (n < 0) then (-1 : ℚ) else 1) *
      ((n.natAbs * one : Nat) / ((1 : Nat) * one)) = n := by
    rw [Nat.cast_mul, Nat.cast_one, one_mul, mul_div_cancel_right₀ _ hone, Nat.cast_natAbs]
    rcases lt_or_ge n 0 with hneg | hpos
    · simp [hneg, abs_of_neg hneg]
    · simp [not_lt.2 hpos, abs_of_nonneg hpos]
  rwa [hvalue] at hnearest

/-- **The double of an integer is the nearest one of its sign**, as far as there is a finite
one. -/
lemma eq_ofInt_iff {n : Int} (h : n.natAbs < 2 ^ 1024 - 2 ^ 970) (x : Double) :
    ofInt n = x ↔ x.IsNearest n ∧ x.negative = decide (n < 0) := by
  constructor
  · rintro rfl
    exact ⟨isNearest_ofInt h, negative_ofInt n⟩
  · rintro ⟨hnearest, hsign⟩
    exact (isNearest_ofInt h).unique hnearest ((negative_ofInt n).trans hsign.symm)

end BootLayer.Double
