import Mathlib.Tactic.Common
import BootLayer.Proofs.Decimal
import BootLayer.Proofs.RoundingError

/-!
How long the shortest digits are.

The search for the shortest digits of a magnitude looks at the two neighbours of its exact value on
grids of `10 ^ k` parts, a part being `10 ^ -depth`.

* `hits_of_fine`: on a grid finer than the distance to the other magnitudes one neighbour reads
  back.
* `exists_fine_count`: seventeen digits make such a grid, and so do places down to `10 ^ -324`.
* `bounded_shortest`: so the shortest digits are a number of at most `10 ^ 17`, and their exponent
  is between `-324` and `308`.
-/

namespace BootLayer.Decimal

/-! ### The candidates -/

/-- The value of a magnitude in parts, the fraction of a part left out. -/
def parts (m : Nat) : Nat := Double.units m * Nat.pow 10 depth / Double.one

lemma parts_eq (m : Nat) : parts m = Double.units m * 10 ^ depth / Double.one := by
  rw [parts, Nat.pow_eq]

lemma parts_mul_one_le (m : Nat) : parts m * Double.one ≤ Double.units m * 10 ^ depth := by
  rw [parts_eq]
  exact Nat.div_mul_le_self ..

/-- The number of digits of the parts. -/
def partsLength (m : Nat) : Nat := (Nat.toDigits 10 (parts m)).length

/-- The exponent of ten in the width of the grid with `count` digits. -/
def gridWidth (m count : Nat) : Nat := partsLength m - count

/-- The grid point of this number. -/
def gridPoint (m count n : Nat) : Decimal := ⟨n, (gridWidth m count : Int) - depth⟩

/-- The number of the last grid point that is not above the value. -/
def lowerPoint (m count : Nat) : Nat := parts m / Nat.pow 10 (gridWidth m count)

lemma lowerPoint_eq (m count : Nat) : lowerPoint m count = parts m / 10 ^ gridWidth m count := by
  rw [lowerPoint, Nat.pow_eq]

/-- One of the two neighbours of the value on the grid reads back. -/
def Hits (m count : Nat) : Prop :=
  (gridPoint m count (lowerPoint m count)).magnitude = m ∨
    (gridPoint m count (lowerPoint m count + 1)).magnitude = m

/-- Something is found on a grid exactly if one of the neighbours reads back. -/
lemma isSome_shortestOn_iff (tie : Tie) (m count : Nat) :
    (shortestOn tie m count).isSome = true ↔ Hits m count := by
  unfold shortestOn
  extract_lets value whole size step lower exponent below above twice middle nearer
  have hbelow : below = gridPoint m count (lowerPoint m count) := rfl
  have habove : above = gridPoint m count (lowerPoint m count + 1) := rfl
  rw [Hits, ← hbelow, ← habove]
  clear_value below above
  split_ifs with h h'
  · exact iff_of_true rfl (.inl h)
  · exact iff_of_true rfl (.inl h)
  · exact iff_of_true rfl (.inr ‹_›)
  · exact iff_of_false Bool.false_ne_true (not_or.2 ⟨h, ‹_›⟩)

/-- What is found is one of the two neighbours. -/
lemma eq_gridPoint_of_shortestOn {tie : Tie} {m count : Nat} {d : Decimal}
    (h : shortestOn tie m count = some d) :
    ∃ n ≤ lowerPoint m count + 1, d = gridPoint m count n := by
  unfold shortestOn at h
  extract_lets value whole size step lower exponent below above twice middle nearer at h
  have hbelow : below = gridPoint m count (lowerPoint m count) := rfl
  have habove : above = gridPoint m count (lowerPoint m count + 1) := rfl
  clear_value below above
  split_ifs at h
  · exact ⟨_, le_rfl, (Option.some.inj h).symm.trans habove⟩
  · exact ⟨_, Nat.le_succ _, (Option.some.inj h).symm.trans hbelow⟩
  · exact ⟨_, le_rfl, (Option.some.inj h).symm.trans habove⟩

/-- The magnitude of a grid point. -/
lemma magnitude_gridPoint (m count n : Nat) :
    (gridPoint m count n).magnitude =
      Double.nearest (n * 10 ^ gridWidth m count * Double.one) (10 ^ depth) := by
  have hvalue := sameValue_mul_pow n (gridWidth m count) (-(depth : Int))
  rw [gridPoint, sub_eq_neg_add, ← magnitude_congr hvalue, magnitude_eq, numerator, denominator,
    neg_neg, Int.toNat_natCast, Int.toNat_neg_natCast, pow_zero, Nat.mul_one]

/-! ### A fine grid has a hit -/

/-- The neighbours of the value are on either side of it. -/
lemma lowerPoint_le_lt (m count : Nat) :
    lowerPoint m count * 10 ^ gridWidth m count * Double.one ≤ Double.units m * 10 ^ depth ∧
      Double.units m * 10 ^ depth <
        (lowerPoint m count + 1) * 10 ^ gridWidth m count * Double.one := by
  have hstep : 0 < 10 ^ gridWidth m count := Nat.pow_pos (by norm_num)
  rw [lowerPoint_eq]
  constructor
  · calc parts m / 10 ^ gridWidth m count * 10 ^ gridWidth m count * Double.one
        ≤ parts m * Double.one := Nat.mul_le_mul_right _ (Nat.div_mul_le_self ..)
      _ ≤ Double.units m * 10 ^ depth := parts_mul_one_le m
  · have hparts : parts m < (parts m / 10 ^ gridWidth m count + 1) * 10 ^ gridWidth m count := by
      rw [Nat.mul_comm]
      exact Nat.lt_mul_div_succ _ hstep
    calc Double.units m * 10 ^ depth < (parts m + 1) * Double.one := by
          rw [Nat.mul_comm (parts m + 1), parts_eq]
          exact Nat.lt_mul_div_succ _ Double.one_pos
      _ ≤ _ := Nat.mul_le_mul_right _ hparts

/-- **On a grid finer than the distance to every other magnitude one neighbour reads back.** -/
lemma hits_of_fine {m count : Nat} (hm : m < Double.infMagnitude)
    (hfine : ∀ m', m' ≠ m → 10 ^ gridWidth m count * Double.one <
      Nat.dist (Double.units m) (Double.units m') * 10 ^ depth) : Hits m count := by
  obtain ⟨hlower, hupper⟩ := lowerPoint_le_lt m count
  have hreads : ∀ n, 2 * Nat.dist (Double.units m * 10 ^ depth)
      (n * 10 ^ gridWidth m count * Double.one) ≤ 10 ^ gridWidth m count * Double.one →
      (gridPoint m count n).magnitude = m := by
    intro n hn
    rw [magnitude_gridPoint]
    exact Double.nearest_eq_of_near (Nat.pow_pos (by norm_num)) hm.le
      fun m' hm' => hn.trans_lt (hfine m' hm')
  -- the two distances add up to one step, so one of them is at most half a step
  rw [Nat.add_mul, Nat.one_mul, Nat.add_mul] at hupper
  rcases Nat.lt_or_ge (10 ^ gridWidth m count * Double.one)
      (2 * Nat.dist (Double.units m * 10 ^ depth)
        (lowerPoint m count * 10 ^ gridWidth m count * Double.one)) with hfar | hnear
  · refine .inr (hreads _ ?_)
    rw [Nat.add_mul, Nat.one_mul, Nat.add_mul]
    simp only [Nat.dist] at hfar ⊢
    omega
  · exact .inl (hreads _ hnear)

/-! ### Which grids are fine -/

/-- The least positive double is more than `10 ^ 76` parts, and `10 ^ 309` is past all finite
doubles. -/
lemma powers_computed :
    10 ^ 76 * Double.one < 10 ^ depth ∧ (2 ^ 54 - 1) * 2 ^ 2044 ≤ 10 ^ 309 * Double.one := by
  decide +kernel

/-- The parts of a magnitude that is not zero have more than 76 digits. -/
lemma lt_partsLength {m : Nat} (hm : m ≠ 0) : 76 < partsLength m := by
  have hunit : 1 ≤ Double.units m := Double.units_strictMono (Nat.pos_of_ne_zero hm)
  have hparts : 10 ^ 76 ≤ parts m := by
    rw [parts_eq, Nat.le_div_iff_mul_le Double.one_pos]
    exact powers_computed.1.le.trans (Nat.le_mul_of_pos_left _ hunit)
  by_contra hle
  have hlt := (Nat.length_toDigits_le_iff (by norm_num) (by norm_num)).1 (Nat.not_lt.1 hle)
  omega

/-- The first digit of the parts is at least one. -/
lemma ten_pow_le_parts {m : Nat} (hm : m ≠ 0) : 10 ^ (partsLength m - 1) ≤ parts m := by
  have hlength := lt_partsLength hm
  by_contra hlt
  have hle := (Nat.length_toDigits_le_iff (b := 10) (k := partsLength m - 1) (by norm_num)
    (by omega)).2 (Nat.not_le.1 hlt)
  rw [partsLength] at hlength hle
  omega

/-- **Seventeen digits make a fine grid, and so do places down to `10 ^ -324`.** -/
lemma exists_fine_count {m : Nat} (hm : m ≠ 0) (hfinite : m < Double.infMagnitude) :
    ∃ count, 1 ≤ count ∧ count ≤ 17 ∧ count + 76 ≤ partsLength m ∧ Hits m count := by
  have hlength := lt_partsLength hm
  rcases Nat.lt_or_ge (partsLength m) 93 with hshort | hlong
  · refine ⟨partsLength m - 76, by omega, by omega, by omega, hits_of_fine hfinite ?_⟩
    intro m' hm'
    have hapart : 0 < Nat.dist (Double.units m) (Double.units m') :=
      Nat.dist_pos_of_ne fun h => hm' (Double.units_strictMono.injective h).symm
    have hwidth : gridWidth m (partsLength m - 76) = 76 := by
      rw [gridWidth]
      omega
    rw [hwidth]
    exact powers_computed.1.trans_le (Nat.le_mul_of_pos_left _ hapart)
  · refine ⟨17, by norm_num, le_rfl, by omega, hits_of_fine hfinite ?_⟩
    intro m' hm'
    have hapart := Double.units_le_mul_dist hm'
    have hdigits : 10 ^ (partsLength m - 1) = 10 ^ 16 * 10 ^ gridWidth m 17 := by
      rw [← pow_add, gridWidth]
      congr 1
      omega
    have hone := Double.one_pos
    have hpow : 0 < 10 ^ gridWidth m 17 := Nat.pow_pos (by norm_num)
    refine Nat.lt_of_mul_lt_mul_left (a := 2 ^ 53) ?_
    calc 2 ^ 53 * (10 ^ gridWidth m 17 * Double.one)
        < 10 ^ 16 * (10 ^ gridWidth m 17 * Double.one) :=
          Nat.mul_lt_mul_of_pos_right (by norm_num) (Nat.mul_pos hpow hone)
      _ = 10 ^ (partsLength m - 1) * Double.one := by rw [hdigits, Nat.mul_assoc]
      _ ≤ parts m * Double.one := Nat.mul_le_mul_right _ (ten_pow_le_parts hm)
      _ ≤ Double.units m * 10 ^ depth := parts_mul_one_le m
      _ ≤ 2 ^ 53 * Nat.dist (Double.units m) (Double.units m') * 10 ^ depth :=
          Nat.mul_le_mul_right _ hapart
      _ = 2 ^ 53 * (Nat.dist (Double.units m) (Double.units m') * 10 ^ depth) :=
          Nat.mul_assoc ..

/-! ### The digits that are found -/

/-- The digits and the exponent are within the bounds that the shortest digits of a double keep. -/
structure Bounded (d : Decimal) : Prop where
  digits_pos : 0 < d.digits
  digits_le : d.digits ≤ 10 ^ 17
  le_exponent : -324 ≤ d.exponent
  exponent_le : d.exponent ≤ 308

/-- Dropping zeros makes the digits no longer and the exponent no smaller. -/
lemma reduce_le (d : Decimal) : d.reduce.digits ≤ d.digits ∧ d.exponent ≤ d.reduce.exponent := by
  fun_induction reduce d with
  | case1 d h ih =>
      obtain ⟨hdigits, hexponent⟩ := ih
      exact ⟨hdigits.trans (Nat.div_le_self ..), (Int.le.intro 1 rfl).trans hexponent⟩
  | case2 d h => exact ⟨le_rfl, le_rfl⟩

/-- The first hit of a search by number comes after no other one. -/
lemma exists_first_of_findSome? {α : Type} {f : Nat → Option α} {n : Nat} {a : α}
    (h : (List.range n).findSome? f = some a) : ∃ i < n, f i = some a ∧ ∀ j < i, f j = none := by
  obtain ⟨before, i, after, hrange, hi, hbefore⟩ := List.findSome?_eq_some_iff.1 h
  rw [List.range_eq_range'] at hrange
  obtain ⟨k, hk, rfl, hafter⟩ := List.range'_eq_append_iff.1 hrange
  obtain ⟨rfl, hlt⟩ : k = i ∧ k < n := by
    rcases Nat.lt_or_ge k n with hlt | hge
    · rw [show n - k = n - k - 1 + 1 by omega, List.range'_succ] at hafter
      have hhead := (List.cons.inj hafter).1
      exact ⟨by omega, hlt⟩
    · rw [Nat.sub_eq_zero_of_le hge] at hafter
      cases hafter
  exact ⟨k, hlt, hi, fun j hj => hbefore j (List.mem_range'_1.2 ⟨Nat.zero_le j, by omega⟩)⟩

/-- No finite magnitude is that of a decimal with an exponent above 308. -/
lemma exponent_le_of_finite {d : Decimal} (hd : d.digits ≠ 0)
    (hfinite : d.magnitude < Double.infMagnitude) : d.exponent ≤ 308 := by
  rw [magnitude_eq, Double.nearest_lt_infMagnitude_iff d.denominator_pos] at hfinite
  by_contra hlt
  have hden : d.denominator = 1 := by
    rw [denominator, show (-d.exponent).toNat = 0 by omega, pow_zero]
  have hnum : 10 ^ 309 ≤ d.numerator := by
    calc 10 ^ 309 ≤ 10 ^ d.exponent.toNat := pow_le_pow_right₀ (by norm_num) (by omega)
      _ ≤ d.numerator := Nat.le_mul_of_pos_left _ (Nat.pos_of_ne_zero hd)
  rw [hden, Nat.mul_one] at hfinite
  have hhuge := powers_computed.2.trans (Nat.mul_le_mul_right Double.one hnum)
  exact absurd hfinite (Nat.not_lt.2 hhuge)

/-- The lower neighbour has at most as many digits as the grid. -/
lemma lowerPoint_lt (m count : Nat) : lowerPoint m count < 10 ^ count := by
  have hparts : parts m < 10 ^ partsLength m := lt_pow_length_toDigits (parts m)
  have hlength : partsLength m ≤ gridWidth m count + count := by
    rw [gridWidth]
    omega
  rw [lowerPoint_eq, Nat.div_lt_iff_lt_mul (Nat.pow_pos (by norm_num)), Nat.mul_comm, ← pow_add]
  exact hparts.trans_le (pow_le_pow_right₀ (by norm_num) hlength)

/-- **The shortest digits of a double are a number of at most `10 ^ 17`, and their exponent is
between `-324` and `308`.** -/
lemma bounded_shortest (tie : Tie) {m : Nat} (hm : m ≠ 0) (hfinite : m < Double.infMagnitude) :
    (shortest tie m).Bounded := by
  have hreads := magnitude_shortest tie hfinite
  have hdigits : (shortest tie m).digits ≠ 0 := by
    intro hzero
    rw [magnitude, if_pos hzero] at hreads
    exact hm hreads.symm
  obtain ⟨count, hpos, hcount, hplaces, hhits⟩ := exists_fine_count hm hfinite
  have hsome := (isSome_shortestOn_iff tie m count).2 hhits
  have hexponent := exponent_le_of_finite hdigits (hreads.trans_lt hfinite)
  rw [shortest] at hdigits hexponent ⊢
  cases hfound : (List.range 17).findSome? fun i => shortestOn tie m (i + 1) with
  | none =>
      have hnone := List.findSome?_eq_none_iff.1 hfound (count - 1) (List.mem_range.2 (by omega))
      rw [Nat.sub_add_cancel hpos] at hnone
      rw [hnone] at hsome
      cases hsome
  | some d =>
      obtain ⟨i, hi, hon, hfirst⟩ := exists_first_of_findSome? hfound
      obtain ⟨n, hn, rfl⟩ := eq_gridPoint_of_shortestOn hon
      -- no grid is found after the fine one
      have hle : i + 1 ≤ count := by
        by_contra hlt
        have hnone := hfirst (count - 1) (by omega)
        rw [Nat.sub_add_cancel hpos] at hnone
        rw [hnone] at hsome
        cases hsome
      rw [hfound] at hdigits hexponent
      obtain ⟨hless, hmore⟩ := reduce_le (gridPoint m (i + 1) n)
      refine ⟨Nat.pos_of_ne_zero hdigits, ?_, ?_, hexponent⟩
      · have hpow : 10 ^ (i + 1) ≤ 10 ^ 17 := pow_le_pow_right₀ (by norm_num) hi
        have hlower := lowerPoint_lt m (i + 1)
        exact hless.trans (hn.trans (hlower.trans_le hpow))
      · refine le_trans ?_ hmore
        have hwidth : 76 ≤ gridWidth m (i + 1) := by
          rw [gridWidth]
          omega
        show -324 ≤ (gridWidth m (i + 1) : Int) - (400 : Nat)
        omega

end BootLayer.Decimal
