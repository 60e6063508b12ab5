import Mathlib.Tactic.Ring
import Mathlib.Tactic.NormNum
import Mathlib.Algebra.Order.Ring.Nat
import BootLayer.Host

/-!
Doubles packed into bytes, the least significant byte first.

* `toNat_bits_ofBytes`: up to eight bytes spell their number, and no bit of it is lost.
* `spelled_pack`: the bytes of a packed double spell its bits.
* `toList_pack_ofBytes`: eight bytes are unpacked and packed again without a change.
* `unpack?_pack`: a double is packed and unpacked again without a change.
-/

namespace BootLayer.Double

/-- The number that bytes spell, the least significant first. -/
def spelled : Bytes → Nat
  | [] => 0
  | b :: rest => b.toNat + 256 * spelled rest

lemma spelled_lt (bytes : Bytes) : spelled bytes < 256 ^ bytes.length := by
  induction bytes with
  | nil => exact Nat.one_pos
  | cons b rest ih =>
      have hb : b.toNat < 256 := b.toNat_lt
      rw [spelled, List.length_cons, pow_succ]
      omega

/-- The digits of a spelled number in base 256 are the bytes. -/
lemma spelled_div_pow {bytes : Bytes} {i : Nat} (hi : i < bytes.length) :
    spelled bytes / 256 ^ i % 256 = bytes[i].toNat := by
  induction bytes generalizing i with
  | nil => exact absurd hi (Nat.not_lt_zero i)
  | cons b rest ih =>
      have hb : b.toNat < 256 := b.toNat_lt
      rw [spelled]
      cases i with
      | zero =>
          rw [pow_zero, Nat.div_one, List.getElem_cons_zero]
          omega
      | succ i =>
          have hdiv : (b.toNat + 256 * spelled rest) / 256 = spelled rest := by omega
          rw [pow_succ', ← Nat.div_div_eq_div_mul, hdiv, List.getElem_cons_succ]
          exact ih (Nat.lt_of_succ_lt_succ hi)

/-- Up to eight bytes spell their number, and no bit of it is lost. -/
lemma toNat_bits_ofBytes {bytes : Bytes} (h : bytes.length ≤ 8) :
    (ofBytes bytes).bits.toNat = spelled bytes := by
  induction bytes with
  | nil => rfl
  | cons b rest ih =>
      have hlength : rest.length + 1 ≤ 8 := h
      have hrest : ((ofBytes rest).bits).toNat = spelled rest := ih (by omega)
      have hlt : spelled rest < 2 ^ 56 :=
        calc spelled rest < 256 ^ rest.length := spelled_lt rest
          _ ≤ 256 ^ 7 := Nat.pow_le_pow_right (by norm_num) (by omega)
          _ = 2 ^ 56 := by norm_num
      have hb : b.toNat < 2 ^ 8 := b.toNat_lt
      show ((ofBytes rest).bits <<< 8 ||| b.toUInt64).toNat = b.toNat + 256 * spelled rest
      rw [UInt64.toNat_or, UInt64.toNat_shiftLeft, hrest, UInt8.toNat_toUInt64,
        Nat.mod_eq_of_lt (a := spelled rest <<< _) (by
          rw [Nat.shiftLeft_eq]
          show spelled rest * 2 ^ 8 < 2 ^ 64
          omega)]
      show spelled rest <<< 8 ||| b.toNat = _
      rw [← Nat.shiftLeft_add_eq_or_of_lt hb, Nat.shiftLeft_eq]
      omega

/-- The byte at a position of a packed double. -/
lemma getElem_pack (x : Double) {i : Nat} (hi : i < 8) :
    x.pack[i].toNat = x.bits.toNat / 256 ^ i % 256 := by
  have hshift : ((8 * i).toUInt64.toNat % 64) = 8 * i := by
    rw [show (8 * i).toUInt64.toNat = 8 * i % 2 ^ 64 from UInt64.toNat_ofNat']
    omega
  rw [pack, Vector.getElem_ofFn, UInt64.toNat_toUInt8, UInt64.toNat_shiftRight, hshift,
    Nat.shiftRight_eq_div_pow, pow_mul]
  norm_num

/-- **Eight bytes are unpacked and packed again without a change.** -/
theorem toList_pack_ofBytes {bytes : Bytes} (h : bytes.length = 8) :
    (ofBytes bytes).pack.toList = bytes := by
  refine List.ext_getElem (by simp [h]) fun i hi hi' => ?_
  have hlt : i < 8 := by omega
  rw [Vector.getElem_toList, ← UInt8.toNat_inj, getElem_pack _ hlt, toNat_bits_ofBytes h.le,
    spelled_div_pow hi']

/-- Bytes that are the digits of a number in base 256 spell it. -/
lemma spelled_eq {bytes : Bytes} {n : Nat} (hlt : n < 256 ^ bytes.length)
    (h : ∀ (i : Nat) (hi : i < bytes.length), bytes[i].toNat = n / 256 ^ i % 256) :
    spelled bytes = n := by
  induction bytes generalizing n with
  | nil =>
      rw [List.length_nil, pow_zero] at hlt
      rw [spelled]
      omega
  | cons b rest ih =>
      rw [List.length_cons, pow_succ'] at hlt
      have hb := h 0 (by simp)
      rw [List.getElem_cons_zero, pow_zero, Nat.div_one] at hb
      have hrest : spelled rest = n / 256 := by
        refine ih (Nat.div_lt_of_lt_mul hlt) fun i hi => ?_
        have hi' := h (i + 1) (by simpa using hi)
        rw [List.getElem_cons_succ, pow_succ', ← Nat.div_div_eq_div_mul] at hi'
        exact hi'
      rw [spelled, hb, hrest]
      omega

lemma unpack?_of_length {bytes : Bytes} (h : bytes.length = 8) :
    unpack? bytes = some (ofBytes bytes) := if_pos h

/-- The bytes of a packed double spell its bits. -/
lemma spelled_pack (x : Double) : spelled x.pack.toList = x.bits.toNat := by
  have hlength : x.pack.toList.length = 8 := Vector.length_toList
  refine spelled_eq ?_ fun i hi => ?_
  · rw [hlength]
    exact x.bits.toNat_lt
  · rw [Vector.getElem_toList]
    exact getElem_pack x (by omega)

/-- **A double is packed and unpacked again without a change.** -/
theorem unpack?_pack (x : Double) : unpack? x.pack.toList = some x := by
  have hlength : x.pack.toList.length = 8 := Vector.length_toList
  have hbits : (ofBytes x.pack.toList).bits = x.bits := by
    rw [← UInt64.toNat_inj, toNat_bits_ofBytes hlength.le, spelled_pack]
  rw [unpack?_of_length hlength]
  exact congrArg (fun bits => some (Double.mk bits)) hbits

end BootLayer.Double
