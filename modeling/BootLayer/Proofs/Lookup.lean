import Mathlib.Data.List.Basic
import Mathlib.Tactic.Common
import BootLayer.Entries

/-!
Maps by what their keys give.

* `ext_find?`: two maps that give the same value under every key are equal.
* `overlay`: the entries of one map inserted into another, one after the other; `find?_overlay` says
  that a key then gives what the second map has under it, and else what the first one has.
* `overlay_assoc`, `overlay_self_right`, `overlay_self`, `overlay_nil`, `overlay_comm`: the laws of
  such insertions, each read off what the keys give.
-/

namespace BootLayer.Entries

variable {α : Type}

/-! ### Keys and what they give -/

/-- A key that is not above the bound gives nothing. -/
lemma find?_of_not_above {lo : Option String} {k : String} (h : ¬Above lo k) :
    (m : Entries α lo) → m.find? k = none
  | nil => rfl
  | cons l hl v rest => by
    have hne : k ≠ l := by
      rintro rfl
      exact h hl
    have hrest : ¬Above (some l) k := fun habove => h (hl.trans (above_some.1 habove))
    rw [find?, if_neg hne, find?_of_not_above hrest rest]

/-- The keys are those that give a value. -/
lemma isSome_find?_iff {lo : Option String} (k : String) :
    (m : Entries α lo) → ((m.find? k).isSome ↔ k ∈ m.keys)
  | nil => by simp [find?, keys]
  | cons l hl v rest => by
    have ih := isSome_find?_iff k rest
    rw [find?, keys, toList_cons, List.map_cons, List.mem_cons, ← keys, ← ih]
    split_ifs with hk <;> simp [hk]

/-- The key of a map that starts with it gives nothing in the rest. -/
lemma find?_rest_self {k : String} (rest : Entries α (some k)) : rest.find? k = none :=
  find?_of_not_above (fun h => String.lt_irrefl k (above_some.1 h)) rest

/-- A key gives a value exactly if it stands before that value. -/
lemma find?_eq_some_iff {lo : Option String} {k : String} {v : α} :
    (m : Entries α lo) → (m.find? k = some v ↔ (k, v) ∈ m.toList)
  | nil => by simp [find?]
  | cons l _ w rest => by
    rw [find?, toList_cons, List.mem_cons, Prod.mk.injEq, ← find?_eq_some_iff rest]
    split_ifs with hk
    · rw [hk, find?_rest_self]
      simp [eq_comm]
    · simp [hk]

/-- Maps that give something under the same keys start with the same key. -/
lemma least_eq {β : Type} {lo lo' : Option String} {k l : String} {hk : Above lo k}
    {hl : Above lo' l} {v : α} {w : β} {rest : Entries α (some k)} {rest' : Entries β (some l)}
    (h : ∀ key, ((cons k hk v rest).find? key).isSome = ((cons l hl w rest').find? key).isSome) :
    k = l := by
  -- neither of the keys gives anything in a map that starts above it
  by_contra hne
  by_cases hlt : k < l
  · have hnone := find?_of_not_above (fun hl => String.lt_asymm hlt (above_some.1 hl)) rest'
    simpa [find?, hne, hnone] using h k
  · have hgt : l < k := lt_of_not_lt_of_ne hlt hne
    have hnone := find?_of_not_above (fun hk => String.lt_asymm hgt (above_some.1 hk)) rest
    simpa [find?, Ne.symm hne, hnone] using h l

/-- **Two maps that give the same under every key are equal.** -/
theorem ext_find? {lo : Option String} : {a b : Entries α lo} →
    (∀ k, a.find? k = b.find? k) → a = b
  | nil, nil, _ => rfl
  | nil, cons l _ v rest, h => by simpa [find?] using h l
  | cons k _ v rest, nil, h => by simpa [find?] using h k
  | cons k hk v rest, cons l hl w rest', h => by
    have hkl : k = l := least_eq fun key => congrArg Option.isSome (h key)
    subst hkl
    have hvalue : v = w := by simpa [find?] using h k
    have hrest : ∀ l, rest.find? l = rest'.find? l := by
      intro l
      by_cases hl : l = k
      · rw [hl, find?_rest_self, find?_rest_self]
      · simpa [find?, hl] using h l
    rw [hvalue, ext_find? hrest]

/-! ### One map over another -/

/-- The map `m` after the entries of `s` have been inserted, in key order. -/
def overlay (m s : Dict α) : Dict α := s.toList.foldl (fun m e => m.insert e.1 e.2) m

/-- Inserting ascending entries: the inserted value counts, then the old one. -/
lemma find?_foldl_insert {lo : Option String} (k : String) : (s : Entries α lo) → (m : Dict α) →
    (s.toList.foldl (fun m e => m.insert e.1 e.2) m).find? k = (s.find? k).or (m.find? k)
  | nil, m => rfl
  | cons l _ v rest, m => by
    rw [toList_cons, List.foldl_cons, find?_foldl_insert k rest, find?_insert, find?]
    split_ifs with hk
    · rw [hk, find?_rest_self]
      rfl
    · rfl

lemma find?_overlay (m s : Dict α) (k : String) :
    (m.overlay s).find? k = (s.find? k).or (m.find? k) :=
  find?_foldl_insert k s m

lemma overlay_assoc (t a b : Dict α) : (t.overlay a).overlay b = t.overlay (a.overlay b) := by
  refine ext_find? fun k => ?_
  simp only [find?_overlay, Option.or_assoc]

lemma overlay_self (t : Dict α) : t.overlay t = t := by
  refine ext_find? fun k => ?_
  rw [find?_overlay, Option.or_self]

lemma overlay_self_right (t a : Dict α) : (t.overlay a).overlay a = t.overlay a := by
  rw [overlay_assoc, overlay_self]

lemma overlay_nil (t : Dict α) : t.overlay nil = t := rfl

/-- Maps without a common key can be inserted in either order. -/
lemma overlay_comm {a b : Dict α} (t : Dict α) (h : List.Disjoint a.keys b.keys) :
    (t.overlay a).overlay b = (t.overlay b).overlay a := by
  refine ext_find? fun k => ?_
  simp only [find?_overlay]
  cases ha : a.find? k with
  | none => cases b.find? k <;> rfl
  | some v =>
      have hmem : k ∈ a.keys := (isSome_find?_iff k a).1 (by rw [ha]; rfl)
      have hb : b.find? k = none := by
        rw [← Option.not_isSome_iff_eq_none, isSome_find?_iff]
        exact fun hmem' => h hmem hmem'
      rw [hb]
      rfl

end BootLayer.Entries
