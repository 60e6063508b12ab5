/-!
Maps from text to values, kept in strictly ascending key order by construction.  `Entries α lo`
holds only keys above the bound `lo`, so a map has exactly one representation: `Entries.ext` says
that two maps with the same list of entries are equal, and `find?_insert` what a key gives after
an insertion.  The order of keys is that of their code points.
-/

namespace BootLayer

/-! ### Bounds -/

/-- The key `k` lies above the lower bound `lo`; without a bound every key does. -/
def Above (lo : Option String) (k : String) : Prop := ∀ b ∈ lo, b < k

theorem above_none (k : String) : Above none k := by
  intro b hb
  cases hb

theorem above_some {b k : String} : Above (some b) k ↔ b < k :=
  ⟨fun h => h b rfl, fun h c hc => by cases hc; exact h⟩

/-- A bound passes up along the order. -/
theorem Above.trans {lo : Option String} {k l : String} (h : Above lo k) (hkl : k < l) :
    Above lo l :=
  fun b hb => String.lt_trans (h b hb) hkl

theorem lt_of_not_lt_of_ne {a b : String} (h : ¬a < b) (hne : a ≠ b) : b < a :=
  Std.lt_of_le_of_ne (String.not_lt.1 h) (Ne.symm hne)

/-! ### The type -/

/-- Entries in strictly ascending key order, all keys above `lo`. -/
inductive Entries (α : Type) : Option String → Type where
  | nil {lo : Option String} : Entries α lo
  | cons {lo : Option String} (key : String) (above : Above lo key) (value : α)
      (rest : Entries α (some key)) : Entries α lo

/-- A map from text to values. -/
abbrev Dict (α : Type) : Type := Entries α none

namespace Entries

variable {α : Type}

instance {lo : Option String} : Inhabited (Entries α lo) := ⟨nil⟩

/-! ### Views -/

/-- The entries in key order. -/
def toList {lo : Option String} : Entries α lo → List (String × α)
  | nil => []
  | cons k _ v rest => (k, v) :: rest.toList

/-- The keys in order. -/
def keys {lo : Option String} (m : Entries α lo) : List String := m.toList.map Prod.fst

/-- The number of entries. -/
def size {lo : Option String} (m : Entries α lo) : Nat := m.toList.length

/-- The value under a key. -/
def find? {lo : Option String} (key : String) : Entries α lo → Option α
  | nil => none
  | cons k _ v rest => if key = k then some v else rest.find? key

/-! ### Building -/

/-- Put `value` under `key`, in place of what was there, among entries above `lo`. -/
def insertAbove {lo : Option String} (key : String) (value : α) (h : Above lo key) :
    Entries α lo → Entries α lo
  | nil => cons key h value nil
  | cons k hk v rest =>
    if hlt : key < k then cons key h value (cons k (above_some.2 hlt) v rest)
    else if heq : key = k then cons k hk value rest
    else cons k hk v (rest.insertAbove key value (above_some.2 (lt_of_not_lt_of_ne hlt heq)))

/-- Put `value` under `key`, in place of what was there. -/
def insert (m : Dict α) (key : String) (value : α) : Dict α :=
  m.insertAbove key value (above_none key)

/-- The map with the given entries; of several with one key the last one stays. -/
def ofList (entries : List (String × α)) : Dict α :=
  entries.foldl (fun m e => m.insert e.1 e.2) nil

/-- The same entries under a lower bound. -/
def relax {lo : Option String} {k : String} (h : Above lo k) : Entries α (some k) → Entries α lo
  | nil => nil
  | cons l hl v rest => cons l (h.trans (above_some.1 hl)) v rest

/-- Drop the entry under a key, if there is one. -/
def erase {lo : Option String} (key : String) : Entries α lo → Entries α lo
  | nil => nil
  | cons k hk v rest => if key = k then rest.relax hk else cons k hk v (rest.erase key)

/-! ### The list determines the map -/

@[simp] theorem toList_nil {lo : Option String} : (nil : Entries α lo).toList = [] := rfl

@[simp] theorem toList_cons {lo : Option String} (k : String) (h : Above lo k) (v : α)
    (rest : Entries α (some k)) : (cons k h v rest).toList = (k, v) :: rest.toList := rfl

/-- Two maps with the same entries are equal. -/
theorem ext {lo : Option String} : {a b : Entries α lo} → a.toList = b.toList → a = b
  | nil, nil, _ => rfl
  | nil, cons .., h => by simp at h
  | cons .., nil, h => by simp at h
  | cons k hk v r, cons k' hk' v' r', h => by
    simp only [toList_cons, List.cons.injEq, Prod.mk.injEq] at h
    obtain ⟨⟨rfl, rfl⟩, hr⟩ := h
    rw [ext hr]

/-- Every key lies above the bound. -/
theorem above_of_mem_keys {lo : Option String} {k : String} : (m : Entries α lo) →
    k ∈ m.keys → Above lo k
  | nil, h => by simp [keys] at h
  | cons l hl v rest, h => by
    simp only [keys, toList_cons, List.map_cons, List.mem_cons] at h
    rcases h with rfl | h
    · exact hl
    · exact hl.trans (above_some.1 (above_of_mem_keys rest h))

/-- The keys ascend strictly. -/
theorem keys_pairwise {lo : Option String} : (m : Entries α lo) → m.keys.Pairwise (· < ·)
  | nil => List.Pairwise.nil
  | cons _ _ _ rest =>
    List.Pairwise.cons (fun _ h => above_some.1 (above_of_mem_keys rest h)) (keys_pairwise rest)

/-! ### What a key gives -/

theorem find?_insertAbove {lo : Option String} (k l : String) (v : α) (h : Above lo k) :
    (m : Entries α lo) → (m.insertAbove k v h).find? l = if l = k then some v else m.find? l
  | nil => rfl
  | cons k' hk' v' rest => by
    rw [insertAbove]
    split
    · simp [find?]
    · split
      · next heq => subst heq; simp only [find?]; split <;> rfl
      · next heq =>
        simp only [find?, find?_insertAbove k l v _ rest]
        split <;> split <;> simp_all

@[simp] theorem find?_insert (m : Dict α) (k l : String) (v : α) :
    (m.insert k v).find? l = if l = k then some v else m.find? l :=
  find?_insertAbove k l v (above_none k) m

end Entries

end BootLayer
