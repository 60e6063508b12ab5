import Mathlib.Tactic.Common
import BootLayer.Json

/-!
Values and documents as trees: what stands in them, and induction over it.

* `Within`, `Everywhere`: one tree stands within another at any depth, and a property holds of all
  that does; `everywhere_iff` unfolds this by one level.
* `Value.ind`, `Json.ind`: a property holds of every tree once it is inherited from the children.
* `Value.depth`, `Json.depth`: how many containers stand inside one another.
-/

namespace BootLayer

/-! ### Trees -/

section

variable {α : Type} {children : α → List α} {P : α → Prop}

/-- The first tree stands within the second, at any depth. -/
inductive Within (children : α → List α) : α → α → Prop where
  | self (t : α) : Within children t t
  | child {s c t : α} (hc : c ∈ children t) (h : Within children s c) : Within children s t

/-- The property holds of a tree and of all that stands within it. -/
def Everywhere (children : α → List α) (P : α → Prop) (t : α) : Prop :=
  ∀ s, Within children s t → P s

lemma everywhere_iff {t : α} :
    Everywhere children P t ↔ P t ∧ ∀ c ∈ children t, Everywhere children P c := by
  constructor
  · intro h
    exact ⟨h t (.self t), fun c hc s hs => h s (.child hc hs)⟩
  · rintro ⟨ht, hchildren⟩ s hs
    cases hs with
    | self => exact ht
    | child hc hs => exact hchildren _ hc s hs

lemma Everywhere.mono {Q : α → Prop} (hPQ : ∀ t, P t → Q t) {t : α}
    (h : Everywhere children P t) : Everywhere children Q t := fun s hs => hPQ s (h s hs)

lemma Everywhere.child {t c : α} (h : Everywhere children P t) (hc : c ∈ children t) :
    Everywhere children P c := (everywhere_iff.1 h).2 c hc

end

/-- The values of a map, in key order. -/
def Entries.values {α : Type} {lo : Option String} (m : Entries α lo) : List α :=
  m.toList.map Prod.snd

lemma Entries.forall_mem_values {α : Type} {lo : Option String} {m : Entries α lo}
    {P : α → Prop} : (∀ v ∈ m.values, P v) ↔ ∀ e ∈ m.toList, P e.2 := List.forall_mem_map

/-! ### Values -/

namespace Value

/-- What stands directly in a value. -/
def children : Value → List Value
  | list l => l
  | map m => m.values
  | record _ m => m.values
  | _ => []

/-- The property holds of a value and of all that stands within it. -/
def Everywhere (P : Value → Prop) : Value → Prop := BootLayer.Everywhere children P

/-- A property of values holds of all of them once it is inherited from the children. -/
@[elab_as_elim]
theorem ind {P : Value → Prop} (h : ∀ v : Value, (∀ c ∈ v.children, P c) → P v) (v : Value) :
    P v := by
  have leaf : ∀ v : Value, v.children = [] → P v := fun v hv => h v (by simp [hv])
  exact @Value.rec P (fun l => ∀ v ∈ l, P v) (fun _ m => ∀ e ∈ m.toList, P e.2)
    (leaf _ rfl) (fun _ => leaf _ rfl) (fun _ => leaf _ rfl) (fun _ => leaf _ rfl)
    (fun _ => leaf _ rfl) (fun _ => leaf _ rfl)
    (fun l ih => h (list l) ih)
    (fun m ih => h (map m) (Entries.forall_mem_values.2 ih))
    (fun name m ih => h (record name m) (Entries.forall_mem_values.2 ih))
    (fun _ hv => absurd hv List.not_mem_nil)
    (fun _ _ hhead htail => List.forall_mem_cons.2 ⟨hhead, htail⟩)
    (fun _ he => absurd he List.not_mem_nil)
    (fun _ _ _ _ hvalue hrest => List.forall_mem_cons.2 ⟨hvalue, hrest⟩)
    v

mutual

/-- How many containers stand inside one another in a value. -/
def depth : Value → Nat
  | list l => depthOfItems l + 1
  | map m => depthOfEntries m + 1
  | record _ m => depthOfEntries m + 1
  | _ => 0

/-- The greatest depth among the items of a list. -/
def depthOfItems : List Value → Nat
  | [] => 0
  | v :: rest => max (depth v) (depthOfItems rest)

/-- The greatest depth among the values of a map. -/
def depthOfEntries {lo : Option String} : Entries Value lo → Nat
  | .nil => 0
  | .cons _ _ v rest => max (depth v) (depthOfEntries rest)

end

end Value

/-! ### Documents -/

namespace Json

/-- What stands directly in a document. -/
def children : Json → List Json
  | array l => l
  | object m => m.values
  | _ => []

/-- The property holds of a document and of all that stands within it. -/
def Everywhere (P : Json → Prop) : Json → Prop := BootLayer.Everywhere children P

/-- A property of documents holds of all of them once it is inherited from the children. -/
@[elab_as_elim]
theorem ind {P : Json → Prop} (h : ∀ j : Json, (∀ c ∈ j.children, P c) → P j) (j : Json) :
    P j := by
  have leaf : ∀ j : Json, j.children = [] → P j := fun j hj => h j (by simp [hj])
  exact @Json.rec P (fun l => ∀ j ∈ l, P j) (fun _ m => ∀ e ∈ m.toList, P e.2)
    (leaf _ rfl) (fun _ => leaf _ rfl) (fun _ => leaf _ rfl) (fun _ _ => leaf _ rfl)
    (fun _ _ => leaf _ rfl) (fun _ => leaf _ rfl)
    (fun l ih => h (array l) ih)
    (fun m ih => h (object m) (Entries.forall_mem_values.2 ih))
    (fun _ hj => absurd hj List.not_mem_nil)
    (fun _ _ hhead htail => List.forall_mem_cons.2 ⟨hhead, htail⟩)
    (fun _ he => absurd he List.not_mem_nil)
    (fun _ _ _ _ hvalue hrest => List.forall_mem_cons.2 ⟨hvalue, hrest⟩)
    j

mutual

/-- How many containers stand inside one another in a document. -/
def depth : Json → Nat
  | array l => depthOfItems l + 1
  | object m => depthOfMembers m + 1
  | _ => 0

/-- The greatest depth among the items of an array. -/
def depthOfItems : List Json → Nat
  | [] => 0
  | j :: rest => max (depth j) (depthOfItems rest)

/-- The greatest depth among the members of an object. -/
def depthOfMembers {lo : Option String} : Entries Json lo → Nat
  | .nil => 0
  | .cons _ _ j rest => max (depth j) (depthOfMembers rest)

end

end Json

end BootLayer
