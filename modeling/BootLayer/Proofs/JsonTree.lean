import Mathlib.Tactic.Common
import BootLayer.Proofs.Nesting

/-!
What is left of a value after a way through JSON, and of a document after a way through values.

The normal form of a value (`Value.normal`) has a list of integers for bytes, a map for a record and
nothing for a number that is not finite, at every depth.

* `toValue_ofValue`: the document of a value is read as its normal form.
* `ofValue_normal`: a value and its normal form have the same document.
* `normal_eq_self_iff`: a value is its own normal form exactly if none of the three stands in it.
* `ofValue_toValue_eq_self_iff`: a document comes back from its value exactly if no integer in it is
  beyond 64 bits with sign.
-/

namespace BootLayer

/-! ### Normal form -/

namespace Value

mutual

/-- The normal form of a value: bytes as a list of integers, a record as the map of its fields, and
a number that is not finite as nothing, at every depth. -/
def normal : Value → Value
  | bytes data => list (data.map fun b => int (Int64.ofNat b.toNat))
  | float x => if x.isFinite then float x else none
  | list l => list (normalItems l)
  | map m => map (normalEntries m)
  | record _ m => map (normalEntries m)
  | other => other

/-- The normal forms of the items of a list. -/
def normalItems : List Value → List Value
  | [] => []
  | v :: rest => normal v :: normalItems rest

/-- The normal forms of the values of a map. -/
def normalEntries {lo : Option String} : Entries Value lo → Entries Value lo
  | .nil => .nil
  | .cons k h v rest => .cons k h (normal v) (normalEntries rest)

end

/-- The value itself, whatever stands in it, is no bytes, no record and no number that is not
finite. -/
def HasJsonForm : Value → Prop
  | bytes _ => False
  | record .. => False
  | float x => x.isFinite = true
  | _ => True

end Value

/-- The document itself, whatever stands in it, is no integer beyond 64 bits with sign. -/
def Json.FitsInt64 : Json → Prop
  | .nat .. => False
  | _ => True

/-! ### Item by item -/

namespace Value

lemma normalItems_eq_map (l : List Value) : normalItems l = l.map normal := by
  induction l with
  | nil => rfl
  | cons v rest ih => rw [normalItems, ih, List.map_cons]

lemma toList_normalEntries {lo : Option String} : (m : Entries Value lo) →
    (normalEntries m).toList = m.toList.map fun e => (e.1, e.2.normal)
  | .nil => rfl
  | .cons _ _ _ rest => congrArg (List.cons _) (toList_normalEntries rest)

end Value

namespace Json

lemma toValues_eq_map (l : List Json) : toValues l = l.map toValue := by
  induction l with
  | nil => rfl
  | cons j rest ih => rw [toValues, ih, List.map_cons]

lemma toList_toEntries {lo : Option String} : (m : Entries Json lo) →
    (toEntries m).toList = m.toList.map fun e => (e.1, e.2.toValue)
  | .nil => rfl
  | .cons _ _ _ rest => congrArg (List.cons _) (toList_toEntries rest)

lemma ofValues_eq_map (l : List Value) : ofValues l = l.map ofValue := by
  induction l with
  | nil => rfl
  | cons v rest ih => rw [ofValues, ih, List.map_cons]

lemma toList_ofEntries {lo : Option String} : (m : Entries Value lo) →
    (ofEntries m).toList = m.toList.map fun e => (e.1, ofValue e.2)
  | .nil => rfl
  | .cons _ _ _ rest => congrArg (List.cons _) (toList_ofEntries rest)

/-! ### There and back -/

lemma ofByte_eq (b : UInt8) : ofByte b = int (Int64.ofNat b.toNat) := by
  rw [ofByte, ← UInt64.ofNat_uInt8ToNat]
  rfl

lemma toEntries_ofEntries {lo : Option String} {m : Entries Value lo}
    (h : ∀ v ∈ m.values, (ofValue v).toValue = v.normal) :
    toEntries (ofEntries m) = Value.normalEntries m := by
  refine Entries.ext ?_
  rw [toList_toEntries, toList_ofEntries, Value.toList_normalEntries, List.map_map]
  refine List.map_congr_left fun e he => ?_
  exact congrArg (Prod.mk e.1) (Entries.forall_mem_values.1 h e he)

/-- The document of a value is read as its normal form. -/
lemma toValue_ofValue (v : Value) : (ofValue v).toValue = v.normal := by
  induction v using Value.ind with
  | _ v ih =>
      cases v with
      | float x =>
          rw [ofValue, Value.normal]
          split_ifs <;> rfl
      | bytes data =>
          rw [ofValue, toValue, Value.normal, toValues_eq_map, List.map_map]
          exact congrArg Value.list (List.map_congr_left fun b _ => congrArg toValue (ofByte_eq b))
      | list l =>
          rw [ofValue, toValue, Value.normal, ofValues_eq_map, toValues_eq_map,
            Value.normalItems_eq_map, List.map_map]
          exact congrArg Value.list (List.map_congr_left ih)
      | map m => exact congrArg Value.map (toEntries_ofEntries ih)
      | record name m => exact congrArg Value.map (toEntries_ofEntries ih)
      | _ => rfl

lemma ofEntries_normalEntries {lo : Option String} {m : Entries Value lo}
    (h : ∀ v ∈ m.values, ofValue v.normal = ofValue v) :
    ofEntries (Value.normalEntries m) = ofEntries m := by
  refine Entries.ext ?_
  rw [toList_ofEntries, toList_ofEntries, Value.toList_normalEntries, List.map_map]
  refine List.map_congr_left fun e he => ?_
  exact congrArg (Prod.mk e.1) (Entries.forall_mem_values.1 h e he)

/-- A value and its normal form have the same document. -/
lemma ofValue_normal (v : Value) : ofValue v.normal = ofValue v := by
  induction v using Value.ind with
  | _ v ih =>
      cases v with
      | float x =>
          rw [Value.normal]
          split_ifs with hfinite
          · rfl
          · rw [ofValue, ofValue, dif_neg hfinite]
      | bytes data =>
          rw [Value.normal, ofValue, ofValue, ofValues_eq_map, List.map_map]
          exact congrArg array (List.map_congr_left fun b _ => (ofByte_eq b).symm)
      | list l =>
          rw [Value.normal, ofValue, ofValue, Value.normalItems_eq_map, ofValues_eq_map,
            ofValues_eq_map, List.map_map]
          exact congrArg array (List.map_congr_left ih)
      | map m => exact congrArg object (ofEntries_normalEntries ih)
      | record name m => exact congrArg object (ofEntries_normalEntries ih)
      | _ => rfl

end Json

/-! ### What comes back unchanged -/

/-- A list is left alone by a function exactly if each of its items is. -/
lemma map_eq_self_iff {α : Type} {f : α → α} {l : List α} : l.map f = l ↔ ∀ a ∈ l, f a = a := by
  conv_lhs => rhs; rw [← List.map_id l]
  rw [List.map_inj_left]
  rfl

/-- A map is left alone by a function on its values exactly if each of them is. -/
lemma Entries.map_eq_self_iff {α : Type} {lo : Option String} {f : α → α} {m m' : Entries α lo}
    (h : m'.toList = m.toList.map fun e => (e.1, f e.2)) :
    m' = m ↔ ∀ a ∈ m.values, f a = a := by
  have hlist : m' = m ↔ m'.toList = m.toList := ⟨congrArg Entries.toList, Entries.ext⟩
  rw [hlist, h, BootLayer.map_eq_self_iff, forall_mem_values]
  simp [Prod.ext_iff]

/-- **A value is its own normal form exactly if no bytes, no record and no number that is not finite
stands in it.** -/
lemma Value.normal_eq_self_iff (v : Value) : v.normal = v ↔ v.Everywhere HasJsonForm := by
  induction v using Value.ind with
  | _ v ih =>
      have hchildren : (∀ c ∈ v.children, c.normal = c) ↔
          ∀ c ∈ v.children, BootLayer.Everywhere children HasJsonForm c := forall₂_congr ih
      rw [Value.Everywhere, everywhere_iff, ← hchildren]
      cases v with
      | float x =>
          rw [normal]
          split_ifs with hfinite <;> simp [HasJsonForm, children, hfinite]
      | bytes data => simp [normal, HasJsonForm]
      | record name m => simp [normal, HasJsonForm]
      | list l =>
          rw [normal, normalItems_eq_map, Value.list.injEq, map_eq_self_iff]
          simp [HasJsonForm, children]
      | map m =>
          rw [normal, Value.map.injEq, Entries.map_eq_self_iff (toList_normalEntries m)]
          simp [HasJsonForm, children]
      | _ => simp [normal, HasJsonForm, children]

/-- **A document comes back from its value exactly if no integer in it is beyond 64 bits with
sign.** -/
lemma Json.ofValue_toValue_eq_self_iff (j : Json) :
    ofValue j.toValue = j ↔ j.Everywhere FitsInt64 := by
  induction j using Json.ind with
  | _ j ih =>
      have hchildren : (∀ c ∈ j.children, ofValue c.toValue = c) ↔
          ∀ c ∈ j.children, BootLayer.Everywhere children FitsInt64 c := forall₂_congr ih
      rw [Json.Everywhere, everywhere_iff, ← hchildren]
      cases j with
      | nat n large =>
          -- such an integer becomes a double, whose document is no integer
          rw [toValue, ofValue]
          split_ifs <;> simp [FitsInt64]
      | num x finite =>
          rw [toValue, ofValue, dif_pos finite]
          simp [FitsInt64, children]
      | array l =>
          rw [toValue, ofValue, toValues_eq_map, ofValues_eq_map, List.map_map, Json.array.injEq,
            map_eq_self_iff]
          simp [FitsInt64, children]
      | object m =>
          have hlist : (ofEntries (toEntries m)).toList =
              m.toList.map fun e => (e.1, ofValue e.2.toValue) := by
            rw [toList_ofEntries, toList_toEntries, List.map_map]
            rfl
          rw [toValue, ofValue, Json.object.injEq,
            Entries.map_eq_self_iff (f := fun j => ofValue j.toValue) hlist]
          simp [FitsInt64, children]
      | _ => simp [toValue, ofValue, FitsInt64, children]

/-- **The exact normal form of the way through JSON.**  The document of a value is read as the
normal form of the value, which has the same document; so the value itself comes back exactly if no
bytes, no record and no number that is not finite stands in it at any depth.  The other way round, a
document comes back from its value exactly if no integer beyond 64 bits with sign stands in it at
any depth. -/
theorem json_normal_form :
    (∀ v : Value, (Json.ofValue v).toValue = v.normal) ∧
    (∀ v : Value, Json.ofValue v.normal = Json.ofValue v) ∧
    (∀ v : Value, (Json.ofValue v).toValue = v ↔ v.Everywhere Value.HasJsonForm) ∧
    (∀ j : Json, Json.ofValue j.toValue = j ↔ j.Everywhere Json.FitsInt64) := by
  refine ⟨Json.toValue_ofValue, Json.ofValue_normal, fun v => ?_,
    Json.ofValue_toValue_eq_self_iff⟩
  rw [Json.toValue_ofValue, Value.normal_eq_self_iff]

end BootLayer
