import Mathlib.Data.List.FinRange
import Mathlib.Data.List.Induction
import Mathlib.Data.List.Sort
import Mathlib.Tactic.Common
import BootLayer.Proofs.Lookup

/-!
Maps built by insertion.  A key above all others goes to the end (`toList_insert_of_forall_lt`), so
a list in ascending key order becomes the map with the very same list (`ofList_toList`).

* `find?_writes`: after a sequence of writes each key gives what was written to it last.
* `Reorders.foldl_insert_eq`: writes may change places as long as those to one key keep their order.
* `toList_ofList_perm`, `ofList_eq_of_perm`: entries with distinct keys all stay, in key order, and
  may be inserted in any order.
-/

namespace BootLayer.Entries

variable {α : Type}

/-- A key above all others goes to the end. -/
lemma toList_insertAbove_of_forall_lt {lo : Option String} {k : String} (v : α) (h : Above lo k) :
    (m : Entries α lo) → (∀ l ∈ m.keys, l < k) →
      (m.insertAbove k v h).toList = m.toList ++ [(k, v)]
  | nil, _ => rfl
  | cons l hl w rest, hall => by
    have hlt : l < k := hall l (by simp [keys])
    have hrest : ∀ l' ∈ rest.keys, l' < k := fun l' hl' => hall l' (List.mem_cons_of_mem l hl')
    rw [insertAbove, dif_neg (String.lt_asymm hlt), dif_neg (String.ne_of_lt hlt).symm, toList_cons,
      toList_insertAbove_of_forall_lt v _ rest hrest]
    rfl

lemma toList_insert_of_forall_lt {m : Dict α} {k : String} (v : α) (h : ∀ l ∈ m.keys, l < k) :
    (m.insert k v).toList = m.toList ++ [(k, v)] :=
  toList_insertAbove_of_forall_lt v (above_none k) m h

/-- Entries in ascending key order, all above those of a map, go to its end one after the other. -/
lemma toList_foldl_insert {entries : List (String × α)}
    (hascending : (entries.map Prod.fst).Pairwise (· < ·)) {m : Dict α}
    (hall : ∀ l ∈ m.keys, ∀ e ∈ entries, l < e.1) :
    (entries.foldl (fun m e => m.insert e.1 e.2) m).toList = m.toList ++ entries := by
  induction entries generalizing m with
  | nil => exact (List.append_nil _).symm
  | cons e entries ih =>
      obtain ⟨hfirst, hrest⟩ := List.pairwise_cons.1 hascending
      have hinsert := toList_insert_of_forall_lt e.2 fun l hl => hall l hl e (List.mem_cons_self ..)
      have hkeys : (m.insert e.1 e.2).keys = m.keys ++ [e.1] := by
        rw [keys, hinsert, List.map_append]
        rfl
      rw [List.foldl_cons, ih hrest, hinsert, List.append_assoc]
      · rfl
      · intro l hl d hd
        rw [hkeys, List.mem_append, List.mem_singleton] at hl
        rcases hl with hl | rfl
        · exact hall l hl d (List.mem_cons_of_mem e hd)
        · exact hfirst d.1 (List.mem_map_of_mem hd)

/-- **A map is built again from its entries.** -/
theorem ofList_toList (m : Dict α) : ofList m.toList = m := by
  refine ext ?_
  have hnil : ∀ l ∈ (nil : Dict α).keys, ∀ e ∈ m.toList, l < e.1 :=
    fun _ hl => absurd hl List.not_mem_nil
  rw [ofList, toList_foldl_insert m.keys_pairwise hnil]
  rfl

/-! ### The last write to a key -/

/-- The writes to one key, in their order. -/
def writesTo (key : String) (writes : List (String × α)) : List (String × α) :=
  writes.filter fun w => w.1 = key

lemma writesTo_append (key : String) (writes later : List (String × α)) :
    writesTo key (writes ++ later) = writesTo key writes ++ writesTo key later :=
  List.filter_append writes later

lemma writesTo_eq_nil_iff {key : String} {writes : List (String × α)} :
    writesTo key writes = [] ↔ key ∉ writes.map Prod.fst := by
  simp only [writesTo, List.filter_eq_nil_iff, decide_eq_true_eq, List.mem_map, not_exists, not_and]

/-- **After a sequence of writes a key gives what was written to it last**, and what it gave before
if nothing was. -/
lemma find?_writes (key : String) (writes : List (String × α)) (m : Dict α) :
    (writes.foldl (fun m w => m.insert w.1 w.2) m).find? key =
      ((writesTo key writes).getLast?.map Prod.snd).or (m.find? key) := by
  -- from the end, where the last write stands
  induction writes using List.reverseRecOn with
  | nil => rfl
  | append_singleton writes w ih =>
      rw [List.foldl_append, List.foldl_cons, List.foldl_nil, find?_insert, writesTo_append]
      by_cases hkey : key = w.1
      · simp [writesTo, hkey]
      · simp [writesTo, Ne.symm hkey, hkey, ih]

lemma find?_writes_of_last {key : String} {after : List (String × α)}
    (hlast : key ∉ after.map Prod.fst) (before : List (String × α)) (value : α) (m : Dict α) :
    ((before ++ (key, value) :: after).foldl (fun m w => m.insert w.1 w.2) m).find? key =
      some value := by
  have hto : writesTo key (before ++ (key, value) :: after) =
      writesTo key before ++ [(key, value)] := by
    rw [List.append_cons, writesTo_append, writesTo_append, writesTo_eq_nil_iff.2 hlast,
      List.append_nil]
    simp [writesTo]
  rw [find?_writes, hto, List.getLast?_concat]
  rfl

lemma find?_writes_of_not_mem {key : String} {writes : List (String × α)}
    (hnot : key ∉ writes.map Prod.fst) (m : Dict α) :
    (writes.foldl (fun m w => m.insert w.1 w.2) m).find? key = m.find? key := by
  rw [find?_writes, writesTo_eq_nil_iff.2 hnot]
  rfl

/-! ### Reordered writes -/

/-- The second sequence has the writes of the first at other places, and two writes to one key stand
there in the order in which they stood before. -/
def Reorders (writes later : List (String × α)) : Prop :=
  ∃ place : Fin writes.length ≃ Fin later.length,
    (∀ i, later.get (place i) = writes.get i) ∧
    ∀ i j, i < j → (writes.get i).1 = (writes.get j).1 → place i < place j

/-- The places of the writes to one key. -/
def placesOf (key : String) (writes : List (String × α)) : List (Fin writes.length) :=
  (List.finRange writes.length).filter fun i => (writes.get i).1 = key

lemma mem_placesOf {key : String} {writes : List (String × α)} {i : Fin writes.length} :
    i ∈ placesOf key writes ↔ (writes.get i).1 = key := by
  simp [placesOf]

lemma pairwise_placesOf (key : String) (writes : List (String × α)) :
    (placesOf key writes).Pairwise (· < ·) :=
  (List.pairwise_lt_finRange _).filter _

lemma map_get_placesOf (key : String) (writes : List (String × α)) :
    (placesOf key writes).map writes.get = writesTo key writes := by
  conv_rhs => rw [← List.map_get_finRange writes, writesTo, List.filter_map]
  rfl

/-- A reordering takes the places of one key to the places of that key, in their order. -/
lemma Reorders.writesTo_eq {writes later : List (String × α)} (h : Reorders writes later)
    (key : String) : writesTo key later = writesTo key writes := by
  obtain ⟨place, hget, horder⟩ := h
  have hsorted : ((placesOf key writes).map place).Pairwise (· < ·) := by
    rw [List.pairwise_map]
    refine (pairwise_placesOf key writes).imp_of_mem fun {i j} hi hj hij => ?_
    exact horder i j hij ((mem_placesOf.1 hi).trans (mem_placesOf.1 hj).symm)
  have hmem : ∀ j, j ∈ (placesOf key writes).map place ↔ j ∈ placesOf key later := by
    intro j
    obtain ⟨i, rfl⟩ := place.surjective j
    rw [List.mem_map_of_injective place.injective, mem_placesOf, mem_placesOf, hget]
  -- both lists ascend strictly, so that their members decide them
  have hplaces : (placesOf key writes).map place = placesOf key later :=
    hsorted.eq_of_mem_iff (pairwise_placesOf key later) hmem
  calc writesTo key later = ((placesOf key writes).map place).map later.get := by
        rw [hplaces, map_get_placesOf]
    _ = (placesOf key writes).map writes.get := by
        rw [List.map_map]
        exact List.map_congr_left fun i _ => hget i
    _ = writesTo key writes := map_get_placesOf key writes

/-- Reordered writes leave the same map. -/
lemma Reorders.foldl_insert_eq {writes later : List (String × α)} (h : Reorders writes later)
    (m : Dict α) :
    later.foldl (fun m w => m.insert w.1 w.2) m = writes.foldl (fun m w => m.insert w.1 w.2) m := by
  refine ext_find? fun key => ?_
  rw [find?_writes, find?_writes, h.writesTo_eq]

/-! ### Distinct keys -/

/-- With distinct keys every entry stays. -/
lemma find?_ofList_eq_some_iff {entries : List (String × α)}
    (hdistinct : (entries.map Prod.fst).Nodup) {key : String} {value : α} :
    (ofList entries).find? key = some value ↔ (key, value) ∈ entries := by
  constructor
  · intro h
    rw [ofList, find?_writes, find?, Option.or_none, Option.map_eq_some_iff] at h
    obtain ⟨w, hlast, rfl⟩ := h
    have hmem := List.mem_of_getLast? hlast
    rw [writesTo, List.mem_filter, decide_eq_true_eq] at hmem
    obtain ⟨hmem, rfl⟩ := hmem
    exact hmem
  · intro hmem
    -- no write to the key follows, since it stands here already
    obtain ⟨before, after, rfl⟩ := List.append_of_mem hmem
    rw [List.map_append, List.map_cons] at hdistinct
    exact find?_writes_of_last (List.nodup_cons.1 hdistinct.of_append_right).1 before value nil

/-- With distinct keys the entries stand in the map, in key order. -/
lemma toList_ofList_perm {entries : List (String × α)}
    (hdistinct : (entries.map Prod.fst).Nodup) : (ofList entries).toList.Perm entries := by
  have hkeys : ((ofList entries).toList.map Prod.fst).Nodup :=
    (ofList entries).keys_pairwise.imp String.ne_of_lt
  refine (List.perm_ext_iff_of_nodup hkeys.of_map hdistinct.of_map).2 fun ⟨key, value⟩ => ?_
  rw [← find?_eq_some_iff, find?_ofList_eq_some_iff hdistinct]

/-- With distinct keys the order of insertion does not count. -/
lemma ofList_eq_of_perm {entries order : List (String × α)}
    (hdistinct : (entries.map Prod.fst).Nodup) (hperm : order.Perm entries) :
    ofList order = ofList entries := by
  have hdistinct' : (order.map Prod.fst).Nodup := (hperm.map Prod.fst).nodup_iff.2 hdistinct
  refine ext_find? fun key => Option.ext fun value => ?_
  rw [find?_ofList_eq_some_iff hdistinct', find?_ofList_eq_some_iff hdistinct, hperm.mem_iff]

end BootLayer.Entries
