import BootLayer.Json.Printer
import BootLayer.Proofs.Insertion
import BootLayer.Proofs.JsonTree
import BootLayer.Proofs.Merge
import BootLayer.Value.Display

/-!
Values assigned under keys, one after the other: to the fields of a record, or to any target that a
merge drives.

* `Record.get?_setAll_of_last`, `Record.get?_setAll_of_not_mem`: what a field holds after a sequence
  of writes.
* `Record.display_toValue`, `Record.text_ofValue_toValue`: both texts of a record list its fields in
  key order.
* `last_writes_decide_record`: only the last write to each field counts, in the record and in its
  texts.
* `merge_drives_target_once_a_key`: what a merge does to a target of any type.
-/

namespace BootLayer

/-! ### Key order -/

/-- Texts are ordered code point by code point. -/
lemma lex_codes_of_lt {a b : String} (h : a < b) :
    List.Lex (· < ·) (a.toList.map Char.toNat) (b.toList.map Char.toNat) :=
  List.map_lt (fun _ _ hlt => UInt32.lt_iff_toNat_lt.1 hlt) (show a.toList < b.toList from h)

/-- The keys ascend strictly, code point by code point. -/
def InKeyOrder (entries : List (String × Value)) : Prop :=
  entries.Pairwise fun e e' =>
    List.Lex (· < ·) (e.1.toList.map Char.toNat) (e'.1.toList.map Char.toNat)

lemma inKeyOrder_toList (m : Dict Value) : InKeyOrder m.toList :=
  (List.pairwise_map.1 m.keys_pairwise).imp lex_codes_of_lt

/-! ### Texts of fields -/

lemma Value.displayEntries_eq_map {lo : Option String} (key : String → String) :
    (m : Entries Value lo) → displayEntries key m =
      m.toList.map fun e => key e.1 ++ ": " ++ displayBy inQuotes e.2
  | .nil => rfl
  | .cons _ _ _ rest => by
    rw [displayEntries, displayEntries_eq_map key rest]
    rfl

lemma Json.memberChars_eq_intercalate {lo : Option String} : (m : Entries Json lo) →
    memberChars m = [','].intercalate (m.toList.map fun e => stringText e.1 ++ ':' :: e.2.chars)
  | .nil => rfl
  | .cons _ _ _ .nil => by
    rw [memberChars, Entries.toList_cons, List.map_cons]
    exact List.intercalate_singleton.symm
  | .cons k _ i (.cons l h j rest) => by
    rw [memberChars, memberChars_eq_intercalate (.cons l h j rest), Entries.toList_cons k,
      List.map_cons, List.intercalate_cons_of_ne_nil (by simp)]
    simp only [List.append_assoc, List.cons_append, List.nil_append]

/-! ### Records -/

namespace Record

/-- The record after a sequence of writes to its fields. -/
def setAll (r : Record) (writes : List (String × Value)) : Record :=
  writes.foldl (fun r w => r.set w.1 w.2) r

lemma setAll_eq (r : Record) (writes : List (String × Value)) :
    r.setAll writes =
      { r with fields := writes.foldl (fun m w => m.insert w.1 w.2) r.fields } :=
  foldl_set r writes

lemma get?_setAll_of_last {name : String} {after : List (String × Value)}
    (hlast : name ∉ after.map Prod.fst) (r : Record) (before : List (String × Value))
    (value : Value) : (r.setAll (before ++ (name, value) :: after)).get? name = some value := by
  rw [setAll_eq]
  exact Entries.find?_writes_of_last hlast before value r.fields

lemma get?_setAll_of_not_mem {name : String} {writes : List (String × Value)}
    (hnot : name ∉ writes.map Prod.fst) (r : Record) :
    (r.setAll writes).get? name = r.get? name := by
  rw [setAll_eq]
  exact Entries.find?_writes_of_not_mem hnot r.fields

lemma setAll_of_reorders {writes later : List (String × Value)}
    (h : Entries.Reorders writes later) (r : Record) : r.setAll later = r.setAll writes := by
  rw [setAll_eq, setAll_eq, h.foldl_insert_eq]

/-- The display text names the type and lists the fields in key order. -/
lemma display_toValue (r : Record) :
    r.toValue.display = r.typeName ++ "(" ++
      ", ".intercalate (r.fields.toList.map fun f => f.1 ++ ": " ++ f.2.displayBy Value.inQuotes) ++
      ")" := by
  show r.typeName ++ "(" ++ Value.commaSeparated (Value.displayEntries id r.fields) ++ ")" = _
  rw [Value.displayEntries_eq_map]
  rfl

/-- The JSON text lists the fields in key order. -/
lemma text_ofValue_toValue (r : Record) :
    (Json.ofValue r.toValue).text = "\x7b" ++
      ",".intercalate (r.fields.toList.map fun f =>
        (Json.str f.1).text ++ ":" ++ (Json.ofValue f.2).text) ++ "\x7d" := by
  show String.ofList ('\x7b' :: Json.memberChars (Json.ofEntries r.fields) ++ ['\x7d']) = _
  rw [Json.memberChars_eq_intercalate, Json.toList_ofEntries, List.map_map, ← String.toList_inj]
  have hkey (name : String) : (Json.str name).chars = Json.stringText name := rfl
  simp [String.toList_intercalate, Json.text, hkey, Function.comp_def]

end Record

/-- **The last write to each field decides a record.**  After a sequence of writes the type is the
same, a field that was written holds what was written to it last, and any other what it held before.
A reordering in which the writes to one field keep their order leaves the same record with the same
texts, and the texts list what the fields hold in key order. -/
theorem last_writes_decide_record (r : Record) (writes : List (String × Value)) :
    (r.setAll writes).typeName = r.typeName ∧
    (∀ before name value after, writes = before ++ (name, value) :: after →
      name ∉ after.map Prod.fst → (r.setAll writes).get? name = some value) ∧
    (∀ name, name ∉ writes.map Prod.fst → (r.setAll writes).get? name = r.get? name) ∧
    (∀ later, Entries.Reorders writes later →
      r.setAll later = r.setAll writes ∧
      (r.setAll later).toValue.display = (r.setAll writes).toValue.display ∧
      (Json.ofValue (r.setAll later).toValue).text =
        (Json.ofValue (r.setAll writes).toValue).text) ∧
    ∃ fields : List (String × Value), InKeyOrder fields ∧
      (∀ name value, (name, value) ∈ fields ↔ (r.setAll writes).get? name = some value) ∧
      (r.setAll writes).toValue.display = r.typeName ++ "(" ++
        ", ".intercalate (fields.map fun f => f.1 ++ ": " ++ f.2.displayBy Value.inQuotes) ++ ")" ∧
      (Json.ofValue (r.setAll writes).toValue).text = "\x7b" ++
        ",".intercalate (fields.map fun f =>
          (Json.str f.1).text ++ ":" ++ (Json.ofValue f.2).text) ++ "\x7d" := by
  have htype : (r.setAll writes).typeName = r.typeName := by rw [Record.setAll_eq]
  refine ⟨htype, ?_, fun name hnot => Record.get?_setAll_of_not_mem hnot r, fun later h => ?_, ?_⟩
  · rintro before name value after rfl hlast
    exact Record.get?_setAll_of_last hlast r before value
  · have hsame := Record.setAll_of_reorders h r
    exact ⟨hsame, congrArg (·.toValue.display) hsame,
      congrArg (fun r => (Json.ofValue r.toValue).text) hsame⟩
  · refine ⟨(r.setAll writes).fields.toList, inKeyOrder_toList _, fun name value => ?_, ?_, ?_⟩
    · exact (Entries.find?_eq_some_iff _).symm
    · rw [Record.display_toValue, htype]
    · exact Record.text_ofValue_toValue _

/-- A field written twice, with a write to another field moved to the front. -/
theorem point_takes_last_writes :
    let point : Record := ⟨"Point", .ofList [("z", .int 0)]⟩
    let writes : List (String × Value) := [("y", .int 1), ("x", .int 2), ("y", .int 3)]
    let later : List (String × Value) := [("x", .int 2), ("y", .int 1), ("y", .int 3)]
    Entries.Reorders writes later ∧
    (point.setAll writes).get? "y" = some (.int 3) ∧
    (point.setAll writes).get? "z" = point.get? "z" ∧
    point.setAll later = point.setAll writes ∧
    (point.setAll later).toValue.display = (point.setAll writes).toValue.display ∧
    (point.setAll writes).toValue.display = "Point(x: 2, y: 3, z: 0)" := by
  intro point writes later
  have hreorders : Entries.Reorders writes later := by
    refine ⟨Equiv.swap (0 : Fin 3) 1, fun i => ?_, by decide⟩
    match i with
    | 0 => rfl
    | 1 => rfl
    | 2 => rfl
  obtain ⟨-, hlast, hold, hreordered, -⟩ := last_writes_decide_record point writes
  obtain ⟨hsame, hdisplay, -⟩ := hreordered later hreorders
  exact ⟨hreorders, hlast [("y", .int 1), ("x", .int 2)] "y" _ [] rfl List.not_mem_nil,
    hold "z" (by decide), hsame, hdisplay, by decide +kernel⟩

/-! ### Targets -/

/-- Merging from the source succeeds, and all it does to a target is to make these assignments, in
their order and each of them once, whatever the target is and however it takes assignments. -/
def Value.Drives (source : Value) (assignments : List (String × Value)) : Prop :=
  ∀ {τ : Type} (assign : τ → String → Value → τ) (target : τ),
    assignEntries assign target source =
      (.ok (), assignments.foldl (fun t a => assign t a.1 a.2) target)

lemma Value.drives_toList {source : Value} {entries : Dict Value}
    (h : source.entries? = some entries) : source.Drives entries.toList := by
  intro τ assign target
  rw [assignEntries, h]

/-- **A merge drives any target once a key, in key order.**  A source that is no mapping is a type
fault, and nothing is assigned.  From a mapping each key is assigned its value exactly once, in
strictly ascending order of code points, and a target of any type ends as the fold of these
assignments.  Entries with distinct keys make the same assignments in whatever order they were put
into a map or set as the fields of a record. -/
theorem merge_drives_target_once_a_key :
    (∀ source : Value, ¬source.IsMapping →
      ∀ {τ : Type} (assign : τ → String → Value → τ) (target : τ),
        assignEntries assign target source = (.error (.mergeSource source.kind), target)) ∧
    (∀ source : Value, source.IsMapping →
      ∃ entries assignments, source.entries? = some entries ∧ source.Drives assignments ∧
        InKeyOrder assignments ∧
        ∀ key value, (key, value) ∈ assignments ↔ entries.find? key = some value) ∧
    ∀ entries : List (String × Value), (entries.map Prod.fst).Nodup →
      ∃ assignments, assignments.Perm entries ∧ InKeyOrder assignments ∧
        ∀ order, order.Perm entries →
          (Value.map (.ofList order)).Drives assignments ∧
          ∀ typeName, (Record.setAll ⟨typeName, .nil⟩ order).toValue.Drives assignments := by
  refine ⟨fun source hsource τ assign target => ?_, fun source hsource => ?_,
    fun entries hdistinct => ?_⟩
  · rw [assignEntries, Value.entries?_eq_none_iff.2 hsource]
  · obtain ⟨entries, hentries⟩ := Value.isMapping_iff.1 hsource
    exact ⟨entries, entries.toList, hentries, Value.drives_toList hentries,
      inKeyOrder_toList entries, fun key value => (Entries.find?_eq_some_iff entries).symm⟩
  · refine ⟨(Entries.ofList entries).toList, Entries.toList_ofList_perm hdistinct,
      inKeyOrder_toList _, fun order hperm => ?_⟩
    rw [← Entries.ofList_eq_of_perm hdistinct hperm]
    refine ⟨Value.drives_toList rfl, fun typeName => Value.drives_toList ?_⟩
    rw [Record.setAll_eq]
    rfl

/-- A log of assignments from keys put in out of order, as a map and backwards as a record. -/
theorem faces_drive_log_in_key_order :
    let entries : List (String × Value) := [("😀", .int 1), ("z", .int 2), ("～", .int 3)]
    let log : List (String × Value) → String → Value → List (String × Value) :=
      fun seen key value => seen ++ [(key, value)]
    (entries.map Prod.fst).Nodup ∧
    assignEntries log [] (.map (.ofList entries)) =
      (.ok (), [("z", .int 2), ("～", .int 3), ("😀", .int 1)]) ∧
    assignEntries log [] (Record.setAll ⟨"Face", .nil⟩ entries.reverse).toValue =
      (.ok (), [("z", .int 2), ("～", .int 3), ("😀", .int 1)]) ∧
    assignEntries log [] (.str "abc") = (.error (.mergeSource .str), []) := by
  intro entries log
  have hdistinct : (entries.map Prod.fst).Nodup := by decide
  have hmap : assignEntries log [] (.map (.ofList entries)) =
      (.ok (), [("z", .int 2), ("～", .int 3), ("😀", .int 1)]) := rfl
  obtain ⟨hfails, -, hbuilt⟩ := merge_drives_target_once_a_key
  obtain ⟨assignments, -, -, hdrives⟩ := hbuilt entries hdistinct
  have hforwards := (hdrives entries .rfl).1 log []
  have hbackwards := (hdrives entries.reverse entries.reverse_perm).2 "Face" log []
  refine ⟨hdistinct, hmap, ?_, hfails (.str "abc") ?_ log []⟩
  · exact hbackwards.trans (hforwards.symm.trans hmap)
  · simp [Value.IsMapping, Value.kind]

end BootLayer
