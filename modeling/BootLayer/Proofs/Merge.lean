import Mathlib.Tactic.Common
import BootLayer.Host
import BootLayer.Proofs.Lookup

/-!
Merging one mapping into another.

Maps and records are the mappings (`Value.IsMapping`).

* `assignEntries_of_error`, `mergeInPlace_of_error`: a failure leaves the target as it was, whatever
  is assigned to, and so does a failed merge.
* `merge_eq_ok_iff_inPlace`, `merge_eq_error_iff_inPlace`: what a merge gives, and what it leaves.
* `merge_eq_ok_iff`, `merge_eq_error_iff`: all that a merge does.  Two mappings merge into the
  target with the entries of the source laid over its own, and else the first value that is no
  mapping is the fault.
* `merge_is_right_biased_union`: what every key gives after a merge, whichever of maps and records
  the two values are, and that a failed merge changes nothing and names the kind at fault.
* `merge_laws`: merging is associative, idempotent, has empty mappings as its neutral sources, and
  sources without a common key can be merged in either order.
-/

namespace BootLayer

/-! ### Mappings -/

namespace Value

/-- Maps and records, the values that have entries. -/
def IsMapping (v : Value) : Prop := v.kind = .map ∨ v.kind = .record

/-- The mapping with other entries: a map stays a map, and a record one of the same type. -/
def withEntries : Value → Dict Value → Value
  | map _, entries => map entries
  | record typeName _, entries => record typeName entries
  | other, _ => other

lemma isMapping_iff {v : Value} : v.IsMapping ↔ ∃ entries, v.entries? = some entries := by
  cases v <;> simp [IsMapping, kind, entries?]

lemma entries?_eq_none_iff {v : Value} : v.entries? = Option.none ↔ ¬v.IsMapping := by
  rw [isMapping_iff, Option.eq_none_iff_forall_ne_some, not_exists]

lemma entries?_withEntries {v : Value} {old : Dict Value} (h : v.entries? = some old)
    (entries : Dict Value) : (v.withEntries entries).entries? = some entries := by
  cases v <;> cases h <;> rfl

lemma withEntries_withEntries (v : Value) (entries entries' : Dict Value) :
    (v.withEntries entries).withEntries entries' = v.withEntries entries' := by
  cases v <;> rfl

lemma withEntries_self {v : Value} {entries : Dict Value} (h : v.entries? = some entries) :
    v.withEntries entries = v := by
  cases v <;> cases h <;> rfl

end Value

/-! ### What a merge does -/

/-- Assigning fields one after the other keeps the type of a record. -/
lemma Record.foldl_set (r : Record) (entries : List (String × Value)) :
    entries.foldl (fun r e => r.set e.1 e.2) r =
      { r with fields := entries.foldl (fun m e => m.insert e.1 e.2) r.fields } := by
  induction entries generalizing r with
  | nil => rfl
  | cons e entries ih => rw [List.foldl_cons, ih, List.foldl_cons]; rfl

/-- A failure leaves the target as it was. -/
lemma assignEntries_of_error {τ : Type} {assign : τ → String → Value → τ} {target : τ}
    {source : Value} {fault : TypeFault}
    (h : (assignEntries assign target source).1 = .error fault) :
    assignEntries assign target source = (.error fault, target) := by
  cases hsource : source.entries? with
  | none =>
      rw [assignEntries, hsource] at h ⊢
      rw [← h]
  | some entries =>
      rw [assignEntries, hsource] at h
      cases h

/-- **A failed merge leaves its target as it was.** -/
lemma mergeInPlace_of_error {target source : Value} {fault : TypeFault}
    (h : (mergeInPlace target source).1 = .error fault) :
    mergeInPlace target source = (.error fault, target) := by
  cases target with
  | map m =>
      have hitems : (assignEntries Entries.insert m source).1 = .error fault := h
      rw [mergeInPlace, assignEntries_of_error hitems]
      rfl
  | record typeName fields =>
      have hfields : (assignEntries Record.set ⟨typeName, fields⟩ source).1 = .error fault := h
      rw [mergeInPlace, assignEntries_of_error hfields]
      rfl
  | _ => exact Prod.ext h rfl

/-- Two mappings merge into the target with the source laid over it. -/
lemma mergeInPlace_of_entries {target source : Value} {old new : Dict Value}
    (htarget : target.entries? = some old) (hsource : source.entries? = some new) :
    mergeInPlace target source = (.ok (), target.withEntries (old.overlay new)) := by
  cases target <;> cases htarget
  · simp only [mergeInPlace, assignEntries, hsource]
    rfl
  · simp only [mergeInPlace, assignEntries, hsource, Record.foldl_set]
    rfl

section

variable {τ υ : Type}

lemma completed_map (f : τ → υ) (assigned : Except TypeFault Unit × τ) :
    completed (assigned.map id f) = (completed assigned).map f := by
  rcases assigned with ⟨_ | _, _⟩ <;> rfl

lemma completed_eq_ok_iff {assigned : Except TypeFault Unit × τ} {merged : τ} :
    completed assigned = .ok merged ↔ assigned = (.ok (), merged) := by
  rcases assigned with ⟨_ | _, _⟩ <;> simp [completed, Except.map]

lemma completed_eq_error_iff {assigned : Except TypeFault Unit × τ} {fault : TypeFault} :
    completed assigned = .error fault ↔ assigned.1 = .error fault := by
  rcases assigned with ⟨_ | _, _⟩ <;> simp [completed, Except.map]

end

/-- A merge gives what a merge in place leaves if it succeeds. -/
lemma completed_mergeInPlace (target source : Value) :
    completed (mergeInPlace target source) = merge target source := by
  cases target with
  | map m => exact completed_map ..
  | record typeName fields => exact completed_map ..
  | _ => rfl

/-- A merge succeeds exactly if the merge in place does, with the same value. -/
lemma merge_eq_ok_iff_inPlace {target source merged : Value} :
    merge target source = .ok merged ↔ mergeInPlace target source = (.ok (), merged) := by
  rw [← completed_mergeInPlace, completed_eq_ok_iff]

/-- A merge fails exactly if the merge in place does, which then leaves the target as it was. -/
lemma merge_eq_error_iff_inPlace {target source : Value} {fault : TypeFault} :
    merge target source = .error fault ↔ mergeInPlace target source = (.error fault, target) := by
  rw [← completed_mergeInPlace, completed_eq_error_iff]
  exact ⟨mergeInPlace_of_error, fun h => by rw [h]⟩

/-- Two mappings merge into the target with the source laid over it. -/
lemma merge_of_entries {target source : Value} {old new : Dict Value}
    (htarget : target.entries? = some old) (hsource : source.entries? = some new) :
    merge target source = .ok (target.withEntries (old.overlay new)) :=
  merge_eq_ok_iff_inPlace.2 (mergeInPlace_of_entries htarget hsource)

/-- A target that is no mapping is the first fault. -/
lemma merge_of_not_target {target : Value} (h : ¬target.IsMapping) (source : Value) :
    merge target source = .error (.mergeTarget target.kind) := by
  cases target with
  | map m => exact absurd (.inl rfl) h
  | record typeName fields => exact absurd (.inr rfl) h
  | _ => rfl

/-- A source that is no mapping is the fault of a target that is one. -/
lemma merge_of_not_source {target source : Value} (htarget : target.IsMapping)
    (hsource : ¬source.IsMapping) : merge target source = .error (.mergeSource source.kind) := by
  have hnone := Value.entries?_eq_none_iff.2 hsource
  obtain ⟨old, hold⟩ := Value.isMapping_iff.1 htarget
  cases target <;> cases hold
  · simp only [merge, mergeMap, mergeInto, assignEntries, hnone]
    rfl
  · simp only [merge, mergeRecord, mergeInto, assignEntries, hnone]
    rfl

/-- A merge gives a value exactly if both sides are mappings, and then this one. -/
lemma merge_eq_ok_iff {target source merged : Value} :
    merge target source = .ok merged ↔ ∃ old new, target.entries? = some old ∧
      source.entries? = some new ∧ target.withEntries (old.overlay new) = merged := by
  constructor
  · intro h
    by_cases htarget : target.IsMapping
    · by_cases hsource : source.IsMapping
      · obtain ⟨old, hold⟩ := Value.isMapping_iff.1 htarget
        obtain ⟨new, hnew⟩ := Value.isMapping_iff.1 hsource
        rw [merge_of_entries hold hnew, Except.ok.injEq] at h
        exact ⟨old, new, hold, hnew, h⟩
      · rw [merge_of_not_source htarget hsource] at h
        cases h
    · rw [merge_of_not_target htarget] at h
      cases h
  · rintro ⟨old, new, hold, hnew, rfl⟩
    exact merge_of_entries hold hnew

/-- A merge that fails names the first value that is no mapping. -/
lemma merge_eq_error_iff {target source : Value} {fault : TypeFault} :
    merge target source = .error fault ↔
      ¬target.IsMapping ∧ fault = .mergeTarget target.kind ∨
      target.IsMapping ∧ ¬source.IsMapping ∧ fault = .mergeSource source.kind := by
  by_cases htarget : target.IsMapping
  · by_cases hsource : source.IsMapping
    · obtain ⟨old, hold⟩ := Value.isMapping_iff.1 htarget
      obtain ⟨new, hnew⟩ := Value.isMapping_iff.1 hsource
      simp [merge_of_entries hold hnew, htarget, hsource]
    · simp [merge_of_not_source htarget hsource, htarget, hsource, eq_comm]
  · simp [merge_of_not_target htarget, htarget, eq_comm]

/-! ### The primitive -/

namespace Host

lemma merge_of_eq_ok {target source merged : Value} (h : BootLayer.merge target source = .ok merged)
    (world : World) : merge target source world = ((.ok (), merged), world) := by
  rw [merge, merge_eq_ok_iff_inPlace.1 h]
  rfl

lemma merge_of_eq_error {target source : Value} {fault : TypeFault}
    (h : BootLayer.merge target source = .error fault) (world : World) :
    merge target source world = ((.error (.type fault), target), world) := by
  rw [merge, merge_eq_error_iff_inPlace.1 h]
  rfl

/-- The host merges exactly two mappings. -/
lemma merge_ok_iff (target source : Value) (world : World) :
    (merge target source world).1.1 = .ok () ↔ target.IsMapping ∧ source.IsMapping := by
  by_cases htarget : target.IsMapping
  · by_cases hsource : source.IsMapping
    · obtain ⟨old, hold⟩ := Value.isMapping_iff.1 htarget
      obtain ⟨new, hnew⟩ := Value.isMapping_iff.1 hsource
      simp [merge_of_eq_ok (merge_of_entries hold hnew), htarget, hsource]
    · simp [merge_of_eq_error (merge_of_not_source htarget hsource), hsource]
  · simp [merge_of_eq_error (merge_of_not_target htarget source), htarget]

end Host

/-- **Merging is a right-biased union of the entries, and fails without a trace.**  It succeeds
exactly for two mappings.  The target then stays a map, or a record of its type, and every key gives
what the source has under it, and else what the target had; whether target and source are maps or
records does not count.  A target that is no mapping is reported by its kind, whatever the source
is, and else the source by its kind, and the target stays as it was. -/
theorem merge_is_right_biased_union (target source : Value) (world : World) :
    ((Host.primitives.merge target source world).1.1 = .ok () ↔
      target.IsMapping ∧ source.IsMapping) ∧
    (∀ old new : Dict Value, ∃ entries : Dict Value,
      (∀ k, entries.find? k = (new.find? k).or (old.find? k)) ∧
      entries.keys.Pairwise (· < ·) ∧
      ∀ target source : Value, target.entries? = some old → source.entries? = some new →
        Host.primitives.merge target source world =
          ((.ok (), target.withEntries entries), world)) ∧
    (¬target.IsMapping →
      Host.primitives.merge target source world =
        ((.error (.type (.mergeTarget target.kind)), target), world)) ∧
    (target.IsMapping → ¬source.IsMapping →
      Host.primitives.merge target source world =
        ((.error (.type (.mergeSource source.kind)), target), world)) ∧
    ∀ kind : Kind,
      (∃ words, (Error.type (.mergeTarget kind)).message = words ++ kind.name) ∧
      ∃ words, (Error.type (.mergeSource kind)).message = words ++ kind.name := by
  refine ⟨Host.merge_ok_iff target source world, fun old new => ?_, fun htarget => ?_,
    fun htarget hsource => ?_, fun kind => ⟨?_, ?_⟩⟩
  · refine ⟨old.overlay new, old.find?_overlay new, Entries.keys_pairwise _, ?_⟩
    intro target source htarget hsource
    exact Host.merge_of_eq_ok (merge_of_entries htarget hsource) world
  · exact Host.merge_of_eq_error (merge_of_not_target htarget source) world
  · exact Host.merge_of_eq_error (merge_of_not_source htarget hsource) world
  · exact ⟨_, (String.append_assoc ..).symm⟩
  · exact ⟨_, (String.append_assoc ..).symm⟩

/-- A map merged into a record, and texts on either side of a merge. -/
theorem options_take_changes :
    let options := Entries.ofList [("level", Value.int 1), ("verbose", .bool false)]
    let changes := Entries.ofList [("verbose", Value.bool true), ("name", .str "x")]
    let world : World := { tree := .emptyDir }
    (∃ entries : Dict Value,
      entries.find? "level" = some (.int 1) ∧ entries.find? "verbose" = some (.bool true) ∧
      entries.find? "depth" = none ∧
      Host.primitives.merge (.record "Options" options) (.map changes) world =
        ((.ok (), .record "Options" entries), world)) ∧
    Host.primitives.merge (.str "a") (.str "b") world =
      ((.error (.type (.mergeTarget .str)), .str "a"), world) ∧
    Host.primitives.merge (.map options) (.str "b") world =
      ((.error (.type (.mergeSource .str)), .map options), world) := by
  intro options changes world
  refine ⟨?_, ?_, ?_⟩
  · obtain ⟨entries, hfind, -, hmerge⟩ :=
      (merge_is_right_biased_union (.record "Options" options) (.map changes) world).2.1
        options changes
    refine ⟨entries, ?_, ?_, ?_, hmerge _ _ rfl rfl⟩ <;>
      simp [hfind, options, changes, Entries.ofList, Entries.find?]
  · exact (merge_is_right_biased_union (.str "a") (.str "b") world).2.2.1
      (by simp [Value.IsMapping, Value.kind])
  · exact (merge_is_right_biased_union (.map options) (.str "b") world).2.2.2.1 (.inl rfl)
      (by simp [Value.IsMapping, Value.kind])

/-! ### Merging several times -/

lemma bind_eq_ok_iff {ε α β : Type} {r : Except ε α} {f : α → Except ε β} {b : β} :
    r.bind f = .ok b ↔ ∃ a, r = .ok a ∧ f a = .ok b := by
  cases r <;> simp [Except.bind]

/-- Two merges into one target lay both sources over it. -/
lemma merge_merge_eq_ok_iff {t a b merged : Value} :
    ((merge t a).bind fun u => merge u b) = .ok merged ↔
      ∃ base first second, t.entries? = some base ∧ a.entries? = some first ∧
        b.entries? = some second ∧
        t.withEntries ((base.overlay first).overlay second) = merged := by
  simp only [bind_eq_ok_iff, merge_eq_ok_iff]
  constructor
  · rintro ⟨_, ⟨base, first, hbase, hfirst, rfl⟩, both, second, hboth, hsecond, rfl⟩
    rw [Value.entries?_withEntries hbase, Option.some.injEq] at hboth
    subst hboth
    exact ⟨base, first, second, hbase, hfirst, hsecond, (Value.withEntries_withEntries ..).symm⟩
  · rintro ⟨base, first, second, hbase, hfirst, hsecond, rfl⟩
    exact ⟨_, ⟨base, first, hbase, hfirst, rfl⟩, _, second, Value.entries?_withEntries hbase _,
      hsecond, Value.withEntries_withEntries ..⟩

/-- Merging a merged source lays the merged entries over the target. -/
lemma merge_merged_eq_ok_iff {t a b merged : Value} :
    ((merge a b).bind fun u => merge t u) = .ok merged ↔
      ∃ base first second, t.entries? = some base ∧ a.entries? = some first ∧
        b.entries? = some second ∧
        t.withEntries (base.overlay (first.overlay second)) = merged := by
  simp only [bind_eq_ok_iff, merge_eq_ok_iff]
  constructor
  · rintro ⟨_, ⟨first, second, hfirst, hsecond, rfl⟩, base, both, hbase, hboth, rfl⟩
    rw [Value.entries?_withEntries hfirst, Option.some.injEq] at hboth
    subst hboth
    exact ⟨base, first, second, hbase, hfirst, hsecond, rfl⟩
  · rintro ⟨base, first, second, hbase, hfirst, hsecond, rfl⟩
    exact ⟨_, ⟨first, second, hfirst, hsecond, rfl⟩, base, _, hbase,
      Value.entries?_withEntries hfirst _, rfl⟩

/-- **The laws of merging.**  Merging `a` and then `b` into `t` succeeds exactly if merging `b` into
`a` and the result into `t` does, with the same result.  For mappings a source merged twice counts
once, a mapping merged into itself stays as it is, empty mappings change nothing, and sources
without a common key can be merged in either order. -/
theorem merge_laws (t a b : Value) :
    (∀ merged, ((merge t a).bind fun u => merge u b) = .ok merged ↔
      ((merge a b).bind fun u => merge t u) = .ok merged) ∧
    (t.IsMapping → a.IsMapping → b.IsMapping →
      (∃ merged, merge t a = .ok merged ∧ merge merged a = .ok merged) ∧
      merge t t = .ok t ∧
      merge t (.map .nil) = .ok t ∧
      (∀ typeName, merge t (.record typeName .nil) = .ok t) ∧
      ∀ first second, a.entries? = some first → b.entries? = some second →
        List.Disjoint first.keys second.keys →
        ∃ merged, ((merge t a).bind fun u => merge u b) = .ok merged ∧
          ((merge t b).bind fun u => merge u a) = .ok merged) := by
  refine ⟨fun merged => ?_, fun ht ha hb => ?_⟩
  · rw [merge_merge_eq_ok_iff, merge_merged_eq_ok_iff]
    simp only [Entries.overlay_assoc]
  · obtain ⟨base, hbase⟩ := Value.isMapping_iff.1 ht
    obtain ⟨first, hfirst⟩ := Value.isMapping_iff.1 ha
    have hself := Value.withEntries_self hbase
    refine ⟨⟨_, merge_of_entries hbase hfirst, ?_⟩, ?_, ?_, fun typeName => ?_, ?_⟩
    · rw [merge_of_entries (Value.entries?_withEntries hbase _) hfirst,
        Value.withEntries_withEntries, Entries.overlay_self_right]
    · rw [merge_of_entries hbase hbase, Entries.overlay_self, hself]
    · rw [merge_of_entries hbase rfl, Entries.overlay_nil, hself]
    · rw [merge_of_entries hbase rfl, Entries.overlay_nil, hself]
    · intro first second hfirst hsecond hdisjoint
      refine ⟨_, merge_merge_eq_ok_iff.2 ⟨base, first, second, hbase, hfirst, hsecond, rfl⟩,
        merge_merge_eq_ok_iff.2 ⟨base, second, first, hbase, hsecond, hfirst, ?_⟩⟩
      rw [Entries.overlay_comm base hdisjoint]

/-- A map and a record merged into a record, in either order. -/
theorem point_takes_both_orders :
    let point := Value.record "Point" (Entries.ofList [("x", .int 1), ("y", .int 2)])
    let names := Entries.ofList [("label", Value.str "p"), ("x", .float (.zero true))]
    let shifts := Entries.ofList [("z", Value.int 3)]
    List.Disjoint names.keys shifts.keys ∧
    (∃ merged, merge point (.map names) = .ok merged ∧ merge merged (.map names) = .ok merged) ∧
    merge point point = .ok point ∧
    ∃ merged,
      ((merge point (.map names)).bind fun u => merge u (.record "Shift" shifts)) = .ok merged ∧
      ((merge point (.record "Shift" shifts)).bind fun u => merge u (.map names)) = .ok merged := by
  intro point names shifts
  have hdisjoint : List.Disjoint names.keys shifts.keys := by
    intro k hnames hshifts
    have hk : k = "z" := List.mem_singleton.1 hshifts
    have hfind : names.find? "z" = none := by simp [names, Entries.ofList, Entries.find?]
    rw [← Entries.isSome_find?_iff, hk, hfind] at hnames
    cases hnames
  obtain ⟨htwice, hself, -, -, hboth⟩ :=
    (merge_laws point (.map names) (.record "Shift" shifts)).2 (.inr rfl) (.inl rfl) (.inr rfl)
  exact ⟨hdisjoint, htwice, hself, hboth names shifts rfl rfl hdisjoint⟩

end BootLayer
