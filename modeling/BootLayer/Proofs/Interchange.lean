import Mathlib.Data.List.Forall2
import BootLayer.Proofs.Equality
import BootLayer.Proofs.Join
import BootLayer.Proofs.Merge

/-!
Equal values are interchangeable.

Equality takes an integer for a double and one zero for the other.  The primitives that look at the
form of values do not see these differences:

* `rel_overlay`, `Same.merge`: equal mappings laid over equal mappings give equal mappings;
* `Same.tag`: equal values carry the same tag;
* `Same.number?`: equal values stand for equal numbers, or for none;
* `Same.joins`: equal parts of a join have the same bytes, or none.
-/

namespace BootLayer

namespace Value

/-! ### Mappings -/

/-- Equal values both have entries, and equal ones, or both have none. -/
lemma Same.entries? {t t' : Value} (h : Same t t') :
    t.entries? = Option.none ∧ t'.entries? = Option.none ∨
      ∃ m m' : Dict Value, t.entries? = some m ∧ t'.entries? = some m' ∧
        ∀ key, Option.Rel Same (m.find? key) (m'.find? key) := by
  obtain ⟨hhead, hinside⟩ := same_iff.1 h
  cases t with
  | map m =>
      cases t' with
      | map m' => exact .inr ⟨m, m', rfl, rfl, fun key => hinside (.entry key)⟩
      | _ => exact hhead.elim
  | record typeName m =>
      cases t' with
      | record typeName' m' => exact .inr ⟨m, m', rfl, rfl, fun name => hinside (.field name)⟩
      | _ => exact hhead.elim
  | _ => cases t' <;> first | exact hhead.elim | exact .inl ⟨rfl, rfl⟩

/-- Equal mappings stay equal with equal entries in place of their own. -/
lemma Same.withEntries {t t' : Value} (h : Same t t') {m m' old : Dict Value}
    (ht : t.entries? = some old)
    (hentries : ∀ key, Option.Rel Same (m.find? key) (m'.find? key)) :
    Same (t.withEntries m) (t'.withEntries m') := by
  have hhead := (same_iff.1 h).1
  cases t with
  | map =>
      cases t' with
      | map => exact sameEntries_iff.2 hentries
      | _ => exact hhead.elim
  | record typeName =>
      cases t' with
      | record typeName' =>
          cases (show typeName = typeName' from hhead)
          rw [Same, Value.withEntries, Value.withEntries, same, beq_self_eq_true, Bool.true_and]
          exact sameEntries_iff.2 hentries
      | _ => exact hhead.elim
  | _ => cases ht

/-- Equal entries laid over equal entries are equal. -/
lemma rel_overlay {m m' s s' : Dict Value}
    (hm : ∀ key, Option.Rel Same (m.find? key) (m'.find? key))
    (hs : ∀ key, Option.Rel Same (s.find? key) (s'.find? key)) (key : String) :
    Option.Rel Same ((m.overlay s).find? key) ((m'.overlay s').find? key) := by
  rw [Entries.find?_overlay, Entries.find?_overlay]
  rcases rel_iff.1 (hs key) with ⟨hnone, hnone'⟩ | ⟨v, v', hv, hv', hsame⟩
  · rw [hnone, hnone']
    exact hm key
  · rw [hv, hv']
    exact .some hsame

/-- **Merging equal values into equal values** fails both times, or gives equal values. -/
lemma Same.merge {t t' s s' : Value} (ht : Same t t') (hs : Same s s') :
    (∃ fault fault', BootLayer.merge t s = .error fault ∧ BootLayer.merge t' s' = .error fault') ∨
      ∃ u u', BootLayer.merge t s = .ok u ∧ BootLayer.merge t' s' = .ok u' ∧ Same u u' := by
  rcases ht.entries? with ⟨hnone, hnone'⟩ | ⟨m, m', hm, hm', hrel⟩
  · exact .inl ⟨_, _, merge_of_not_target (entries?_eq_none_iff.1 hnone) s,
      merge_of_not_target (entries?_eq_none_iff.1 hnone') s'⟩
  · rcases hs.entries? with ⟨hnone, hnone'⟩ | ⟨n, n', hn, hn', hrel'⟩
    · have hmapping := isMapping_iff.2 ⟨m, hm⟩
      have hmapping' := isMapping_iff.2 ⟨m', hm'⟩
      exact .inl ⟨_, _, merge_of_not_source hmapping (entries?_eq_none_iff.1 hnone),
        merge_of_not_source hmapping' (entries?_eq_none_iff.1 hnone')⟩
    · exact .inr ⟨_, _, merge_of_entries hm hn, merge_of_entries hm' hn',
        ht.withEntries hm (rel_overlay hrel hrel')⟩

/-! ### Tags and numbers -/

/-- Equal values carry the same tag. -/
lemma Same.tag {t t' : Value} (h : Same t t') : Tag.of t = Tag.of t' := by
  have hhead := (same_iff.1 h).1
  cases t <;> cases t' <;> first | exact hhead.elim | rfl

/-- The double of an integer is a number. -/
lemma sameNumber_ofInt (n : Int) : (Double.ofInt n).sameNumber (Double.ofInt n) = true := by
  refine Double.sameNumber_self_iff.2 ?_
  rw [Double.isNaN, Double.magnitude_ofInt, decide_eq_false_iff_not, Nat.not_lt]
  exact Nat.min_le_right _ _

/-- Equal values stand for equal numbers, or neither of them for one. -/
lemma Same.number? {t t' : Value} (h : Same t t') :
    t.number? = Option.none ∧ t'.number? = Option.none ∨
      ∃ x x', t.number? = some x ∧ t'.number? = some x' ∧ x.sameNumber x' = true := by
  have hhead := (same_iff.1 h).1
  cases t with
  | bool b =>
      cases t' with
      | bool b' =>
          cases (show b = b' from hhead)
          exact .inr ⟨_, _, rfl, rfl, sameNumber_ofInt _⟩
      | _ => exact hhead.elim
  | int n =>
      cases t' with
      | int n' =>
          cases (show n = n' from hhead)
          exact .inr ⟨_, _, rfl, rfl, sameNumber_ofInt _⟩
      | float x => exact .inr ⟨_, _, rfl, rfl, hhead⟩
      | _ => exact hhead.elim
  | float x =>
      cases t' with
      | int n => exact .inr ⟨_, _, rfl, rfl, hhead⟩
      | float x' => exact .inr ⟨_, _, rfl, rfl, hhead⟩
      | _ => exact hhead.elim
  | _ => cases t' <;> first | exact hhead.elim | exact .inl ⟨rfl, rfl⟩

/-! ### Parts of a join -/

/-- Equal parts have the same bytes. -/
lemma Same.joins {v v' : Value} (h : Same v v') {data : Bytes} (hjoins : Host.Joins v data) :
    Host.Joins v' data := by
  have hhead := (same_iff.1 h).1
  cases hjoins with
  | bytes data =>
      cases v' with
      | bytes data' =>
          cases (show data = data' from hhead)
          exact .bytes data
      | _ => exact hhead.elim
  | @text text narrow =>
      cases v' with
      | str text' =>
          cases (show text = text' from hhead)
          exact .text narrow
      | _ => exact hhead.elim

end Value

namespace Host

/-- Lists of equal parts have the same pieces. -/
lemma forall₂_joins {parts parts' : List Value} {pieces : List Bytes}
    (h : List.Forall₂ Value.Same parts parts') (hjoins : List.Forall₂ Joins parts pieces) :
    List.Forall₂ Joins parts' pieces := by
  induction h generalizing pieces with
  | nil => exact hjoins
  | cons hpart _ ih =>
      cases hjoins with
      | cons hfirst hrest => exact .cons (hpart.joins hfirst) (ih hrest)

/-- **Joining equal parts** fails both times, or gives the same bytes. -/
lemma join_of_same {parts parts' : List Value} (h : List.Forall₂ Value.Same parts parts') :
    (∃ fault fault', join parts = .error fault ∧ join parts' = .error fault') ∨
      ∃ data, join parts = .ok data ∧ join parts' = .ok data := by
  rcases joins_or_spoiledBy parts with ⟨pieces, hjoins⟩ | ⟨fault, hspoiled⟩
  · exact .inr ⟨_, join_of_joins hjoins, join_of_joins (forall₂_joins h hjoins)⟩
  · rcases joins_or_spoiledBy parts' with ⟨pieces, hjoins⟩ | ⟨fault', hspoiled'⟩
    · -- the other list cannot be joined either, since equality goes both ways
      have hback := forall₂_joins (h.flip.imp fun _ _ => Value.Same.symm) hjoins
      have hcontra := (join_of_joins hback).symm.trans (join_of_spoiledBy hspoiled)
      cases hcontra
    · exact .inl ⟨_, _, join_of_spoiledBy hspoiled, join_of_spoiledBy hspoiled'⟩

end Host

/-- **Equal values are interchangeable.**  With equal targets and equal sources a merge fails both
times, or leaves equal targets.  Equal values get the same answer about every tag, and stand for
equal numbers, or for none.  Lists of equal parts cannot be joined, or have the same bytes. -/
theorem equal_values_interchange (t t' s s' : Value) (parts parts' : List Value) (world : World)
    (ht : t.same t' = true) (hs : s.same s' = true)
    (hparts : List.Forall₂ (fun part part' => part.same part' = true) parts parts') :
    ((∃ error error',
        Host.primitives.merge t s world = ((.error error, t), world) ∧
        Host.primitives.merge t' s' world = ((.error error', t'), world)) ∨
      ∃ u u', Host.primitives.merge t s world = ((.ok (), u), world) ∧
        Host.primitives.merge t' s' world = ((.ok (), u'), world) ∧ u.same u' = true) ∧
    (∀ name, Host.primitives.istype t name world = Host.primitives.istype t' name world) ∧
    (t.number? = none ∧ t'.number? = none ∨
      ∃ x x', t.number? = some x ∧ t'.number? = some x' ∧ x.sameNumber x' = true) ∧
    ((∃ error error',
        Host.primitives.join parts world = (.error error, world) ∧
        Host.primitives.join parts' world = (.error error', world)) ∨
      ∃ data, Host.primitives.join parts world = (.ok data, world) ∧
        Host.primitives.join parts' world = (.ok data, world)) := by
  refine ⟨?_, fun name => ?_, Value.Same.number? ht, ?_⟩
  · rcases Value.Same.merge ht hs with ⟨fault, fault', h, h'⟩ | ⟨u, u', h, h', hsame⟩
    · exact .inl ⟨_, _, Host.merge_of_eq_error h world, Host.merge_of_eq_error h' world⟩
    · exact .inr ⟨u, u', Host.merge_of_eq_ok h world, Host.merge_of_eq_ok h' world, hsame⟩
  · have hanswer : Host.istype t name = Host.istype t' name := by
      simp only [Host.istype, Tag.fits, Value.Same.tag ht]
    simp only [Host.primitivesBy, hanswer]
  · rcases Host.join_of_same hparts with ⟨fault, fault', h, h'⟩ | ⟨data, h, h'⟩
    · refine .inl ⟨.type fault, .type fault', ?_, ?_⟩
      · simp only [Host.primitivesBy, h]
        rfl
      · simp only [Host.primitivesBy, h']
        rfl
    · refine .inr ⟨data, ?_, ?_⟩
      · simp only [Host.primitivesBy, h]
        rfl
      · simp only [Host.primitivesBy, h']
        rfl

/-- A map with an integer and one with the double of it, and a source with the negative zero for the
integer zero. -/
theorem integers_and_doubles_interchange :
    let world : World := { tree := .emptyDir }
    let ints := Value.map (Entries.ofList [("a", .int 0), ("b", .int 1)])
    let doubles := Value.map (Entries.ofList [("a", .float (.zero true)), ("b", .float (.ofInt 1))])
    let source := Value.record "R" (Entries.ofList [("a", .int 7)])
    let source' := Value.record "R" (Entries.ofList [("a", .float (.ofInt 7))])
    ints.same doubles = true ∧ source.same source' = true ∧
    (∃ u u', Host.primitives.merge ints source world = ((.ok (), u), world) ∧
      Host.primitives.merge doubles source' world = ((.ok (), u'), world) ∧
      u.same u' = true) ∧
    Host.primitives.istype ints "mapping" world = Host.primitives.istype doubles "mapping" world ∧
    ∃ error error',
      Host.primitives.join [.str "x", .int 1] world = (.error error, world) ∧
      Host.primitives.join [.str "x", .float (.ofInt 1)] world = (.error error', world) := by
  intro world ints doubles source source'
  have ht : ints.same doubles = true := by decide +kernel
  have hs : source.same source' = true := by decide +kernel
  have hparts : List.Forall₂ (fun part part' => Value.same part part' = true)
      [.str "x", .int 1] [.str "x", .float (.ofInt 1)] :=
    .cons (by decide +kernel) (.cons (by decide +kernel) .nil)
  obtain ⟨hmerge, htype, -, hjoin⟩ :=
    equal_values_interchange ints doubles source source' _ _ world ht hs hparts
  refine ⟨ht, hs, ?_, htype "mapping", ?_⟩
  · rcases hmerge with ⟨error, error', h, -⟩ | hmerged
    · cases h
    · exact hmerged
  · rcases hjoin with hfailed | ⟨data, h, -⟩
    · exact hfailed
    · cases h

end BootLayer
