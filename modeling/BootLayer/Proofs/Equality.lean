import Mathlib.Tactic.Common
import BootLayer.Proofs.Lookup
import BootLayer.Proofs.Nesting
import BootLayer.Proofs.RoundingError
import BootLayer.Value.Equality

/-!
Equality of values as a relation.

A position in a value is a path of list indices, map keys and record fields (`Step`, `at?`).

* `same_iff`: two values are equal exactly if they have the same head and are equal at every step
  inwards; symmetry, reflexivity and transitivity are all read off it, level by level.
* `same_symm_refl`: equality is symmetric, and reflexive exactly where no NaN stands.
* `same_trans_fails_iff`: it fails to be transitive exactly where two integers that widen to one
  double stand on either side of a double, and then one of them is beyond `2 ^ 53`.
-/

namespace BootLayer

/-! ### Numbers -/

namespace Double

lemma sameNumber_iff {x y : Double} :
    x.sameNumber y = true ↔
      x.isNaN = false ∧ y.isNaN = false ∧ (x = y ∨ x.magnitude = 0 ∧ y.magnitude = 0) := by
  simp [sameNumber, and_assoc]

lemma sameNumber_symm {x y : Double} (h : x.sameNumber y = true) : y.sameNumber x = true := by
  obtain ⟨hx, hy, h⟩ := sameNumber_iff.1 h
  exact sameNumber_iff.2 ⟨hy, hx, h.imp Eq.symm And.symm⟩

lemma sameNumber_self_iff {x : Double} : x.sameNumber x = true ↔ x.isNaN = false := by
  rw [sameNumber_iff]
  exact ⟨And.left, fun h => ⟨h, h, .inl rfl⟩⟩

lemma sameNumber_trans {x y z : Double} (h : x.sameNumber y = true) (h' : y.sameNumber z = true) :
    x.sameNumber z = true := by
  obtain ⟨hx, -, hxy⟩ := sameNumber_iff.1 h
  obtain ⟨-, hz, hyz⟩ := sameNumber_iff.1 h'
  refine sameNumber_iff.2 ⟨hx, hz, ?_⟩
  rcases hxy with rfl | ⟨hx0, hy0⟩
  · exact hyz
  · rcases hyz with rfl | ⟨-, hz0⟩
    · exact .inr ⟨hx0, hy0⟩
    · exact .inr ⟨hx0, hz0⟩

/-! ### Integers as doubles -/

lemma magnitude_ofInt (n : Int) : (ofInt n).magnitude = ofNatMagnitude n.natAbs := by
  have hle : ofNatMagnitude n.natAbs ≤ infMagnitude := Nat.min_le_right _ _
  have hinf : infMagnitude < 2 ^ 63 := by decide
  exact magnitude_ofParts _ (lt_of_le_of_lt hle hinf)

/-- Only zero becomes a zero. -/
lemma eq_zero_of_ofNatMagnitude {n : Nat} (h : ofNatMagnitude n = 0) : n = 0 := by
  have hzero : nearest (n * one) 1 = 0 := h
  have hfinite : nearest (n * one) 1 < infMagnitude := by
    rw [hzero]
    decide
  have hmiddle := le_middle_of_nearest Nat.one_pos hfinite
  rw [hzero, units_of_lt (by norm_num), units_of_lt (by norm_num)] at hmiddle
  have hnone : n * one = 0 := by omega
  exact (Nat.mul_eq_zero.1 hnone).resolve_right one_pos.ne'

/-- Up to `2 ^ 53` the double of an integer has its value. -/
lemma ofInt_injOn {m n : Int} (hm : m.natAbs ≤ 2 ^ 53) (hn : n.natAbs ≤ 2 ^ 53)
    (h : ofInt m = ofInt n) : m = n := by
  have hsign := congrArg Double.negative h
  have hsize := congrArg (fun x => units x.magnitude) h
  simp only [magnitude_ofInt] at hsize
  rw [negative_ofInt, negative_ofInt, decide_eq_decide] at hsign
  have hm' := units_ofNatMagnitude (j := 0) hm (Nat.zero_le _)
  have hn' := units_ofNatMagnitude (j := 0) hn (Nat.zero_le _)
  rw [Nat.pow_zero, Nat.mul_one] at hm' hn'
  rw [hm', hn'] at hsize
  have habs : m.natAbs = n.natAbs := Nat.eq_of_mul_eq_mul_right one_pos hsize
  omega

end Double

namespace Value

/-- Integers that widen to equal numbers widen to the same double. -/
lemma widen_eq_of_sameNumber {m n : Int64} (h : (widen m).sameNumber (widen n) = true) :
    widen m = widen n := by
  obtain ⟨-, -, heq | ⟨hm, hn⟩⟩ := Double.sameNumber_iff.1 h
  · exact heq
  · rw [widen, Double.magnitude_ofInt] at hm hn
    have hm' := Double.eq_zero_of_ofNatMagnitude hm
    have hn' := Double.eq_zero_of_ofNatMagnitude hn
    rw [widen, widen, Int.natAbs_eq_zero.1 hm', Int.natAbs_eq_zero.1 hn']

/-! ### Positions -/

/-- A step from a container to something that stands directly in it. -/
inductive Step where
  | item (index : Nat)
  | entry (key : String)
  | field (name : String)
  deriving DecidableEq, Repr

/-- What a step leads to: an item of a list, an entry of a map or a field of a record. -/
def child? : Value → Step → Option Value
  | list l, .item index => l[index]?
  | map m, .entry key => m.find? key
  | record _ m, .field name => m.find? name
  | _, _ => Option.none

/-- What stands at the end of a path. -/
def at? (v : Value) : List Step → Option Value
  | [] => some v
  | step :: path => (v.child? step).bind fun c => c.at? path

/-- Steps lead to the children and to nothing else. -/
lemma mem_children_iff {v c : Value} : c ∈ v.children ↔ ∃ step, v.child? step = some c := by
  have hentries : ∀ m : Dict Value, c ∈ m.values ↔ ∃ key, m.find? key = some c := by
    intro m
    simp [Entries.values, Entries.find?_eq_some_iff]
  constructor
  · intro h
    cases v with
    | list l =>
        obtain ⟨index, hindex⟩ := List.mem_iff_getElem?.1 h
        exact ⟨.item index, hindex⟩
    | map m =>
        obtain ⟨key, hkey⟩ := (hentries m).1 h
        exact ⟨.entry key, hkey⟩
    | record typeName m =>
        obtain ⟨name, hname⟩ := (hentries m).1 h
        exact ⟨.field name, hname⟩
    | _ => exact absurd h List.not_mem_nil
  · rintro ⟨step, h⟩
    cases v <;> cases step <;> first | cases h | skip
    · exact List.mem_iff_getElem?.2 ⟨_, h⟩
    · exact (hentries _).2 ⟨_, h⟩
    · exact (hentries _).2 ⟨_, h⟩

/-- What stands at the end of a path stands within the value. -/
lemma within_of_at? {v s : Value} {path : List Step} (h : v.at? path = some s) :
    Within children s v := by
  induction path generalizing v with
  | nil =>
      cases h
      exact .self s
  | cons step path ih =>
      obtain ⟨c, hc, hrest⟩ := Option.bind_eq_some_iff.1 h
      exact .child (mem_children_iff.2 ⟨step, hc⟩) (ih hrest)

/-! ### One level of equality -/

/-- Two values are equal to a program. -/
def Same (a b : Value) : Prop := a.same b = true

/-- Two values have the same head, whatever stands in them. -/
def SameHead : Value → Value → Prop
  | none, none => True
  | bool a, bool b => a = b
  | int a, int b => a = b
  | float a, float b => a.sameNumber b = true
  | int a, float b => (widen a).sameNumber b = true
  | float a, int b => a.sameNumber (widen b) = true
  | str a, str b => a = b
  | bytes a, bytes b => a = b
  | list _, list _ => True
  | map _, map _ => True
  | record s _, record t _ => s = t
  | _, _ => False

lemma rel_iff {r : Value → Value → Prop} {x y : Option Value} :
    Option.Rel r x y ↔
      x = Option.none ∧ y = Option.none ∨ ∃ a b, x = some a ∧ y = some b ∧ r a b := by
  constructor
  · rintro (h | _)
    · exact .inr ⟨_, _, rfl, rfl, h⟩
    · exact .inl ⟨rfl, rfl⟩
  · rintro (⟨rfl, rfl⟩ | ⟨a, b, rfl, rfl, h⟩)
    · exact .none
    · exact .some h

/-- Lists are equal if they are equal at every index. -/
lemma sameItems_iff {l l' : List Value} :
    sameItems l l' = true ↔ ∀ i : Nat, Option.Rel Same l[i]? l'[i]? := by
  induction l generalizing l' with
  | nil =>
      cases l' with
      | nil => exact iff_of_true rfl fun _ => .none
      | cons b l' => exact iff_of_false Bool.false_ne_true fun h => nomatch h 0
  | cons a l ih =>
      cases l' with
      | nil => exact iff_of_false Bool.false_ne_true fun h => nomatch h 0
      | cons b l' =>
          rw [sameItems, Bool.and_eq_true, ih]
          constructor
          · rintro ⟨hhead, htail⟩ i
            cases i with
            | zero => exact .some hhead
            | succ i => exact htail i
          · intro h
            refine ⟨?_, fun i => h (i + 1)⟩
            cases h 0 with
            | some hhead => exact hhead

/-- Maps are equal if they are equal under every key. -/
lemma sameEntries_iff {lo lo' : Option String} : {m : Entries Value lo} →
    {m' : Entries Value lo'} →
    (sameEntries m m' = true ↔ ∀ key, Option.Rel Same (m.find? key) (m'.find? key))
  | .nil, .nil => iff_of_true rfl fun _ => .none
  | .nil, .cons l _ b _ => by
    refine iff_of_false Bool.false_ne_true fun h => ?_
    have hl := h l
    rw [Entries.find?, Entries.find?, if_pos rfl] at hl
    cases hl
  | .cons k _ a _, .nil => by
    refine iff_of_false Bool.false_ne_true fun h => ?_
    have hk := h k
    rw [Entries.find?, Entries.find?, if_pos rfl] at hk
    cases hk
  | .cons k hk a rest, .cons l hl b rest' => by
    rw [sameEntries, Bool.and_eq_true, Bool.and_eq_true, beq_iff_eq,
      @sameEntries_iff _ _ rest rest']
    constructor
    · rintro ⟨⟨rfl, hvalue⟩, hrest⟩ key
      rw [Entries.find?, Entries.find?]
      split_ifs
      · exact .some hvalue
      · exact hrest key
    · intro h
      have hkeys : ∀ key, ((Entries.cons k hk a rest).find? key).isSome =
          ((Entries.cons l hl b rest').find? key).isSome := by
        intro key
        rcases rel_iff.1 (h key) with ⟨hm, hm'⟩ | ⟨_, _, hm, hm', -⟩
        · rw [hm, hm']
        · rw [hm, hm', Option.isSome_some, Option.isSome_some]
      cases Entries.least_eq hkeys
      refine ⟨⟨rfl, ?_⟩, fun key => ?_⟩
      · have hk := h k
        rw [Entries.find?, Entries.find?, if_pos rfl, if_pos rfl] at hk
        cases hk with
        | some hvalue => exact hvalue
      · have hkey := h key
        rw [Entries.find?, Entries.find?] at hkey
        split_ifs at hkey with heq
        · rw [heq, Entries.find?_rest_self, Entries.find?_rest_self]
          exact .none
        · exact hkey

/-- **Two values are equal exactly if they have the same head and are equal at every step
inwards.** -/
lemma same_iff {a b : Value} :
    Same a b ↔ SameHead a b ∧ ∀ step, Option.Rel Same (a.child? step) (b.child? step) := by
  -- a value that is no container has nothing at any step
  have leaf : ∀ {a b : Value}, (∀ step, a.child? step = Option.none) →
      (∀ step, b.child? step = Option.none) → (Same a b ↔ SameHead a b) →
      (Same a b ↔ SameHead a b ∧ ∀ step, Option.Rel Same (a.child? step) (b.child? step)) := by
    intro a b ha hb h
    rw [h]
    refine ⟨fun hhead => ⟨hhead, fun step => ?_⟩, And.left⟩
    rw [ha, hb]
    exact .none
  cases a with
  | list l =>
      cases b with
      | list l' =>
          refine sameItems_iff.trans ⟨fun h => ⟨trivial, fun step => ?_⟩, fun h i => h.2 (.item i)⟩
          cases step with
          | item i => exact h i
          | _ => exact .none
      | _ => exact iff_of_false Bool.false_ne_true fun h => h.1
  | map m =>
      cases b with
      | map m' =>
          refine sameEntries_iff.trans
            ⟨fun h => ⟨trivial, fun step => ?_⟩, fun h key => h.2 (.entry key)⟩
          cases step with
          | entry key => exact h key
          | _ => exact .none
      | _ => exact iff_of_false Bool.false_ne_true fun h => h.1
  | record s m =>
      cases b with
      | record t m' =>
          rw [Same, same, Bool.and_eq_true, beq_iff_eq, sameEntries_iff]
          refine and_congr_right fun _ =>
            ⟨fun h step => ?_, fun h name => h (.field name)⟩
          cases step with
          | field name => exact h name
          | _ => exact .none
      | _ => exact iff_of_false Bool.false_ne_true fun h => h.1
  | _ =>
      cases b with
      | list => exact iff_of_false Bool.false_ne_true fun h => h.1
      | map => exact iff_of_false Bool.false_ne_true fun h => h.1
      | record => exact iff_of_false Bool.false_ne_true fun h => h.1
      | _ => exact leaf (fun _ => rfl) (fun _ => rfl) (by simp [Same, same, SameHead])

/-- Equal values are equal at every position. -/
lemma Same.at? {a b : Value} (h : Same a b) (path : List Step) :
    Option.Rel Same (a.at? path) (b.at? path) := by
  induction path generalizing a b with
  | nil => exact .some h
  | cons step path ih =>
      rw [Value.at?, Value.at?]
      rcases rel_iff.1 ((same_iff.1 h).2 step) with ⟨ha, hb⟩ | ⟨c, d, hc, hd, hsame⟩
      · rw [ha, hb]
        exact .none
      · rw [hc, hd]
        exact ih hsame

/-! ### Symmetry and reflexivity -/

lemma SameHead.symm {a b : Value} (h : SameHead a b) : SameHead b a := by
  cases a <;> cases b <;>
    first
      | exact h.elim
      | exact trivial
      | exact Double.sameNumber_symm h
      | exact Eq.symm h

lemma Same.symm {a b : Value} (h : Same a b) : Same b a := by
  induction a using Value.ind generalizing b with
  | _ a ih =>
      obtain ⟨hhead, hinside⟩ := same_iff.1 h
      refine same_iff.2 ⟨hhead.symm, fun step => ?_⟩
      rcases rel_iff.1 (hinside step) with ⟨ha, hb⟩ | ⟨c, d, hc, hd, hsame⟩
      · rw [ha, hb]
        exact .none
      · rw [hc, hd]
        exact .some (ih c (mem_children_iff.2 ⟨step, hc⟩) hsame)

lemma same_comm (a b : Value) : a.same b = b.same a := Bool.eq_iff_iff.2 ⟨Same.symm, Same.symm⟩

/-- The value itself, whatever stands in it, is no NaN. -/
def NotNaN : Value → Prop
  | float x => x.isNaN = false
  | _ => True

lemma sameHead_self_iff {a : Value} : SameHead a a ↔ NotNaN a := by
  cases a with
  | float x => exact Double.sameNumber_self_iff
  | _ => exact iff_of_true (by simp [SameHead]) trivial

/-- A value equals itself exactly if no NaN stands in it. -/
lemma same_self_iff (a : Value) : Same a a ↔ a.Everywhere NotNaN := by
  induction a using Value.ind with
  | _ a ih =>
      rw [same_iff, sameHead_self_iff, Value.Everywhere, everywhere_iff]
      refine and_congr_right fun _ => ⟨fun h c hc => ?_, fun h step => ?_⟩
      · obtain ⟨step, hstep⟩ := mem_children_iff.1 hc
        have hself := h step
        rw [hstep] at hself
        cases hself with
        | some hself => exact (ih c hc).1 hself
      · cases hstep : a.child? step with
        | none => exact .none
        | some c =>
            have hc := mem_children_iff.2 ⟨step, hstep⟩
            exact .some ((ih c hc).2 (h c hc))

/-- **Equality is symmetric, and reflexive exactly away from NaN.**  Whether two values are equal
does not depend on their order, and a value equals itself exactly if no double in it, at any depth,
is a NaN. -/
theorem same_symm_refl (a b : Value) :
    a.same b = b.same a ∧ (a.same a = true ↔ a.Everywhere NotNaN) :=
  ⟨same_comm a b, same_self_iff a⟩

/-! ### Transitivity -/

/-- At the end of a path stand an integer, a double, and another integer that widens to the same
double as the first one. -/
def Clash (a b c : Value) (path : List Step) (m n : Int64) : Prop :=
  ∃ x, a.at? path = some (int m) ∧ b.at? path = some (float x) ∧ c.at? path = some (int n) ∧
    m ≠ n ∧ widen m = widen n

/-- Heads are compared transitively, but for two integers with a double between them. -/
lemma SameHead.trans {a b c : Value} (h : SameHead a b) (h' : SameHead b c) :
    SameHead a c ∨ ∃ m n, Clash a b c [] m n := by
  cases a with
  | int m =>
      cases b with
      | int n =>
          cases (show m = n from h)
          exact .inl h'
      | float x =>
          cases c with
          | int n =>
              by_cases hmn : m = n
              · exact .inl hmn
              · have hwiden := widen_eq_of_sameNumber (Double.sameNumber_trans h h')
                exact .inr ⟨m, n, x, rfl, rfl, rfl, hmn, hwiden⟩
          | float y => exact .inl (Double.sameNumber_trans h h')
          | _ => exact h'.elim
      | _ => exact h.elim
  | float x =>
      cases b with
      | int n =>
          cases c with
          | int k =>
              cases (show n = k from h')
              exact .inl h
          | float y => exact .inl (Double.sameNumber_trans h h')
          | _ => exact h'.elim
      | float y =>
          cases c with
          | int k => exact .inl (Double.sameNumber_trans h h')
          | float z => exact .inl (Double.sameNumber_trans h h')
          | _ => exact h'.elim
      | _ => exact h.elim
  | _ =>
      cases b <;> first
        | exact h.elim
        | (cases c <;> first
            | exact h'.elim
            | exact .inl trivial
            | exact .inl (Eq.trans h h'))

/-- Three values of which two and two are equal, but not the outer ones, clash somewhere. -/
lemma exists_clash {a b c : Value} (h : Same a b) (h' : Same b c) (hne : ¬Same a c) :
    ∃ path m n, Clash a b c path m n := by
  induction a using Value.ind generalizing b c with
  | _ a ih =>
      obtain ⟨hhead, hinside⟩ := same_iff.1 h
      obtain ⟨hhead', hinside'⟩ := same_iff.1 h'
      rcases hhead.trans hhead' with houter | hclash
      · -- the heads of the outer values agree, so they differ at some step
        obtain ⟨step, hstep⟩ : ∃ step, ¬Option.Rel Same (a.child? step) (c.child? step) := by
          by_contra hall
          exact hne (same_iff.2 ⟨houter, fun step => by_contra fun h => hall ⟨step, h⟩⟩)
        rcases rel_iff.1 (hinside step) with ⟨ha, hb⟩ | ⟨u, v, ha, hb, huv⟩
        · rcases rel_iff.1 (hinside' step) with ⟨-, hc⟩ | ⟨_, _, hb', -⟩
          · rw [ha, hc] at hstep
            exact absurd .none hstep
          · rw [hb] at hb'
            cases hb'
        · rcases rel_iff.1 (hinside' step) with ⟨hb', -⟩ | ⟨v', w, hb', hc, hvw⟩
          · rw [hb] at hb'
            cases hb'
          · cases hb.symm.trans hb'
            rw [ha, hc] at hstep
            obtain ⟨path, m, n, x, hm, hx, hn, hclash⟩ :=
              ih u (mem_children_iff.2 ⟨step, ha⟩) huv hvw fun huw => hstep (.some huw)
            refine ⟨step :: path, m, n, x, ?_, ?_, ?_, hclash⟩
            · rw [Value.at?, ha]
              exact hm
            · rw [Value.at?, hb]
              exact hx
            · rw [Value.at?, hc]
              exact hn
      · exact ⟨[], hclash⟩

/-- Values that clash somewhere are not equal. -/
lemma Clash.not_same {a b c : Value} {path : List Step} {m n : Int64} (h : Clash a b c path m n) :
    ¬Same a c := by
  obtain ⟨x, hm, -, hn, hne, -⟩ := h
  intro hsame
  have hat := hsame.at? path
  rw [hm, hn] at hat
  cases hat with
  | some hmn => exact hne (by simpa [Same, same] using hmn)

/-- Of two integers that widen to the same double one is beyond `2 ^ 53`. -/
lemma Clash.beyond {a b c : Value} {path : List Step} {m n : Int64} (h : Clash a b c path m n) :
    2 ^ 53 < max m.toInt.natAbs n.toInt.natAbs := by
  obtain ⟨x, -, -, -, hne, hwiden⟩ := h
  by_contra hle
  obtain ⟨hm, hn⟩ := Nat.max_le.1 (Nat.not_lt.1 hle)
  exact hne (Int64.toInt_inj.1 (Double.ofInt_injOn hm hn hwiden))

/-- The value itself, whatever stands in it, is no integer beyond `2 ^ 53`. -/
def IntExact : Value → Prop
  | int n => -2 ^ 53 ≤ n.toInt ∧ n.toInt ≤ 2 ^ 53
  | _ => True

/-- **Where equality fails to be transitive.**  If `a` equals `b` and `b` equals `c`, then `a`
differs from `c` exactly if at some position, the same in all three, `a` has an integer, `b` a
double and `c` another integer, and the two integers widen to the same double.  At every such
position one of the integers is beyond `2 ^ 53`, so equality is transitive on values whose integers
are not. -/
theorem same_trans_fails_iff (a b c : Value) (hab : a.same b = true) (hbc : b.same c = true) :
    (a.same c = false ↔ ∃ path m n, Clash a b c path m n) ∧
    (∀ path m n, Clash a b c path m n → 2 ^ 53 < max m.toInt.natAbs n.toInt.natAbs) ∧
    (a.Everywhere IntExact → c.Everywhere IntExact → a.same c = true) := by
  have hfails : a.same c = false ↔ ∃ path m n, Clash a b c path m n := by
    rw [← Bool.not_eq_true]
    exact ⟨exists_clash hab hbc, fun ⟨_, _, _, hclash⟩ => hclash.not_same⟩
  refine ⟨hfails, fun _ _ _ => Clash.beyond, fun ha hc => ?_⟩
  by_contra hne
  obtain ⟨path, m, n, hclash⟩ := hfails.1 (Bool.eq_false_iff.2 hne)
  have hbeyond := hclash.beyond
  obtain ⟨x, hm, -, hn, -⟩ := hclash
  have hm' : IntExact (int m) := ha _ (within_of_at? hm)
  have hn' : IntExact (int n) := hc _ (within_of_at? hn)
  simp only [IntExact] at hm' hn'
  omega

/-- The integers `2 ^ 53` and `2 ^ 53 + 1` with a double between them, inside a list and a
record. -/
theorem neighbours_past_exact_integers_clash :
    let holding := fun v : Value => Value.list [.record "Cell" (Entries.ofList [("value", v)])]
    let double := Value.float (.ofInt (2 ^ 53))
    (holding (.int 9007199254740993)).same (holding double) = true ∧
    (holding double).same (holding (.int 9007199254740992)) = true ∧
    (holding (.int 9007199254740993)).same (holding (.int 9007199254740992)) = false := by
  intro holding double
  have hab : (holding (.int 9007199254740993)).same (holding double) = true := by decide +kernel
  have hbc : (holding double).same (holding (.int 9007199254740992)) = true := by decide +kernel
  refine ⟨hab, hbc, (same_trans_fails_iff _ _ _ hab hbc).1.2 ?_⟩
  refine ⟨[.item 0, .field "value"], 9007199254740993, 9007199254740992, .ofInt (2 ^ 53), rfl, rfl,
    rfl, by decide, by decide +kernel⟩

end Value

end BootLayer
