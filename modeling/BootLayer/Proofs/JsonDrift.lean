import Mathlib.Tactic.Common
import BootLayer.Proofs.JsonText
import BootLayer.Proofs.Process

/-!
What becomes of numbers on a way through JSON text.

The printer loses nothing: what it writes for a finite double is nearest to that double and to no
other one.  The reader rounds two or three times where one rounding would do, so a double may move.

* `Value.reread`: the value with every double in it replaced by the one that comes back.
* `decodeJson_jsonOf`: the text of a value is read as its normal form with the doubles read again,
  or is refused if more than 127 containers stand inside one another.
* `prints_merge_iff`: so a map that `merge` printed and gets back is printed with those doubles.
* `json_text_moves_doubles_two_steps`: none of them moves by more than two steps, and those that are
  written with few digits and a small exponent do not move at all.
-/

namespace BootLayer

namespace Value

mutual

/-- The value with every double in it replaced by the one that its text in JSON is read as. -/
def reread : Value → Value
  | float x => float x.reread
  | list l => list (rereadItems l)
  | map m => map (rereadEntries m)
  | record name m => record name (rereadEntries m)
  | other => other

/-- The items of a list, each read again. -/
def rereadItems : List Value → List Value
  | [] => []
  | v :: rest => reread v :: rereadItems rest

/-- The values of a map, each read again. -/
def rereadEntries {lo : Option String} : Entries Value lo → Entries Value lo
  | .nil => .nil
  | .cons k h v rest => .cons k h (reread v) (rereadEntries rest)

end

lemma rereadItems_eq_map (l : List Value) : rereadItems l = l.map reread := by
  induction l with
  | nil => rfl
  | cons v rest ih => rw [rereadItems, ih, List.map_cons]

lemma toList_rereadEntries {lo : Option String} : (m : Entries Value lo) →
    (rereadEntries m).toList = m.toList.map fun e => (e.1, e.2.reread)
  | .nil => rfl
  | .cons _ _ _ rest => congrArg (List.cons _) (toList_rereadEntries rest)

/-- A normal form has nothing left to normalize. -/
lemma everywhere_hasJsonForm_normal (v : Value) : v.normal.Everywhere HasJsonForm := by
  rw [← normal_eq_self_iff]
  calc v.normal.normal = (Json.ofValue v.normal).toValue := (Json.toValue_ofValue _).symm
    _ = (Json.ofValue v).toValue := by rw [Json.ofValue_normal]
    _ = v.normal := Json.toValue_ofValue v

end Value

namespace Json

/-- Reading the doubles of a document again and reading those of its value again is the same. -/
lemma toValue_reread_ofValue {v : Value} (h : v.Everywhere Value.HasJsonForm) :
    (ofValue v).reread.toValue = v.reread := by
  induction v using Value.ind with
  | _ v ih =>
      have hv : v.HasJsonForm := (everywhere_iff.1 h).1
      have hchildren : ∀ c ∈ v.children, (ofValue c).reread.toValue = c.reread :=
        fun c hc => ih c hc (h.child hc)
      cases v with
      | float x =>
          have hfinite : x.isFinite = true := hv
          rw [ofValue, dif_pos hfinite]
          rfl
      | bytes data => exact absurd hv id
      | record name m => exact absurd hv id
      | list l =>
          rw [ofValue, reread, toValue, Value.reread, ofValues_eq_map, rereadItems_eq_map,
            toValues_eq_map, Value.rereadItems_eq_map, List.map_map, List.map_map]
          exact congrArg Value.list (List.map_congr_left hchildren)
      | map m =>
          rw [ofValue, reread, toValue, Value.reread]
          refine congrArg Value.map (Entries.ext ?_)
          rw [toList_toEntries, toList_rereadMembers, toList_ofEntries, Value.toList_rereadEntries,
            List.map_map, List.map_map]
          refine List.map_congr_left fun e he => ?_
          exact congrArg (Prod.mk e.1) (Entries.forall_mem_values.1 hchildren e he)
      | _ => rfl

end Json

namespace CommandLine

/-- **The text of a value is read as its normal form with the doubles read again**, or is refused if
more than 127 containers stand inside one another. -/
lemma decodeJson_jsonOf (v : Value) :
    decodeJson (jsonOf v) =
      if v.normal.depth ≤ 127 then .ok v.normal.reread else .error (.badJson (jsonOf v)) := by
  have hform := v.everywhere_hasJsonForm_normal
  have hread := Json.read_text_eq (Json.ofValue v.normal)
  rw [Json.depth_ofValue_of_hasJsonForm hform, Json.ofValue_normal, Json.maxDepth] at hread
  rw [decodeJson, jsonOf, hread]
  split_ifs
  · rw [← Json.toValue_reread_ofValue hform, Json.ofValue_normal]
  · rfl

lemma decodeJson_jsonOf_float {x : Double} (h : x.isFinite = true) :
    decodeJson (jsonOf (.float x)) = .ok (.float x.reread) := by
  have hnormal : (Value.float x).normal = .float x := if_pos h
  have hdepth : (Value.float x).depth = 0 := rfl
  rw [decodeJson_jsonOf, hnormal, hdepth, if_pos (Nat.zero_le _)]
  rfl

/-- The program prints a map again that it is given as the target of an empty source. -/
lemma prints_merge_iff {m : Dict Value} (hdepth : (Value.map m).normal.depth ≤ 127) (world : World)
    (line : String) :
    Prints world ["merge", jsonOf (.map m), "\x7b\x7d"] line ↔
      HostReady world ∧ line = jsonOf (Value.map m).normal.reread := by
  have htarget : (jsonOf (.map m)).toList.head? ≠ some '-' := by
    have hchars : (Json.ofValue (.map m)).chars =
        '\x7b' :: Json.memberChars (Json.ofEntries m) ++ ['\x7d'] := rfl
    rw [jsonOf, Json.text, String.toList_ofList, hchars]
    simp
  have hsource : decodeJson "\x7b\x7d" = .ok (.map .nil) := rfl
  have hdecoded := decodeJson_jsonOf (.map m)
  rw [if_pos hdepth] at hdecoded
  have hrequest : requestOf (.merge (jsonOf (.map m)) "\x7b\x7d") =
      .ok (.merge (Value.map m).normal.reread (.map .nil)) := by
    rw [requestOf, hdecoded]
    simp only [hsource, Except.map]
  have hanswer : ∀ s, (Handle.host : Handle Unit).object.perform
      (.merge (Value.map m).normal.reread (.map .nil)) s =
        (.ok (Value.map m).normal.reread, s) := by
    intro s
    rw [Primitives.perform_eq]
    rfl
  refine prints_iff (readArguments_merge htarget (by decide)) ?_ line
  rw [run, hrequest]
  simp only [hanswer, render]

/-- **A way through JSON text moves a finite double by at most two steps.**  Its text is a numeral,
and the decimal that the numeral writes is nearest to the double.  It is read as a finite double of
the same sign, at most two steps away in magnitude; and as the very same double if the digits that
are written, the place added to a whole number among them, are a number of at most `2 ^ 53` and the
power of ten they are scaled by is between `10 ^ -22` and `10 ^ 22`.

What `merge` prints is the text of the merged value.  The text of a value is read as the normal form
of the value with each double moved in this way and all else unchanged, if at most 127 containers
stand inside one another; so a map that is given back to `merge` is printed with just those doubles
changed. -/
theorem json_text_moves_doubles_two_steps :
    (∀ x : Double, x.isFinite = true →
      (∃ p : Json.Numeral.Parts, p.WellFormed ∧ x.jsonText.toList = x.signed p.text ∧
        p.value = x.written) ∧
      x.written.magnitude = x.magnitude ∧
      decodeJson (jsonOf (.float x)) = .ok (.float x.reread) ∧
      x.reread.isFinite = true ∧
      x.reread.negative = x.negative ∧
      Nat.dist x.reread.magnitude x.magnitude ≤ 2 ∧
      (x.written.digits ≤ 2 ^ 53 → x.written.exponent.natAbs ≤ 22 → x.reread = x)) ∧
    (∀ (style : Style) (target source : String) (request : Request) (v : Value),
      render style (.merge target source) request v = .text (jsonOf v)) ∧
    (∀ v : Value, v.normal.depth ≤ 127 → decodeJson (jsonOf v) = .ok v.normal.reread) ∧
    (∀ (m : Dict Value) (world : World) (line : String), (Value.map m).normal.depth ≤ 127 →
      (Prints world ["merge", jsonOf (.map m), "\x7b\x7d"] line ↔
        HostReady world ∧ line = jsonOf (Value.map m).normal.reread)) := by
  refine ⟨fun x finite => ?_, fun _ _ _ _ _ => rfl, fun v hdepth => ?_,
    fun m world line hdepth => prints_merge_iff hdepth world line⟩
  · have hfinite : x.magnitude < Double.infMagnitude := of_decide_eq_true finite
    obtain ⟨p, hp, htext, hvalue⟩ := Double.exists_parts_jsonDigits hfinite
    obtain ⟨hnegative, -, hdist, -⟩ := Double.reread_parts hfinite
    refine ⟨⟨p, hp, ?_, hvalue⟩, Double.magnitude_written hfinite, decodeJson_jsonOf_float finite,
      Double.isFinite_reread finite, hnegative, hdist, Double.reread_eq_self hfinite⟩
    rw [Double.toList_jsonText, htext]
  · rw [decodeJson_jsonOf, if_pos hdepth]

/-- The map with one entry. -/
def single (key : String) (v : Value) : Dict Value := .cons key (above_none key) v .nil

/-- The double `7.7482655031499385e-199` moves by two steps, alone, in a list and in a map that is
given back to `merge`; one tenth does not move. -/
theorem small_double_moves_two_steps :
    let x : Double := ⟨0x16CDA791D8A50636⟩
    let y : Double := ⟨0x16CDA791D8A50638⟩
    let tenth : Double := ⟨0x3FB999999999999A⟩
    x.isFinite = true ∧ decodeJson (jsonOf (.float x)) = .ok (.float y) ∧
    Nat.dist y.magnitude x.magnitude = 2 ∧
    decodeJson (jsonOf (.float tenth)) = .ok (.float tenth) ∧
    decodeJson (jsonOf (.list [.float x])) = .ok (.list [.float y]) ∧
    Prints { tree := .emptyDir } ["merge", jsonOf (.map (single "x" (.float x))), "\x7b\x7d"]
      (jsonOf (.map (single "x" (.float y)))) := by
  intro x y tenth
  obtain ⟨hdouble, -, hvalue, hmerge⟩ := json_text_moves_doubles_two_steps
  have hx : x.isFinite = true := by decide
  obtain ⟨hxy, hdigits, hexponent⟩ : x.reread = y ∧ tenth.written.digits ≤ 2 ^ 53 ∧
      tenth.written.exponent.natAbs ≤ 22 := by decide +kernel
  have hhost : HostReady { tree := .emptyDir } := ⟨none, {}, by decide +kernel, by decide⟩
  obtain ⟨-, -, hread, -⟩ := hdouble x hx
  obtain ⟨-, -, htenth, -, -, -, hsame⟩ := hdouble tenth (by decide)
  have hlist := hvalue (.list [.float x]) (by decide)
  have hmap := hmerge (single "x" (.float x)) { tree := .emptyDir }
    (jsonOf (.map (single "x" (.float y)))) (by decide)
  rw [hsame hdigits hexponent] at htenth
  refine ⟨hx, hread.trans ?_, by decide, htenth, hlist.trans ?_, hmap.2 ⟨hhost, ?_⟩⟩
  · exact congrArg (fun z => Except.ok (Value.float z)) hxy
  · exact congrArg (fun z => Except.ok (Value.list [.float z])) hxy
  · exact congrArg (fun z => jsonOf (.map (single "x" (.float z)))) hxy.symm

/-- The double `3e23` is read as the double below it. -/
theorem three_e23_moves :
    let x : Double := ⟨0x44CFC3842BD1F072⟩
    x.isFinite = true ∧ jsonOf (.float x) = "3e+23" ∧
    decodeJson (jsonOf (.float x)) = .ok (.float ⟨0x44CFC3842BD1F071⟩) ∧
    ¬∀ x : Double, x.isFinite = true → decodeJson (jsonOf (.float x)) = .ok (.float x) := by
  intro x
  have hfinite : x.isFinite = true := by decide
  obtain ⟨hmoved, htext⟩ : x.reread = ⟨0x44CFC3842BD1F071⟩ ∧ jsonOf (.float x) = "3e+23" := by
    decide +kernel
  have hread := decodeJson_jsonOf_float hfinite
  rw [hmoved] at hread
  refine ⟨hfinite, htext, hread, fun hkept => ?_⟩
  have hsame := hkept x hfinite
  rw [hread] at hsame
  exact absurd (Value.float.inj (Except.ok.inj hsame)) (by decide)

end CommandLine

end BootLayer
