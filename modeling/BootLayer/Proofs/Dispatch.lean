import Mathlib.Data.List.Basic
import BootLayer.Proofs.Latin1
import BootLayer.Proofs.Run

/-!
Which calls by name reach a set of primitives, and how.

`Accepts` lists the calls that make a request, with the request they make, and `Refuses` lists all
others with their fault: an unknown name, a wrong number of arguments, the first argument of a
wrong kind (`misfit`, read off the table `signature`), or text to be saved that has a character
without a byte.

* `ofCall_eq_ok`, `ofCall_eq_error`: the check of a call decides between the two lists.
* `noting`: a set that behaves as another one and notes every request that it receives.
* `call_checks_then_asks_once`: a call of the first list asks the set for its request, once, and
  gives the reply wrapped; a call of the second asks for nothing and changes nothing.
-/

namespace BootLayer

/-! ### Calls that are accepted -/

namespace Request

/-- The call of this name with these arguments makes this request. -/
inductive Accepts : String → List Value → Request → Prop where
  | join (parts : List Value) : Accepts "join" [.list parts] (.join parts)
  | merge (target source : Value) : Accepts "merge" [target, source] (.merge target source)
  | number (value : Value) : Accepts "number" [value] (.number value)
  | istype (value : Value) (tag : String) : Accepts "istype" [value, .str tag] (.istype value tag)
  | fpackInt (n : Int64) : Accepts "fpack" [.int n] (.fpack (Value.widen n))
  | fpackFloat (x : Double) : Accepts "fpack" [.float x] (.fpack x)
  | fpackBool (b : Bool) : Accepts "fpack" [.bool b] (.fpack (Double.ofInt (if b then 1 else 0)))
  | funpack (data : Bytes) : Accepts "funpack" [.bytes data] (.funpack data)
  | system (command : String) : Accepts "system" [.str command] (.system command)
  | load (path : String) : Accepts "load" [.str path] (.load path)
  | read (path : String) : Accepts "read" [.str path] (.read path)
  | saveBytes (path : String) (data : Bytes) :
      Accepts "save" [.str path, .bytes data] (.save path data)
  | saveText (path text : String) (narrow : Text.Latin1.Narrow text.toList) :
      Accepts "save" [.str path, .str text] (.save path (text.toList.map Text.Latin1.byte))
  | argv : Accepts "argv" [] .argv

end Request

/-! ### Calls that are refused -/

/-- What a primitive says about one of its arguments: nothing, or the kinds that it takes and the
words for them. -/
inductive Slot where
  | any
  | only (expects : String) (kinds : List Kind)

/-- The arguments of a primitive. -/
def Primitive.signature : Primitive → List Slot
  | join => [.only "a list" [.list]]
  | merge => [.any, .any]
  | number => [.any]
  | istype => [.any, .only "a tag name" [.str]]
  | fpack => [.only "a number" [.int, .float, .bool]]
  | funpack => [.only "bytes" [.bytes]]
  | system => [.only "a command string" [.str]]
  | load | read => [.only "a path string" [.str]]
  | save => [.only "a path string" [.str], .only "bytes" [.bytes, .str]]
  | argv => []

/-- The words for the first argument of a wrong kind, and its kind. -/
def misfit : List Slot → List Value → Option (String × Kind)
  | .any :: slots, _ :: args => misfit slots args
  | .only expects kinds :: slots, v :: args =>
    if v.kind ∈ kinds then misfit slots args else some (expects, v.kind)
  | _, _ => none

namespace Request

/-- The call of this name with these arguments has this fault. -/
inductive Refuses : String → List Value → TypeFault → Prop where
  | unknown {name : String} {args : List Value} (h : ∀ p : Primitive, p.name ≠ name) :
      Refuses name args (.unknownPrimitive name)
  | count {p : Primitive} {args : List Value} (h : args.length ≠ p.arity) :
      Refuses p.name args (.argumentCount p.name p.arity args.length)
  | kind {p : Primitive} {args : List Value} {expects : String} {kind : Kind}
      (hlen : args.length = p.arity) (h : misfit p.signature args = some (expects, kind)) :
      Refuses p.name args (.argumentKind p.name expects kind)
  | wide {path text : String} {before after : List Char} {c : Char}
      (htext : text.toList = before ++ c :: after) (narrow : Text.Latin1.Narrow before)
      (hc : 0xFF < c.toNat) :
      Refuses "save" [.str path, .str text] (.wideCharacter ⟨c, before.length⟩)

end Request

/-! ### Kinds and views -/

namespace Value

lemma list?_eq_none {v : Value} : v.list? = Option.none ↔ v.kind ∉ [Kind.list] := by
  cases v <;> simp [list?, kind]

lemma text?_eq_none {v : Value} : v.text? = Option.none ↔ v.kind ∉ [Kind.str] := by
  cases v <;> simp [text?, kind]

lemma bytes?_eq_none {v : Value} : v.bytes? = Option.none ↔ v.kind ∉ [Kind.bytes] := by
  cases v <;> simp [bytes?, kind]

lemma number?_eq_none {v : Value} :
    v.number? = Option.none ↔ v.kind ∉ [Kind.int, Kind.float, Kind.bool] := by
  cases v <;> simp [number?, kind]

end Value

lemma misfit_only {expects words : String} {kinds : List Kind} {kind : Kind} {slots : List Slot}
    {v : Value} {args : List Value}
    (h : misfit (.only expects kinds :: slots) (v :: args) = some (words, kind)) :
    v.kind ∉ kinds ∧ words = expects ∧ kind = v.kind ∨
      v.kind ∈ kinds ∧ misfit slots args = some (words, kind) := by
  rw [misfit] at h
  split at h
  · next hk => exact Or.inr ⟨hk, h⟩
  · next hk =>
      simp only [Option.some.injEq, Prod.mk.injEq] at h
      exact Or.inl ⟨hk, h.1.symm, h.2.symm⟩

lemma misfit_single {expects words : String} {kinds : List Kind} {kind : Kind} {v : Value}
    (h : misfit [.only expects kinds] [v] = some (words, kind)) :
    v.kind ∉ kinds ∧ words = expects ∧ kind = v.kind := by
  rcases misfit_only h with h | ⟨-, h⟩
  · exact h
  · simp [misfit] at h

/-! ### The check decides between them -/

namespace Primitive

lemma ofName?_name (p : Primitive) : ofName? p.name = some p := by
  cases p <;> decide

lemma ofName?_of_unknown {name : String} (h : ∀ p : Primitive, p.name ≠ name) :
    ofName? name = none := by
  simp [ofName?, h]

end Primitive

namespace Request

lemma ofCall_name (p : Primitive) (args : List Value) :
    ofCall p.name args = ofArguments p args := by
  rw [ofCall, Primitive.ofName?_name]

lemma ofCall_of_accepts {name : String} {args : List Value} {r : Request}
    (h : Accepts name args r) : ofCall name args = .ok r := by
  cases h with
  | saveText path text narrow =>
      rw [show "save" = Primitive.save.name from rfl, ofCall_name]
      simp [ofArguments, need, Value.text?, payload, Text.Latin1.encode_narrow narrow,
        Except.mapError, Except.map]
  | _ => rfl

/-- A primitive refuses every wrong number of arguments. -/
lemma ofArguments_of_count {p : Primitive} {args : List Value} (h : args.length ≠ p.arity) :
    ofArguments p args = .error (.type (.argumentCount p.name p.arity args.length)) := by
  rcases args with _ | ⟨a, _ | ⟨b, _ | ⟨c, rest⟩⟩⟩ <;> cases p <;>
    first | rfl | exact absurd rfl h

lemma need_of_none {α : Type} {p : Primitive} {expects : String} {view : Value → Option α}
    {v : Value} (h : view v = none) :
    need p expects view v = .error (.type (.argumentKind p.name expects v.kind)) := by
  rw [need, h]

/-- A primitive refuses the first argument of a wrong kind. -/
lemma ofArguments_of_misfit {p : Primitive} {args : List Value} {expects : String} {kind : Kind}
    (hlen : args.length = p.arity) (h : misfit p.signature args = some (expects, kind)) :
    ofArguments p args = .error (.type (.argumentKind p.name expects kind)) := by
  rcases args with _ | ⟨a, _ | ⟨b, _ | ⟨c, rest⟩⟩⟩
  · cases p <;> cases h
  · -- one argument: the view of the primitive is empty exactly at the kinds left out
    cases p with
    | merge | istype | save | argv => cases hlen
    | number => cases h
    | join =>
        obtain ⟨hk, rfl, rfl⟩ := misfit_single h
        rw [ofArguments, need_of_none (Value.list?_eq_none.2 hk)]; rfl
    | fpack =>
        obtain ⟨hk, rfl, rfl⟩ := misfit_single h
        rw [ofArguments, need_of_none (Value.number?_eq_none.2 hk)]; rfl
    | funpack =>
        obtain ⟨hk, rfl, rfl⟩ := misfit_single h
        rw [ofArguments, need_of_none (Value.bytes?_eq_none.2 hk)]; rfl
    | system | load | read =>
        obtain ⟨hk, rfl, rfl⟩ := misfit_single h
        rw [ofArguments, need_of_none (Value.text?_eq_none.2 hk)]; rfl
  · cases p with
    | istype =>
        obtain ⟨hk, rfl, rfl⟩ := misfit_single h
        rw [ofArguments, need_of_none (Value.text?_eq_none.2 hk)]; rfl
    | save =>
        rcases misfit_only h with ⟨hk, rfl, rfl⟩ | ⟨hk, h⟩
        · rw [ofArguments, need_of_none (Value.text?_eq_none.2 hk)]
        · obtain ⟨hk', rfl, rfl⟩ := misfit_single h
          cases a <;> cases b <;> simp_all [Value.kind] <;> rfl
    | merge => cases h
    | _ => cases hlen
  · cases p <;> cases hlen

/-- Arguments in the right number and of the right kinds make a request, or are text to be saved
that has a wide character. -/
lemma accepts_or_refuses_of_fits {p : Primitive} {args : List Value}
    (hlen : args.length = p.arity) (h : misfit p.signature args = none) :
    (∃ r, Accepts p.name args r) ∨ ∃ fault, Refuses p.name args fault := by
  rcases args with _ | ⟨a, _ | ⟨b, _ | ⟨c, rest⟩⟩⟩
  · cases p with
    | argv => exact Or.inl ⟨_, .argv⟩
    | _ => cases hlen
  · cases p with
    | merge | istype | save | argv => cases hlen
    | number => exact Or.inl ⟨_, .number a⟩
    | join => cases a <;> cases h; exact Or.inl ⟨_, .join _⟩
    | fpack =>
        cases a <;> cases h
        · exact Or.inl ⟨_, .fpackBool _⟩
        · exact Or.inl ⟨_, .fpackInt _⟩
        · exact Or.inl ⟨_, .fpackFloat _⟩
    | funpack => cases a <;> cases h; exact Or.inl ⟨_, .funpack _⟩
    | system => cases a <;> cases h; exact Or.inl ⟨_, .system _⟩
    | load => cases a <;> cases h; exact Or.inl ⟨_, .load _⟩
    | read => cases a <;> cases h; exact Or.inl ⟨_, .read _⟩
  · cases p with
    | merge => exact Or.inl ⟨_, .merge a b⟩
    | istype => cases b <;> cases h; exact Or.inl ⟨_, .istype a _⟩
    | save =>
        cases a <;> cases b <;> cases h
        · next path text =>
            rcases Text.Latin1.narrow_or_wide text.toList with hn | ⟨_, _, _, htext, hn, hc⟩
            · exact Or.inl ⟨_, .saveText path text hn⟩
            · exact Or.inr ⟨_, .wide htext hn hc⟩
        · exact Or.inl ⟨_, .saveBytes _ _⟩
    | _ => cases hlen
  · cases p <;> cases hlen

/-- Every call is in one of the two lists. -/
lemma accepts_or_refuses (name : String) (args : List Value) :
    (∃ r, Accepts name args r) ∨ ∃ fault, Refuses name args fault := by
  by_cases hname : ∀ p : Primitive, p.name ≠ name
  · exact Or.inr ⟨_, .unknown hname⟩
  · push Not at hname
    obtain ⟨p, rfl⟩ := hname
    by_cases hlen : args.length = p.arity
    · cases h : misfit p.signature args with
      | none => exact accepts_or_refuses_of_fits hlen h
      | some fault => exact Or.inr ⟨_, .kind hlen h⟩
    · exact Or.inr ⟨_, .count hlen⟩

lemma ofCall_of_refuses {name : String} {args : List Value} {fault : TypeFault}
    (h : Refuses name args fault) : ofCall name args = .error (.type fault) := by
  cases h with
  | unknown h => rw [ofCall, Primitive.ofName?_of_unknown h]
  | count h => rw [ofCall_name, ofArguments_of_count h]
  | kind hlen h => rw [ofCall_name, ofArguments_of_misfit hlen h]
  | wide htext hn hc =>
      rw [show "save" = Primitive.save.name from rfl, ofCall_name]
      simp [ofArguments, need, Value.text?, payload, Text.Latin1.encode_wide htext hn hc,
        Except.mapError, Except.map]

/-- The check makes exactly the requests of the accepted calls. -/
lemma ofCall_eq_ok {name : String} {args : List Value} {r : Request} :
    ofCall name args = .ok r ↔ Accepts name args r := by
  refine ⟨fun h => ?_, ofCall_of_accepts⟩
  rcases accepts_or_refuses name args with ⟨r', hr⟩ | ⟨fault, hf⟩
  · rw [ofCall_of_accepts hr] at h
    cases h
    exact hr
  · rw [ofCall_of_refuses hf] at h
    cases h

/-- The check reports exactly the faults of the refused calls. -/
lemma ofCall_eq_error {name : String} {args : List Value} {e : Error} :
    ofCall name args = .error e ↔ ∃ fault, e = .type fault ∧ Refuses name args fault := by
  constructor
  · intro h
    rcases accepts_or_refuses name args with ⟨r, hr⟩ | ⟨fault, hf⟩
    · rw [ofCall_of_accepts hr] at h
      cases h
    · rw [ofCall_of_refuses hf] at h
      cases h
      exact ⟨fault, rfl, hf⟩
  · rintro ⟨fault, rfl, hf⟩
    exact ofCall_of_refuses hf

end Request

/-! ### Noting the requests that a set receives -/

namespace Primitives

variable {σ : Type}

/-- Do what is done for a request, and note the request. -/
def note {ρ : Type} (r : Request) (act : σ → ρ × σ) : σ × List Request → ρ × (σ × List Request) :=
  fun s => ((act s.1).1, ((act s.1).2, s.2 ++ [r]))

/-- The set that behaves as another one and notes every request that it receives, the latest
last. -/
def noting (set : Primitives σ) : Primitives (σ × List Request) where
  join parts := note (.join parts) (set.join parts)
  merge target source := note (.merge target source) (set.merge target source)
  number value := note (.number value) (set.number value)
  istype value tag := note (.istype value tag) (set.istype value tag)
  fpack x := note (.fpack x) (set.fpack x)
  funpack data := note (.funpack data) (set.funpack data)
  system command := note (.system command) (set.system command)
  load path := note (.load path) (set.load path)
  read path := note (.read path) (set.read path)
  save path data := note (.save path data) (set.save path data)
  argv := note .argv set.argv

lemma ask_noting (set : Primitives σ) (r : Request) (s : σ) (log : List Request) :
    set.noting.ask r (s, log) = ((set.ask r s).1, ((set.ask r s).2, log ++ [r])) := by
  cases r <;> rfl

/-- **A call by name checks first and then asks once**: a call with the right name, number and
kinds of arguments makes one request, which is the only one the set receives, and gives the set's
reply wrapped; any other call fails with the fault of its name, number, kinds or text, and the set
receives nothing and stays as it was. -/
theorem call_checks_then_asks_once (set : Primitives σ) (name : String) (args : List Value)
    (s : σ) (log : List Request) :
    (∃ r, (∀ r', Request.Accepts name args r' ↔ r' = r) ∧
      set.call name args s = (r.answer (set.ask r s).1, (set.ask r s).2) ∧
      set.noting.call name args (s, log) =
        (r.answer (set.ask r s).1, ((set.ask r s).2, log ++ [r]))) ∨
    ((∀ r, ¬Request.Accepts name args r) ∧
      ∃ fault, Request.Refuses name args fault ∧
        set.call name args s = (.error (.type fault), s) ∧
        set.noting.call name args (s, log) = (.error (.type fault), (s, log))) := by
  cases hcall : Request.ofCall name args with
  | ok r =>
      refine Or.inl ⟨r, fun r' => ?_, ?_, ?_⟩
      · rw [← Request.ofCall_eq_ok, hcall, Except.ok.injEq]
        exact eq_comm
      · rw [call_eq, hcall]
      · rw [call_eq, hcall]
        simp only [ask_noting]
  | error e =>
      obtain ⟨fault, rfl, hf⟩ := Request.ofCall_eq_error.1 hcall
      refine Or.inr ⟨fun r hr => ?_, fault, hf, ?_, ?_⟩
      · rw [Request.ofCall_of_accepts hr] at hcall
        cases hcall
      · rw [call_eq, hcall]
      · rw [call_eq, hcall]

end Primitives

end BootLayer
