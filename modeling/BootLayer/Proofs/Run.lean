import Mathlib.Tactic.Common
import BootLayer.Handle

/-!
Runs of operations on a set of primitives, and the parity of forwarding.

An operation is a call by name or a request to one primitive.  The reply to a request keeps the
type of the primitive (`Request.Reply`), and a run gives the list of replies and the last state.

* `perform_eq`: the value that a set gives for a request is its reply, wrapped.
* `run_embed`: a responder that simulates another one operation by operation, its state an image of
  the other's, simulates it over every run.
* `run_selfHosted`, `run_onFirst`, `run_onSecond`: the simulations, of an object by the handle to
  which it is supplied, and of a set with a state of its own by the same set beside another state.
* `run_nested_eq_run`: any number of handles around an object run as the object itself, and the
  host runs as the handle to which the host is supplied, whatever its shell does.
-/

namespace BootLayer

variable {σ τ ι : Type}

/-! ### Replies -/

/-- The type of the reply to a request.  The reply to a merge tells what became of the target. -/
def Request.Reply : Request → Type
  | .join _ => Except Error Bytes
  | .merge .. => Except Error Unit × Value
  | .number _ => Except Error Double
  | .istype .. => Except Error Bool
  | .fpack _ => Except Error (Vector UInt8 8)
  | .funpack _ => Except Error Double
  | .system _ => Except Error Int32
  | .load _ => Except Error Bytes
  | .read _ => Except Error String
  | .save .. => Except Error Unit
  | .argv => List String

/-- Put a request to the primitive it is for. -/
def Primitives.ask (set : Primitives σ) : (r : Request) → σ → r.Reply × σ
  | .join parts => set.join parts
  | .merge target source => set.merge target source
  | .number value => set.number value
  | .istype value tag => set.istype value tag
  | .fpack x => set.fpack x
  | .funpack data => set.funpack data
  | .system command => set.system command
  | .load path => set.load path
  | .read path => set.read path
  | .save path data => set.save path data
  | .argv => set.argv

/-- The reply to a request as a value: the error as it is, or the result wrapped.  A merge gives
the target as it was left. -/
def Request.answer : (r : Request) → r.Reply → Except Error Value
  | .join _, reply => Except.map .bytes reply
  | .merge .., reply => Except.map (fun () => reply.2) reply.1
  | .number _, reply => Except.map .float reply
  | .istype .., reply => Except.map .bool reply
  | .fpack _, reply => Except.map (fun packed => .bytes packed.toList) reply
  | .funpack _, reply => Except.map .float reply
  | .system _, reply => Except.map (fun status => .int status.toInt64) reply
  | .load _, reply => Except.map .bytes reply
  | .read _, reply => Except.map .str reply
  | .save .., reply => Except.map (fun () => .none) reply
  | .argv, words => .ok (.list (words.map .str))

lemma Action.map_eq {α β : Type} (f : α → β) (act : Action σ α) (s : σ) :
    act.map f s = (Except.map f (act s).1, (act s).2) := by
  rw [Action.map]
  rcases act s with ⟨_ | _, _⟩ <;> rfl

/-- Performing a request is asking the set once and wrapping its reply. -/
lemma Primitives.perform_eq (set : Primitives σ) (r : Request) (s : σ) :
    set.perform r s = (r.answer (set.ask r s).1, (set.ask r s).2) := by
  cases r with
  | merge target source =>
      simp only [perform, ask, Request.answer]
      rcases set.merge target source s with ⟨⟨_ | _, _⟩, _⟩ <;> rfl
  | argv => rfl
  | _ => exact Action.map_eq _ _ _

/-! ### Operations and runs -/

/-- What can be asked of a set: a call by name, or one of its primitives. -/
inductive Operation where
  | call (name : String) (args : List Value)
  | ask (request : Request)

/-- The type of the reply to an operation. -/
def Operation.Reply : Operation → Type
  | .call .. => Except Error Value
  | .ask r => r.Reply

/-- What replies to operations, on a state. -/
abbrev Responder (σ : Type) : Type := (op : Operation) → σ → op.Reply × σ

/-- A set replies to an operation. -/
def Primitives.respond (set : Primitives σ) : Responder σ
  | .call name args => set.call name args
  | .ask r => set.ask r

/-- A handle replies to an operation: a call goes to the primitives that it binds, a request to the
handle as an object. -/
def Handle.respond (handle : Handle ι) : Responder (World × ι)
  | .call name args => handle.call name args
  | .ask r => handle.object.ask r

/-- The replies to a list of operations, each with its operation, and the last state. -/
def Responder.run (respond : Responder σ) :
    List Operation → σ → List ((op : Operation) × op.Reply) × σ
  | [], s => ([], s)
  | op :: ops, s =>
    let (reply, s') := respond op s
    let (replies, last) := run respond ops s'
    (⟨op, reply⟩ :: replies, last)

/-- **Simulation lifts to runs**: if every operation on an image of a state gives the reply of the
other responder and the image of its next state, then so does every run. -/
lemma Responder.run_embed {outer : Responder σ} {inner : Responder τ} (embed : τ → σ)
    (step : ∀ op s, outer op (embed s) = ((inner op s).1, embed (inner op s).2)) :
    ∀ ops s, outer.run ops (embed s) = ((inner.run ops s).1, embed (inner.run ops s).2) := by
  intro ops
  induction ops with
  | nil => intro s; rfl
  | cons op ops ih =>
      intro s
      simp only [run, step op s, ih (inner op s).2]

/-! ### Forwarding -/

/-- The set that passes every request on is the set it passes them to. -/
lemma Primitives.forward_eq (set : Primitives σ) : set.forward = set := rfl

/-- A handle replies to an operation as the object that was supplied to it. -/
lemma Handle.respond_selfHosted (supplied : Primitives (World × ι)) (op : Operation)
    (s : World × ι) :
    (Handle.selfHosted supplied).respond op s = supplied.respond op s := by
  cases op with
  | call name args =>
      show supplied.forward.call name args s = supplied.call name args s
      rw [Primitives.forward_eq]
  | ask r =>
      show supplied.forward.forward.ask r s = supplied.ask r s
      rw [Primitives.forward_eq, Primitives.forward_eq]

/-- A handle runs as the object that was supplied to it. -/
lemma Handle.run_selfHosted (supplied : Primitives (World × ι)) (ops : List Operation)
    (s : World × ι) :
    (Handle.selfHosted supplied).respond.run ops s = supplied.respond.run ops s :=
  Responder.run_embed id (respond_selfHosted supplied) ops s

/-- The object of a handle replies as the handle. -/
lemma Handle.respond_object (handle : Handle ι) (op : Operation) (s : World × ι) :
    handle.object.respond op s = handle.respond op s := by
  cases op with
  | call name args =>
      show handle.primitives.forward.call name args s = handle.primitives.call name args s
      rw [Primitives.forward_eq]
  | ask r => rfl

/-- An object inside `n` handles: each handle is supplied to the next one. -/
def Primitives.nested (set : Primitives (World × ι)) : Nat → Primitives (World × ι)
  | 0 => set
  | n + 1 => (Handle.selfHosted (set.nested n)).object

/-- Inside any number of handles an object replies as it does by itself. -/
lemma Primitives.respond_nested (set : Primitives (World × ι)) (n : Nat) (op : Operation)
    (s : World × ι) : (set.nested n).respond op s = set.respond op s := by
  induction n with
  | zero => rfl
  | succ n ih => rw [nested, Handle.respond_object, Handle.respond_selfHosted, ih]

lemma Primitives.run_nested (set : Primitives (World × ι)) (n : Nat) (ops : List Operation)
    (s : World × ι) : (set.nested n).respond.run ops s = set.respond.run ops s :=
  Responder.run_embed id (set.respond_nested n) ops s

/-! ### Objects with a state of their own -/

lemma Primitives.ask_onFirst (set : Primitives σ) (r : Request) (s : σ) (t : τ) :
    set.onFirst.ask r (s, t) = ((set.ask r s).1, ((set.ask r s).2, t)) := by
  cases r <;> rfl

lemma Primitives.ask_onSecond (set : Primitives τ) (r : Request) (s : σ) (t : τ) :
    set.onSecond.ask r (s, t) = ((set.ask r t).1, (s, (set.ask r t).2)) := by
  cases r <;> rfl

/-- A call by name is refused and leaves the state alone, or it asks the set once. -/
lemma Primitives.call_eq (set : Primitives σ) (name : String) (args : List Value) (s : σ) :
    set.call name args s =
      match Request.ofCall name args with
      | .ok r => (r.answer (set.ask r s).1, (set.ask r s).2)
      | .error e => (.error e, s) := by
  rw [call]
  cases Request.ofCall name args with
  | ok r => exact perform_eq set r s
  | error e => rfl

/-- A set on the first part of a state replies as it does by itself. -/
lemma Primitives.respond_onFirst (set : Primitives σ) (op : Operation) (s : σ) (t : τ) :
    set.onFirst.respond op (s, t) = ((set.respond op s).1, ((set.respond op s).2, t)) := by
  cases op with
  | call name args =>
      simp only [respond, call_eq]
      cases Request.ofCall name args with
      | ok r => simp only [ask_onFirst]; rfl
      | error e => rfl
  | ask r => exact ask_onFirst set r s t

/-- A set on the second part of a state replies as it does by itself. -/
lemma Primitives.respond_onSecond (set : Primitives τ) (op : Operation) (s : σ) (t : τ) :
    set.onSecond.respond op (s, t) = ((set.respond op t).1, (s, (set.respond op t).2)) := by
  cases op with
  | call name args =>
      simp only [respond, call_eq]
      cases Request.ofCall name args with
      | ok r => simp only [ask_onSecond]; rfl
      | error e => rfl
  | ask r => exact ask_onSecond set r s t

lemma Primitives.run_onFirst (set : Primitives σ) (ops : List Operation) (s : σ) (t : τ) :
    set.onFirst.respond.run ops (s, t) =
      ((set.respond.run ops s).1, ((set.respond.run ops s).2, t)) :=
  Responder.run_embed (fun s => (s, t)) (fun op s => respond_onFirst set op s t) ops s

lemma Primitives.run_onSecond (set : Primitives τ) (ops : List Operation) (s : σ) (t : τ) :
    set.onSecond.respond.run ops (s, t) =
      ((set.respond.run ops t).1, (s, (set.respond.run ops t).2)) :=
  Responder.run_embed (fun t => (s, t)) (fun op t => respond_onSecond set op s t) ops t

/-- The host replies as its primitives do on the world. -/
lemma Handle.respond_hostBy (shell : Shell.Runner) (op : Operation) (w : World) (i : ι) :
    (Handle.hostBy shell).respond op (w, i) =
      (((Host.primitivesBy shell).respond op w).1,
        (((Host.primitivesBy shell).respond op w).2, i)) := by
  rw [← respond_object]
  exact Primitives.respond_onFirst (Host.primitivesBy shell) op w i

/-- The host runs as its primitives do on the world. -/
lemma Handle.run_hostBy (shell : Shell.Runner) (ops : List Operation) (w : World) (i : ι) :
    (Handle.hostBy shell).respond.run ops (w, i) =
      (((Host.primitivesBy shell).respond.run ops w).1,
        (((Host.primitivesBy shell).respond.run ops w).2, i)) :=
  Responder.run_embed (fun w => (w, i)) (fun op w => respond_hostBy shell op w i) ops w

/-! ### Parity -/

/-- **Parity of forwarding over whole runs**: with `n` handles around an object, every run of
operations gives the replies that the object gives by itself and leaves the same state.  This holds
of an object that shares the world, of one with a state of its own, which then leaves the world
alone, and of the primitives of the host, so that the host and a handle around the host differ in
the name of their environment only.  Nothing is asked of the shell of the host. -/
theorem run_nested_eq_run (n : Nat) (ops : List Operation) :
    (∀ (ι : Type) (object : Primitives (World × ι)) (s : World × ι),
      (object.nested n).respond.run ops s = object.respond.run ops s ∧
      (Handle.selfHosted (object.nested n)).respond.run ops s = object.respond.run ops s) ∧
    (∀ (τ : Type) (object : Primitives τ) (w : World) (t : τ),
      (Handle.selfHosted (object.onSecond.nested n)).respond.run ops (w, t) =
        ((object.respond.run ops t).1, (w, (object.respond.run ops t).2))) ∧
    ∀ shell : Shell.Runner,
      (∀ (ι : Type) (w : World) (i : ι),
        (Handle.hostBy shell).respond.run ops (w, i) =
            (((Host.primitivesBy shell).respond.run ops w).1,
              (((Host.primitivesBy shell).respond.run ops w).2, i)) ∧
        (Handle.selfHosted (Host.primitivesBy shell).onFirst).respond.run ops (w, i) =
          (Handle.hostBy shell).respond.run ops (w, i)) ∧
      (Handle.hostBy shell : Handle ι).environment = .host ∧
      (Handle.selfHosted ((Host.primitivesBy shell).onFirst : Primitives (World × ι))).environment =
        .selfHosted := by
  refine ⟨fun ι object s => ⟨object.run_nested n ops s, ?_⟩, fun τ object w t => ?_,
    fun shell => ⟨fun ι w i => ⟨Handle.run_hostBy shell ops w i, ?_⟩, rfl, rfl⟩⟩
  · rw [Handle.run_selfHosted, Primitives.run_nested]
  · rw [Handle.run_selfHosted, Primitives.run_nested, Primitives.run_onSecond]
  · rw [Handle.run_selfHosted, Primitives.run_onFirst, Handle.run_hostBy]

end BootLayer
