import Mathlib.Tactic.Common
import BootLayer.Proofs.Dispatch
import BootLayer.Proofs.Tree

/-!
The host as a store of files, over runs of calls that run no command.

A run of calls has a history: the place and the bytes of every save that succeeded, the place being
where its path leads once it is saved.

* `Call.spares_or_writes`: what one call can do: leave the state alone, or write one file.
* `after_eq`: a run writes its history and changes nothing else.
* `viewAt_after`: at every place stands what was saved there last, or what stood there at first.
* `calls_form_exact_store`: all of this together, with the loads and the failures along the run.
-/

namespace BootLayer

variable {ι : Type}

/-! ### Calls -/

/-- A call by name. -/
structure Call where
  name : String
  args : List Value

namespace Call

/-- The call makes the shell run a command: a text without a NUL in it. -/
def RunsCommand (call : Call) : Prop :=
  ∃ command, call.name = "system" ∧ call.args = [.str command] ∧ '\x00' ∉ command.toList

/-- What a call does on the host. -/
def on (call : Call) : Action (World × ι) Value := Handle.host.call call.name call.args

/-- The path and the bytes that a call asks to be saved: bytes as they are, text with one byte a
character. -/
def save? (call : Call) : Option (String × Bytes) :=
  if call.name = "save" then
    match call.args with
    | [.str path, .bytes data] => some (path, data)
    | [.str path, .str text] => some (path, text.toList.map Text.Latin1.byte)
    | _ => none
  else none

/-- The place and the bytes of a save that succeeds.  The place is where the path leads once the
file is saved. -/
def saved? (call : Call) (s : World × ι) : Option (Place × Bytes) :=
  match call.save?, call.on s with
  | some (path, data), (.ok _, (world, _)) =>
    (world.tree.resolve world.cwd path).toOption.map fun place => (place, data)
  | _, _ => none

end Call

namespace Store

/-- The state after calls in their order. -/
def after : List Call → World × ι → World × ι
  | [], s => s
  | call :: rest, s => after rest (call.on s).2

/-- The saves that succeed in a run of calls, in their order. -/
def history : List Call → World × ι → List (Place × Bytes)
  | [], _ => []
  | call :: rest, s => (call.saved? s).toList ++ history rest (call.on s).2

/-- The bytes that were saved last at a place. -/
def lastSaved (saves : List (Place × Bytes)) (place : Place) : Option Bytes :=
  (saves.reverse.find? fun saved => saved.1 = place).map Prod.snd

/-- What a file at a place holds: what was saved there last, or else what it held at first.  The
device never holds anything. -/
def held (tree : Node) (saves : List (Place × Bytes)) (place : Place) : Option Bytes :=
  if tree.viewAt place = some .device then some []
  else (lastSaved saves place).or ((tree.viewAt place).bind Node.View.contents?)

end Store

/-! ### One call -/

section

variable {shell : Shell.Runner}

lemma Host.ask_save (path : String) (data : Bytes) (world : World) :
    (primitivesBy shell).ask (.save path data) world =
      match world.tree.resolveNew world.cwd path with
      | .ok place => (.ok (), { world with tree := world.tree.write place data })
      | .error fault => (.error (.io fault), world) := by
  show save path data world = _
  rw [save, Node.save]
  cases world.tree.resolveNew world.cwd path <;> rfl

lemma Host.ask_system_of_nul {command : String} (h : '\x00' ∈ command.toList) (world : World) :
    (primitivesBy shell).ask (.system command) world = (.error (.io .nulInCommand), world) := by
  show systemBy shell command world = _
  rw [systemBy, if_pos (by simpa using h)]
  rfl

/-- Only saving a file and running a command change the world. -/
lemma Host.ask_unchanged {r : Request} (hsave : ∀ path data, r ≠ .save path data)
    (hsystem : ∀ command, r ≠ .system command) (world : World) :
    ((primitivesBy shell).ask r world).2 = world := by
  cases r with
  | save path data => exact absurd rfl (hsave path data)
  | system command => exact absurd rfl (hsystem command)
  | _ => rfl

end

namespace Call

/-- A call on the host is the call on its primitives, beside the state of an object. -/
lemma on_eq (call : Call) (world : World) (i : ι) :
    call.on (world, i) =
      ((Host.primitives.call call.name call.args world).1,
        ((Host.primitives.call call.name call.args world).2, i)) :=
  Handle.respond_hostBy Shell.execute (.call call.name call.args) world i

/-- A call of another name saves nothing. -/
lemma save?_of_ne {call : Call} (h : call.name ≠ "save") : call.save? = none := if_neg h

lemma saved?_of_error {call : Call} {s : World × ι} {e : Error} (h : (call.on s).1 = .error e) :
    call.saved? s = none := by
  rw [saved?]
  split
  · next hon => rw [hon] at h; cases h
  · rfl

lemma saved?_of_save?_eq_none {call : Call} (h : call.save? = none) (s : World × ι) :
    call.saved? s = none := by
  rw [saved?, h]

/-- A call leaves a state alone, and fails if it was to save a file. -/
structure Spares (call : Call) (s : World × ι) : Prop where
  state : (call.on s).2 = s
  saved : call.saved? s = none
  fails : call.name = "save" → ∃ e, (call.on s).1 = .error e

/-- A call writes the file that it was to save at a place, which its path is accepted for. -/
structure Writes (call : Call) (world : World) (i : ι) (place : Place) (path : String)
    (data : Bytes) : Prop where
  asked : call.save? = some (path, data)
  resolves : world.tree.resolveNew world.cwd path = .ok place
  effect : call.on (world, i) = (.ok .none, ({ world with tree := world.tree.write place data }, i))

lemma spares_of_error {call : Call} {s : World × ι} {e : Error} (h : call.on s = (.error e, s)) :
    call.Spares s where
  state := by rw [h]
  saved := saved?_of_error (e := e) (by rw [h])
  fails _ := ⟨e, by rw [h]⟩

lemma spares_of_ne {call : Call} {s : World × ι} (hname : call.name ≠ "save")
    (h : (call.on s).2 = s) : call.Spares s where
  state := h
  saved := saved?_of_save?_eq_none (save?_of_ne hname) s
  fails hsave := absurd hsave hname

/-- An accepted call asks the host for its request. -/
lemma on_of_accepts {call : Call} {r : Request} (h : Request.Accepts call.name call.args r)
    (world : World) (i : ι) :
    call.on (world, i) =
      (r.answer (Host.primitives.ask r world).1, ((Host.primitives.ask r world).2, i)) := by
  rw [on_eq]
  simp only [Primitives.call_eq, Request.ofCall_eq_ok.2 h]

/-- A call that was accepted to save a file writes it or fails. -/
lemma spares_or_writes_of_save {call : Call} {path : String} {data : Bytes}
    (h : Request.Accepts call.name call.args (.save path data))
    (hsave : call.save? = some (path, data)) (world : World) (i : ι) :
    call.Spares (world, i) ∨ ∃ place, call.Writes world i place path data := by
  have hon := on_of_accepts h world i
  rw [Host.ask_save] at hon
  cases hplace : world.tree.resolveNew world.cwd path with
  | error fault =>
      rw [hplace] at hon
      exact .inl (spares_of_error (e := .io fault) hon)
  | ok place =>
      rw [hplace] at hon
      exact .inr ⟨place, hsave, hplace, hon⟩

/-- **What one call can do**, unless it runs a command: leave the state alone or write one
file. -/
lemma spares_or_writes {call : Call} (h : ¬call.RunsCommand) (world : World) (i : ι) :
    call.Spares (world, i) ∨ ∃ place path data, call.Writes world i place path data := by
  obtain ⟨name, args⟩ := call
  cases hcheck : Request.ofCall name args with
  | error e =>
      refine .inl (spares_of_error (e := e) ?_)
      rw [on_eq]
      simp only [Primitives.call_eq, hcheck]
  | ok r =>
      have haccepts := Request.ofCall_eq_ok.1 hcheck
      have hon : on ⟨name, args⟩ (world, i) = _ := on_of_accepts haccepts world i
      cases haccepts with
      | saveBytes path data =>
          refine (spares_or_writes_of_save (.saveBytes path data) rfl world i).imp_right ?_
          exact fun ⟨place, hwrites⟩ => ⟨place, path, _, hwrites⟩
      | saveText path text narrow =>
          refine (spares_or_writes_of_save (.saveText path text narrow) rfl world i).imp_right ?_
          exact fun ⟨place, hwrites⟩ => ⟨place, path, _, hwrites⟩
      | system command =>
          have hnul : '\x00' ∈ command.toList := by
            by_contra hnot
            exact h ⟨command, rfl, rfl, hnot⟩
          refine .inl (spares_of_ne (by simp) ?_)
          rw [hon, Host.ask_system_of_nul hnul]
      | _ =>
          refine .inl (spares_of_ne (by simp) ?_)
          rw [hon, Host.ask_unchanged (by simp) (by simp)]

/-- The place that a call writes is where its path leads from then on. -/
lemma Writes.saved?_eq {call : Call} {world : World} {i : ι} {place : Place} {path : String}
    {data : Bytes} (h : call.Writes world i place path data) :
    call.saved? (world, i) = some (place, data) := by
  rw [saved?, h.asked, h.effect]
  simp only [Node.resolve_write data h.resolves]
  rfl

end Call

/-! ### Runs -/

namespace Store

/-- What the saves of a history make of a tree. -/
def writeAll (tree : Node) (saves : List (Place × Bytes)) : Node :=
  saves.foldl (fun tree saved => tree.write saved.1 saved.2) tree

lemma history_append (calls more : List Call) (s : World × ι) :
    history (calls ++ more) s = history calls s ++ history more (after calls s) := by
  induction calls generalizing s with
  | nil => rfl
  | cons call rest ih =>
      rw [List.cons_append, history, ih, history, List.append_assoc]
      rfl

/-- A run leaves of the world what its history makes of the tree, and all the rest. -/
lemma after_eq {calls : List Call} (h : ∀ call ∈ calls, ¬call.RunsCommand) (world : World) (i : ι) :
    after calls (world, i) =
      ({ world with tree := writeAll world.tree (history calls (world, i)) }, i) := by
  induction calls generalizing world with
  | nil => rfl
  | cons call rest ih =>
      obtain ⟨hcall, hrest⟩ := List.forall_mem_cons.1 h
      rw [after, history]
      rcases Call.spares_or_writes hcall world i with hspares | ⟨place, path, data, hwrites⟩
      · rw [hspares.state, hspares.saved, ih hrest]
        rfl
      · rw [hwrites.saved?_eq, hwrites.effect, ih hrest]
        rfl

/-- What stands at a place after the last save there, if there was one. -/
def afterLast (first : Option Node.View) : Option Bytes → Option Node.View
  | none => first
  | some data => some (.write first data)

lemma afterLast_afterLast (first : Option Node.View) (a b : Option Bytes) :
    afterLast (afterLast first a) b = afterLast first (b.or a) := by
  cases b with
  | none => rw [Option.none_or]; rfl
  | some data =>
      cases a with
      | none => rfl
      | some data' =>
          by_cases hfirst : first = some .device <;> simp [afterLast, Node.View.write, hfirst]

lemma lastSaved_append (saves more : List (Place × Bytes)) (place : Place) :
    lastSaved (saves ++ more) place = (lastSaved more place).or (lastSaved saves place) := by
  rw [lastSaved, List.reverse_append, List.find?_append, Option.map_or]
  rfl

lemma lastSaved_single (target place : Place) (data : Bytes) :
    lastSaved [(target, data)] place = if place = target then some data else none := by
  by_cases h : place = target
  · subst h
    simp [lastSaved]
  · simp [lastSaved, h, Ne.symm h]

/-- What one call leaves at a place. -/
lemma viewAt_on {call : Call} (h : ¬call.RunsCommand) (world : World) (i : ι) (place : Place) :
    (call.on (world, i)).2.1.tree.viewAt place =
      afterLast (world.tree.viewAt place) (lastSaved (call.saved? (world, i)).toList place) := by
  rcases Call.spares_or_writes h world i with hspares | ⟨target, path, data, hwrites⟩
  · rw [hspares.state, hspares.saved]
    rfl
  · rw [hwrites.effect, hwrites.saved?_eq, Option.toList_some, lastSaved_single]
    show (world.tree.write target data).viewAt place = _
    rw [Node.viewAt_write (Node.canWrite_of_resolveNew hwrites.resolves)]
    split
    · next hplace =>
        subst hplace
        rfl
    · rfl

/-- **At every place stands what was saved there last, or what stood there at first.** -/
lemma viewAt_after {calls : List Call} (h : ∀ call ∈ calls, ¬call.RunsCommand) (world : World)
    (i : ι) (place : Place) :
    (after calls (world, i)).1.tree.viewAt place =
      afterLast (world.tree.viewAt place) (lastSaved (history calls (world, i)) place) := by
  induction calls generalizing world i with
  | nil => rfl
  | cons call rest ih =>
      obtain ⟨hcall, hrest⟩ := List.forall_mem_cons.1 h
      rw [after, history, lastSaved_append, ← afterLast_afterLast, ← viewAt_on hcall]
      exact ih hrest _ _

/-- A call makes no directory and removes none. -/
lemma directory_on_iff {call : Call} (h : ¬call.RunsCommand) (world : World) (i : ι)
    (place : Place) :
    (call.on (world, i)).2.1.tree.viewAt place = some .directory ↔
      world.tree.viewAt place = some .directory := by
  rcases Call.spares_or_writes h world i with hspares | ⟨target, path, data, hwrites⟩
  · rw [hspares.state]
  · have hwrite := Node.canWrite_of_resolveNew hwrites.resolves
    rw [hwrites.effect]
    show (world.tree.write target data).viewAt place = _ ↔ _
    rw [Node.viewAt_write hwrite]
    split
    · next hplace =>
        subst hplace
        refine iff_of_false ?_ hwrite.not_directory
        rw [Node.View.write]
        split <;> simp
    · exact Iff.rfl

/-- A run makes no directory and removes none. -/
lemma directory_after_iff {calls : List Call} (h : ∀ call ∈ calls, ¬call.RunsCommand)
    (world : World) (i : ι) (place : Place) :
    (after calls (world, i)).1.tree.viewAt place = some .directory ↔
      world.tree.viewAt place = some .directory := by
  induction calls generalizing world i with
  | nil => exact Iff.rfl
  | cons call rest ih =>
      obtain ⟨hcall, hrest⟩ := List.forall_mem_cons.1 h
      exact (ih hrest _ _).trans (directory_on_iff hcall world i place)

/-! ### Loads -/

/-- A load gives what can be read at the place its path leads to. -/
lemma load_eq_ok_iff (path : String) (value : Value) (s : World × ι) :
    (Call.on ⟨"load", [.str path]⟩ s).1 = .ok value ↔
      ∃ data, value = .bytes data ∧ ∃ place, s.1.tree.resolve s.1.cwd path = .ok place ∧
        (s.1.tree.viewAt place).bind Node.View.contents? = some data := by
  simp only [← Node.load_eq_ok_iff]
  rw [Call.on_of_accepts (.load path) s.1 s.2]
  show Except.map Value.bytes ((s.1.tree.load s.1.cwd path).mapError Error.io) = _ ↔ _
  cases s.1.tree.load s.1.cwd path <;> simp [Except.map, Except.mapError, eq_comm]

/-- What can be read at a place after the last save there. -/
lemma contents?_afterLast (tree : Node) (saves : List (Place × Bytes)) (place : Place) :
    (afterLast (tree.viewAt place) (lastSaved saves place)).bind Node.View.contents? =
      held tree saves place := by
  rw [held]
  cases lastSaved saves place with
  | none =>
      rw [afterLast, Option.none_or]
      split
      · next hdevice => rw [hdevice]; rfl
      · rfl
  | some data =>
      rw [afterLast, Node.View.write]
      split <;> rfl

/-! ### The store -/

/-- What a store does at a call, after other calls from a start. -/
structure Keeps (start : World × ι) (before : List Call) (call : Call) : Prop where
  /-- A call that fails changes nothing. -/
  failed : ∀ e, (call.on (after before start)).1 = .error e →
    (call.on (after before start)).2 = after before start
  /-- A call that is no save changes nothing. -/
  other : call.name ≠ "save" → (call.on (after before start)).2 = after before start
  /-- A save that succeeds enters the history, with the bytes that it was given and the place that
  its path leads to from then on. -/
  saved : ∀ value, call.name = "save" → (call.on (after before start)).1 = .ok value →
    ∃ path data place, call.save? = some (path, data) ∧
      (call.on (after before start)).2.1.tree.resolve start.1.cwd path = .ok place ∧
      history (before ++ [call]) start = history before start ++ [(place, data)]
  /-- A load succeeds exactly with the bytes that the place holds to which its path leads: what was
  saved there last, or what was there at the start. -/
  loaded : ∀ path value, call = ⟨"load", [.str path]⟩ →
    ((call.on (after before start)).1 = .ok value ↔
      ∃ data, value = .bytes data ∧
        ∃ place, (after before start).1.tree.resolve start.1.cwd path = .ok place ∧
          held start.1.tree (history before start) place = some data)

lemma keeps {before : List Call} (hbefore : ∀ call ∈ before, ¬call.RunsCommand) {call : Call}
    (hcall : ¬call.RunsCommand) (world : World) (i : ι) : Keeps (world, i) before call := by
  have hstate := after_eq hbefore world i
  have hview := viewAt_after hbefore world i
  generalize hs : after before (world, i) = s at hstate hview
  obtain ⟨world', i'⟩ := s
  obtain ⟨hworld, rfl⟩ := Prod.mk.inj hstate
  have hcwd : world'.cwd = world.cwd := by rw [hworld]
  have hcases := Call.spares_or_writes hcall world' i'
  refine ⟨fun e he => ?_, fun hname => ?_, fun value hname hvalue => ?_, fun path value hload => ?_⟩
  · rw [hs] at he ⊢
    rcases hcases with hspares | ⟨place, path, data, hwrites⟩
    · exact hspares.state
    · rw [hwrites.effect] at he
      cases he
  · rw [hs]
    rcases hcases with hspares | ⟨place, path, data, hwrites⟩
    · exact hspares.state
    · have hasked := hwrites.asked
      rw [Call.save?_of_ne hname] at hasked
      cases hasked
  · rw [hs] at hvalue ⊢
    rcases hcases with hspares | ⟨place, path, data, hwrites⟩
    · obtain ⟨e, he⟩ := hspares.fails hname
      rw [he] at hvalue
      cases hvalue
    · refine ⟨path, data, place, hwrites.asked, ?_, ?_⟩
      · rw [hwrites.effect]
        show (world'.tree.write place data).resolve world.cwd path = .ok place
        rw [← hcwd]
        exact Node.resolve_write data hwrites.resolves
      · rw [history_append, history, hs, hwrites.saved?_eq]
        rfl
  · subst hload
    rw [hs, load_eq_ok_iff, hcwd]
    simp only [hview, contents?_afterLast]

/-- **The host is an exact store of files** over every run of calls that runs no command, whatever
their names and arguments are.  The run writes its history into the tree and changes nothing else of
the state; at every place stands what was saved there last, or what stood there at first; the
directories stay the same; and every call along the run does what a store does. -/
theorem calls_form_exact_store (calls : List Call) (h : ∀ call ∈ calls, ¬call.RunsCommand)
    (world : World) (i : ι) :
    after calls (world, i) =
        ({ world with tree := writeAll world.tree (history calls (world, i)) }, i) ∧
    (∀ place, (after calls (world, i)).1.tree.viewAt place =
      afterLast (world.tree.viewAt place) (lastSaved (history calls (world, i)) place)) ∧
    (∀ place, (after calls (world, i)).1.tree.viewAt place = some .directory ↔
      world.tree.viewAt place = some .directory) ∧
    ∀ before call rest, calls = before ++ call :: rest → Keeps (world, i) before call := by
  refine ⟨after_eq h world i, viewAt_after h world i, directory_after_iff h world i, ?_⟩
  rintro before call rest rfl
  exact keeps (fun c hc => h c (by simp [hc])) (h call (by simp)) world i

/-- Two saves to one file under two spellings, with calls between them that fail: a directory as
the target, a directory that is missing, text without bytes, and a command with a NUL.  A load under
a third spelling gives what was saved last. -/
theorem aliases_form_exact_store :
    let world : World := { tree := .put .emptyDir ["d"] .emptyDir, cwd := ["d"] }
    let before : List Call :=
      [⟨"save", [.str "f", .str "é"]⟩, ⟨"save", [.str "..", .bytes [1]]⟩,
        ⟨"save", [.str "x/f", .bytes [1]]⟩, ⟨"save", [.str "f", .str "€"]⟩,
        ⟨"system", [.str "\x00"]⟩, ⟨"save", [.str "../d/./f", .bytes [2, 3]]⟩]
    let load : Call := ⟨"load", [.str "/d//f"]⟩
    (∀ call ∈ before ++ [load], ¬call.RunsCommand) ∧
    history (before ++ [load]) (world, ()) = [(["d", "f"], [0xE9]), (["d", "f"], [2, 3])] ∧
    (∀ place, (after (before ++ [load]) (world, ())).1.tree.viewAt place =
      if place = ["d", "f"] then some (.file [2, 3]) else world.tree.viewAt place) ∧
    (load.on (after before (world, ()))).1 = .ok (.bytes [2, 3]) := by
  intro world before load
  have hcalls : ∀ call ∈ before ++ [load], ¬call.RunsCommand := by
    rintro call hmem ⟨command, hname, hargs, hnul⟩
    simp only [before, load, List.cons_append, List.nil_append, List.mem_cons, List.not_mem_nil,
      or_false] at hmem
    rcases hmem with rfl | rfl | rfl | rfl | rfl | rfl | rfl
    · exact absurd hname (by decide)
    · exact absurd hname (by decide)
    · exact absurd hname (by decide)
    · exact absurd hname (by decide)
    · cases hargs
      exact hnul (by decide)
    · exact absurd hname (by decide)
    · exact absurd hname (by decide)
  have hhistory : history (before ++ [load]) (world, ()) =
      [(["d", "f"], [0xE9]), (["d", "f"], [2, 3])] := by decide +kernel
  obtain ⟨-, hview, -, hkeeps⟩ := calls_form_exact_store (before ++ [load]) hcalls world ()
  refine ⟨hcalls, hhistory, fun place => ?_, ?_⟩
  · have hlast := lastSaved_append [(["d", "f"], [0xE9])] [(["d", "f"], [2, 3])] place
    rw [hview, hhistory]
    rw [List.singleton_append, lastSaved_single, lastSaved_single] at hlast
    rw [hlast]
    split
    · next hplace =>
        subst hplace
        decide +kernel
    · rfl
  · refine ((hkeeps before load [] rfl).loaded "/d//f" _ rfl).2 ⟨[2, 3], rfl, ["d", "f"], ?_, ?_⟩
    · decide +kernel
    · decide +kernel

end Store

end BootLayer
