import Mathlib.Tactic.Common
import BootLayer.Proofs.Dispatch
import BootLayer.Proofs.Join
import BootLayer.Proofs.Merge

/-!
Which failures a call on the host can have.

A call that passes the check of its name and arguments makes a request.  `Misused` lists the
requests that the host refuses for their values, `TurnsDown` those that the world turns down, and
`Denies` adds texts that are no numbers and bytes that are no packed double.  None of them mentions
the shell: a command line that is started does not fail.

* `number_eq_error_iff`, `istype_eq_error_iff`, `funpack_eq_error_iff`, `save_eq_error_iff` and
  their like: when each primitive fails, and with what.
* `answer_eq_error_iff`: the host fails on a request exactly if it denies it.
* `host_failures_by_class`: for each class of errors, the calls on the host that fail with it,
  whatever its shell does.
-/

namespace BootLayer

/-! ### Mapped results -/

lemma map_eq_error_iff {ε α β : Type} {f : α → β} {r : Except ε α} {e : ε} :
    Except.map f r = .error e ↔ r = .error e := by
  cases r <;> simp [Except.map]

lemma mapError_eq_error_iff {ε ε' α : Type} {f : ε → ε'} {r : Except ε α} {e : ε'} :
    Except.mapError f r = .error e ↔ ∃ fault, r = .error fault ∧ e = f fault := by
  cases r <;> simp [Except.mapError, eq_comm]

/-! ### The primitives one by one -/

namespace Host

/-- Text fails as `readNumber` does, and a value of another kind that is no number by its kind. -/
lemma number_eq_error_iff {v : Value} {e : Error} :
    number v = .error e ↔
      (∃ text fault, v = .str text ∧ readNumber text = .error fault ∧ e = .parse fault) ∨
      v.kind ∉ [Kind.str, Kind.int, Kind.float, Kind.bool] ∧ e = .type (.noNumber v.kind) := by
  cases v with
  | str text => simp [number, Value.kind, mapError_eq_error_iff]
  | _ => simp [number, Value.number?, Value.kind, eq_comm]

lemma istype_eq_error_iff {v : Value} {tag : String} {fault : TypeFault} :
    istype v tag = .error fault ↔
      tag ∉ ["string", "list", "dict", "mapping", "number"] ∧ fault = .unknownTag tag := by
  have hname : Tag.ofName? tag = none ↔
      tag ∉ ["string", "list", "dict", "mapping", "number"] := by
    simp only [Tag.ofName?, List.mem_cons, List.not_mem_nil, or_false, not_or]
    split_ifs <;> grind
  rw [← hname, istype]
  cases Tag.ofName? tag <;> simp [eq_comm]

lemma funpack_eq_error_iff {data : Bytes} {e : Error} :
    funpack data = .error e ↔ data.length ≠ 8 ∧ e = .size 8 data.length := by
  by_cases hlength : data.length = 8 <;>
    simp [funpack, Double.unpack?, packedWidth, hlength, eq_comm]

/-- The primitive fails as `BootLayer.merge` does. -/
lemma merge_reply_eq_error_iff {target source : Value} {world : World} {e : Error} :
    (merge target source world).1.1 = .error e ↔
      ∃ fault, BootLayer.merge target source = .error fault ∧ e = .type fault := by
  cases h : BootLayer.merge target source with
  | ok merged => simp [merge_of_eq_ok h]
  | error fault => simp [merge_of_eq_error h, eq_comm]

lemma system_eq_error_iff {shell : Shell.Runner} {command : String} {world : World} {e : Error} :
    (systemBy shell command world).1 = .error e ↔
      '\x00' ∈ command.toList ∧ e = .io .nulInCommand := by
  by_cases hnul : '\x00' ∈ command.toList <;> simp [systemBy, hnul, eq_comm]

lemma save_eq_error_iff {path : String} {data : Bytes} {world : World} {e : Error} :
    (save path data world).1 = .error e ↔
      ∃ fault, world.tree.save world.cwd path data = .error fault ∧ e = .io fault := by
  unfold save
  cases world.tree.save world.cwd path data <;> simp [eq_comm]

/-! ### Requests that are denied -/

/-- The values of the request are not what its primitive works on, with this fault: a part that
cannot be joined, a merge with a value that is no mapping, a value that stands for no number, a tag
that is not listed. -/
inductive Misused : Request → TypeFault → Prop where
  | join {parts : List Value} {fault : TypeFault} (h : SpoiledBy parts fault) :
      Misused (.join parts) fault
  | mergeTarget {target source : Value} (h : ¬target.IsMapping) :
      Misused (.merge target source) (.mergeTarget target.kind)
  | mergeSource {target source : Value} (htarget : target.IsMapping) (h : ¬source.IsMapping) :
      Misused (.merge target source) (.mergeSource source.kind)
  | number {v : Value} (h : v.kind ∉ [Kind.str, Kind.int, Kind.float, Kind.bool]) :
      Misused (.number v) (.noNumber v.kind)
  | istype {v : Value} {tag : String}
      (h : tag ∉ ["string", "list", "dict", "mapping", "number"]) :
      Misused (.istype v tag) (.unknownTag tag)

/-- The world turns the request down, with this fault: a command with a NUL in it, a file that
cannot be read, is not text or cannot be written. -/
inductive TurnsDown (world : World) : Request → IoFault → Prop where
  | system {command : String} (h : '\x00' ∈ command.toList) :
      TurnsDown world (.system command) .nulInCommand
  | load {path : String} {fault : IoFault} (h : world.tree.load world.cwd path = .error fault) :
      TurnsDown world (.load path) fault
  | read {path : String} {fault : IoFault} (h : world.tree.read world.cwd path = .error fault) :
      TurnsDown world (.read path) fault
  | save {path : String} {data : Bytes} {fault : IoFault}
      (h : world.tree.save world.cwd path data = .error fault) :
      TurnsDown world (.save path data) fault

/-- The host denies the request, with this error. -/
inductive Denies (world : World) : Request → Error → Prop where
  | parse {text : String} {fault : ParseFault} (h : readNumber text = .error fault) :
      Denies world (.number (.str text)) (.parse fault)
  | size {data : Bytes} (h : data.length ≠ 8) :
      Denies world (.funpack data) (.size 8 data.length)
  | io {r : Request} {fault : IoFault} (h : TurnsDown world r fault) : Denies world r (.io fault)
  | type {r : Request} {fault : TypeFault} (h : Misused r fault) : Denies world r (.type fault)

section

variable {shell : Shell.Runner} {world : World} {r : Request}

/-- The host fails on a request whose values are misused, whatever the world. -/
lemma answer_of_misused {fault : TypeFault} (h : Misused r fault) :
    r.answer ((primitivesBy shell).ask r world).1 = .error (.type fault) := by
  cases h with
  | join h => exact map_eq_error_iff.2 (mapError_eq_error_iff.2 ⟨_, join_eq_error_iff.2 h, rfl⟩)
  | mergeTarget h =>
      exact map_eq_error_iff.2 (merge_reply_eq_error_iff.2 ⟨_, merge_of_not_target h _, rfl⟩)
  | mergeSource htarget h =>
      exact map_eq_error_iff.2
        (merge_reply_eq_error_iff.2 ⟨_, merge_of_not_source htarget h, rfl⟩)
  | number h => exact map_eq_error_iff.2 (number_eq_error_iff.2 (.inr ⟨h, rfl⟩))
  | istype h =>
      exact map_eq_error_iff.2 (mapError_eq_error_iff.2 ⟨_, istype_eq_error_iff.2 ⟨h, rfl⟩, rfl⟩)

/-- The host fails on a request that the world turns down. -/
lemma answer_of_turnsDown {fault : IoFault} (h : TurnsDown world r fault) :
    r.answer ((primitivesBy shell).ask r world).1 = .error (.io fault) := by
  cases h with
  | system h => exact map_eq_error_iff.2 (system_eq_error_iff.2 ⟨h, rfl⟩)
  | load h => exact map_eq_error_iff.2 (mapError_eq_error_iff.2 ⟨_, h, rfl⟩)
  | read h => exact map_eq_error_iff.2 (mapError_eq_error_iff.2 ⟨_, h, rfl⟩)
  | save h => exact map_eq_error_iff.2 (save_eq_error_iff.2 ⟨_, h, rfl⟩)

/-- **The host fails on a request exactly if it denies it.** -/
lemma answer_eq_error_iff {e : Error} :
    r.answer ((primitivesBy shell).ask r world).1 = .error e ↔ Denies world r e := by
  constructor
  · intro h
    cases r with
    | join parts =>
        obtain ⟨fault, hfault, rfl⟩ := mapError_eq_error_iff.1 (map_eq_error_iff.1 h)
        exact .type (.join (join_eq_error_iff.1 hfault))
    | merge target source =>
        obtain ⟨fault, hfault, rfl⟩ := merge_reply_eq_error_iff.1 (map_eq_error_iff.1 h)
        rcases merge_eq_error_iff.1 hfault with ⟨htarget, rfl⟩ | ⟨htarget, hsource, rfl⟩
        · exact .type (.mergeTarget htarget)
        · exact .type (.mergeSource htarget hsource)
    | number v =>
        rcases number_eq_error_iff.1 (map_eq_error_iff.1 h) with
          ⟨text, fault, rfl, hread, rfl⟩ | ⟨hkind, rfl⟩
        · exact .parse hread
        · exact .type (.number hkind)
    | istype v tag =>
        obtain ⟨fault, hfault, rfl⟩ := mapError_eq_error_iff.1 (map_eq_error_iff.1 h)
        obtain ⟨htag, rfl⟩ := istype_eq_error_iff.1 hfault
        exact .type (.istype htag)
    | funpack data =>
        obtain ⟨hlength, rfl⟩ := funpack_eq_error_iff.1 (map_eq_error_iff.1 h)
        exact .size hlength
    | system command =>
        obtain ⟨hnul, rfl⟩ := system_eq_error_iff.1 (map_eq_error_iff.1 h)
        exact .io (.system hnul)
    | load path =>
        obtain ⟨fault, hfault, rfl⟩ := mapError_eq_error_iff.1 (map_eq_error_iff.1 h)
        exact .io (.load hfault)
    | read path =>
        obtain ⟨fault, hfault, rfl⟩ := mapError_eq_error_iff.1 (map_eq_error_iff.1 h)
        exact .io (.read hfault)
    | save path data =>
        obtain ⟨fault, hfault, rfl⟩ := save_eq_error_iff.1 (map_eq_error_iff.1 h)
        exact .io (.save hfault)
    | fpack x | argv => cases h
  · rintro (h | h | h | h)
    · exact map_eq_error_iff.2 (number_eq_error_iff.2 (.inl ⟨_, _, rfl, h, rfl⟩))
    · exact map_eq_error_iff.2 (funpack_eq_error_iff.2 ⟨h, rfl⟩)
    · exact answer_of_turnsDown h
    · exact answer_of_misused h

/-- A call fails if its check refuses it, or if the host denies the request that it makes. -/
lemma call_eq_error_iff {name : String} {args : List Value} {e : Error} :
    ((primitivesBy shell).call name args world).1 = .error e ↔
      (∃ fault, Request.Refuses name args fault ∧ e = .type fault) ∨
      ∃ r, Request.Accepts name args r ∧ Denies world r e := by
  rw [Primitives.call_eq]
  cases hcheck : Request.ofCall name args with
  | error e' =>
      obtain ⟨fault, rfl, hrefused⟩ := Request.ofCall_eq_error.1 hcheck
      constructor
      · rintro ⟨⟩
        exact .inl ⟨fault, hrefused, rfl⟩
      · rintro (⟨fault', hrefused', rfl⟩ | ⟨r, haccepted, -⟩)
        · rw [Request.ofCall_of_refuses hrefused'] at hcheck
          cases hcheck
          rfl
        · rw [Request.ofCall_of_accepts haccepted] at hcheck
          cases hcheck
  | ok r =>
      rw [answer_eq_error_iff]
      constructor
      · exact fun hdenied => .inr ⟨r, Request.ofCall_eq_ok.1 hcheck, hdenied⟩
      · rintro (⟨fault, hrefused, rfl⟩ | ⟨r', haccepted, hdenied⟩)
        · rw [Request.ofCall_of_refuses hrefused] at hcheck
          cases hcheck
        · rw [Request.ofCall_of_accepts haccepted] at hcheck
          cases hcheck
          exact hdenied

end

end Host

/-- **Which call on the host fails with which class of errors.**  A parse error is that of a text
that is no number; a size error that of bytes that are no packed double; the world is asked, and may
turn a request down, only by `system`, `load`, `read` and `save` and after all checks; there are no
errors of a runtime; and a type error comes from the check of the call, or from values that the
primitive does not work on, whatever the world.  Nothing is asked of the shell: what it does with a
command line makes no call fail. -/
theorem host_failures_by_class {ι : Type} (shell : Shell.Runner) (name : String)
    (args : List Value) (world : World) (i : ι) :
    (∀ fault, ((Handle.hostBy shell).call name args (world, i)).1 = .error (.parse fault) ↔
      ∃ text, name = "number" ∧ args = [.str text] ∧ readNumber text = .error fault) ∧
    (∀ expected actual,
      ((Handle.hostBy shell).call name args (world, i)).1 = .error (.size expected actual) ↔
      ∃ data, name = "funpack" ∧ args = [.bytes data] ∧ data.length ≠ 8 ∧ expected = 8 ∧
        actual = data.length) ∧
    (∀ fault, ((Handle.hostBy shell).call name args (world, i)).1 = .error (.io fault) ↔
      name ∈ ["system", "load", "read", "save"] ∧
        ∃ r, Request.Accepts name args r ∧ Host.TurnsDown world r fault) ∧
    (∀ words, ((Handle.hostBy shell).call name args (world, i)).1 ≠ .error (.runtime words)) ∧
    (∀ fault, ((Handle.hostBy shell).call name args (world, i)).1 = .error (.type fault) ↔
      Request.Refuses name args fault ∨
        ∃ r, Request.Accepts name args r ∧ Host.Misused r fault) := by
  have hcall : ((Handle.hostBy shell).call name args (world, i)).1 =
      ((Host.primitivesBy shell).call name args world).1 :=
    congrArg Prod.fst (Handle.respond_hostBy shell (.call name args) world i)
  simp only [hcall, ne_eq, Host.call_eq_error_iff]
  refine ⟨fun fault => ?_, fun expected actual => ?_, fun fault => ?_, fun words => ?_,
    fun fault => ?_⟩
  · constructor
    · rintro (⟨fault, -, ⟨⟩⟩ | ⟨r, haccepted, hdenied⟩)
      cases hdenied with
      | parse h => cases haccepted; exact ⟨_, rfl, rfl, h⟩
    · rintro ⟨text, rfl, rfl, h⟩
      exact .inr ⟨_, .number _, .parse h⟩
  · constructor
    · rintro (⟨fault, -, ⟨⟩⟩ | ⟨r, haccepted, hdenied⟩)
      cases hdenied with
      | size h => cases haccepted; exact ⟨_, rfl, rfl, h, rfl, rfl⟩
    · rintro ⟨data, rfl, rfl, h, rfl, rfl⟩
      exact .inr ⟨_, .funpack _, .size h⟩
  · constructor
    · rintro (⟨fault, -, ⟨⟩⟩ | ⟨r, haccepted, hdenied⟩)
      cases hdenied with
      | io h =>
          refine ⟨?_, r, haccepted, h⟩
          cases h <;> cases haccepted <;> simp
    · rintro ⟨-, r, haccepted, h⟩
      exact .inr ⟨r, haccepted, .io h⟩
  · rintro (⟨fault, -, ⟨⟩⟩ | ⟨r, -, ⟨⟩⟩)
  · constructor
    · rintro (⟨fault', hrefused, ⟨⟩⟩ | ⟨r, haccepted, hdenied⟩)
      · exact .inl hrefused
      · cases hdenied with
        | type h => exact .inr ⟨r, haccepted, h⟩
    · rintro (hrefused | ⟨r, haccepted, h⟩)
      · exact .inl ⟨fault, hrefused, rfl⟩
      · exact .inr ⟨r, haccepted, .type h⟩

end BootLayer
