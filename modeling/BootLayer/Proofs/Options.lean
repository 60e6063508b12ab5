import Mathlib.Data.List.TakeWhile
import Mathlib.Tactic.Common
import BootLayer.CommandLine.Arguments

/-!
Options as words of a command line, and what the reader does with a word.

An option that takes a value is written with the value attached, or as a flag before it.

* `take_hyphens`, `take_attached`, `take_flag`, `take_switch`: what the reader does with each form.
* `Scan.SettlesTo`: what becomes of the words that have not yet been looked at.
* `Scan.Step`, `step_of_take`: all that taking one word can do, whatever the word.
* `takeAll_cons_eq_ok`, `takeAll_append_eq_ok`: words are taken one after the other.
-/

namespace BootLayer.CommandLine

lemma map_eq_ok_iff {ε α β : Type} {f : α → β} {r : Except ε α} {b : β} :
    Except.map f r = .ok b ↔ ∃ a, r = .ok a ∧ b = f a := by
  cases r <;> simp [Except.map, eq_comm]

/-! ### Words of options -/

/-- The long name of an option. -/
def Valued.name : Valued → String
  | .config => "config"
  | .identity => "identity"
  | .text => "text"
  | .hex => "hex"

/-- The option before its value. -/
def Valued.flag (option : Valued) : String := "--" ++ option.name

/-- The option with its value attached. -/
def Valued.attached (option : Valued) (value : String) : String :=
  "--" ++ option.name ++ "=" ++ value

/-- The switch as a word. -/
def Switch.word : Switch → String
  | .verbose => "-v"
  | .template => "--template"
  | .raw => "--raw"
  | .help => "--help"
  | .version => "--version"

/-- The level has the option. -/
def Level.Has (level : Level) (option : Valued) : Prop := level.valued? option.name = some option

/-- The level has the switch, and it is not one that ends the reading. -/
def Level.Allows (level : Level) : Switch → Prop
  | .verbose => True
  | .template => level = some .config
  | .raw => level = some .join ∨ level = some .load
  | .help | .version => False

lemma Level.name_of_valued? {level : Level} {name : String} {option : Valued}
    (h : level.valued? name = some option) : name = option.name := by
  unfold Level.valued? at h
  split_ifs at h <;> cases h <;> simp_all [Valued.name]

lemma Valued.toList_flag (option : Valued) :
    option.flag.toList = '-' :: '-' :: option.name.toList := by
  rw [flag, String.toList_append]
  rfl

lemma Valued.toList_attached (option : Valued) (value : String) :
    (option.attached value).toList = '-' :: '-' :: (option.name.toList ++ '=' :: value.toList) := by
  simp only [attached, String.toList_append, List.append_assoc]
  rfl

lemma Valued.ne_equals_of_mem (option : Valued) :
    ∀ c ∈ option.name.toList, decide (c ≠ '=') = true := by
  have hall : option.name.toList.all (fun c => decide (c ≠ '=')) = true := by
    cases option <;> decide
  exact List.all_eq_true.1 hall

lemma Valued.name_ne_nil (option : Valued) : option.name.toList ≠ [] := by
  cases option <;> decide

lemma Valued.flag_ne_hyphens (option : Valued) : option.flag ≠ "--" := by
  cases option <;> decide

lemma Valued.attached_ne_hyphens (option : Valued) (value : String) :
    option.attached value ≠ "--" := by
  intro h
  have hlist := congrArg String.toList h
  rw [option.toList_attached] at hlist
  exact List.append_ne_nil_of_right_ne_nil _ (List.cons_ne_nil _ _)
    (List.cons.inj (List.cons.inj hlist).2).2

/-! ### What is given -/

/-- What is given, with the value of an option replaced. -/
def Given.put (given : Given) (value : String) : Valued → Given
  | .config => { given with config := some value }
  | .identity => { given with identity := some value }
  | .text => { given with text := some value }
  | .hex => { given with hex := some value }

namespace Given

variable {given next : Given} {option : Valued} {value : String}

lemma valueOf_put (given : Given) (value : String) (option other : Valued) :
    (given.put value option).valueOf other =
      if other = option then some value else given.valueOf other := by
  cases option <;> cases other <;> rfl

/-- An option is given its value once, and a configuration path is not empty. -/
lemma setValue_eq_ok_iff :
    given.setValue option value = .ok next ↔
      given.valueOf option = none ∧ (option = .config → value ≠ "") ∧
        next = given.put value option := by
  unfold setValue
  split_ifs with htwice hempty
  · simp [Option.isSome_iff_ne_none.1 htwice]
  · simp [hempty]
  · have hnone : given.valueOf option = none := by simpa using htwice
    cases option <;> simp_all [put, eq_comm]

lemma valueOf_setSwitch {switch : Switch} (h : given.setSwitch switch = .ok next)
    (option : Valued) : next.valueOf option = given.valueOf option := by
  cases switch with
  | help | version => cases h
  | verbose | template | raw =>
      rw [setSwitch] at h
      split_ifs at h
      cases h
      cases option <;> rfl

lemma valueOf_addPositionals {level : Level} {words : List String}
    (h : given.addPositionals level words = .ok next) (option : Valued) :
    next.valueOf option = given.valueOf option := by
  rw [addPositionals] at h
  split_ifs at h
  cases h
  cases option <;> rfl

end Given

namespace Scan

variable {scan next : Scan} {level : Level} {option : Valued} {word value : String}

/-! ### Words that are not yet looked at -/

/-- The scan has this value for an option, looked at or not. -/
def Holds (scan : Scan) (option : Valued) (value : String) : Prop :=
  scan.given.valueOf option = some value ∨ scan.pending = .value option (some value)

/-- The first scan becomes the second when its pending words are looked at: the values that it holds
are now given, and no option waits for one. -/
structure SettlesTo (scan settled : Scan) : Prop where
  pending : settled.pending = .nothing
  taken : settled.taken = scan.taken
  trailing : settled.trailing = scan.trailing
  awaits : ∀ option, scan.pending ≠ .value option none
  given : ∀ option value, settled.given.valueOf option = some value ↔ scan.Holds option value

lemma settlesTo {settled : Scan} (h : scan.settle level = .ok settled) :
    scan.SettlesTo settled := by
  rw [settle] at h
  split at h
  · next hpending =>
      cases h
      exact ⟨hpending, rfl, rfl, by simp [hpending], by simp [Holds, hpending]⟩
  · cases h
  · next option word hpending =>
      obtain ⟨given, hset, rfl⟩ := map_eq_ok_iff.1 h
      obtain ⟨hnone, -, rfl⟩ := Given.setValue_eq_ok_iff.1 hset
      refine ⟨rfl, rfl, rfl, by simp [hpending], fun other value => ?_⟩
      simp only [Holds, hpending, Given.valueOf_put, Pending.value.injEq]
      split_ifs with hother
      · simp [hother, hnone]
      · simp [Ne.symm hother]
  · next words hpending =>
      obtain ⟨given, hadd, rfl⟩ := map_eq_ok_iff.1 h
      refine ⟨rfl, rfl, rfl, by simp [hpending], fun other value => ?_⟩
      simp [Holds, hpending, Given.valueOf_addPositionals hadd]

/-- Where nothing is pending there is nothing to look at. -/
lemma settle_of_nothing (h : scan.pending = .nothing) (level : Level) :
    scan.settle level = .ok scan := by
  rw [settle, h]

/-! ### The words of options -/

/-- After two hyphens all words are positionals. -/
lemma take_hyphens (h : scan.trailing = false) (level : Level) :
    scan.take level "--" = .ok { scan with trailing := true } := by
  rw [take, h]
  rfl

lemma take_long (h : scan.trailing = false) (level : Level) {body : List Char}
    (hword : word.toList = '-' :: '-' :: body) (hbody : body ≠ []) :
    scan.take level word = scan.takeLong level word body := by
  rw [take, if_neg (by simp [h]), hword]
  cases body with
  | nil => exact absurd rfl hbody
  | cons c rest => rfl

/-- An option with its value attached is given it. -/
lemma take_attached (h : scan.trailing = false) (hlevel : level.Has option) (value : String) :
    scan.take level (option.attached value) =
      match scan.settle level with
      | .error fault => .error fault
      | .ok settled =>
        (settled.given.setValue option value).map fun given => { settled with given } := by
  have hname : (option.name.toList ++ '=' :: value.toList).takeWhile (fun c => decide (c ≠ '=')) =
      option.name.toList := by
    rw [List.takeWhile_append_of_pos option.ne_equals_of_mem]
    simp
  have hvalue : (option.name.toList ++ '=' :: value.toList).dropWhile (fun c => decide (c ≠ '=')) =
      '=' :: value.toList := by
    rw [List.dropWhile_append_of_pos option.ne_equals_of_mem]
    simp
  have hoption : level.valued? option.name = some option := hlevel
  rw [take_long h level (option.toList_attached value) (by simp), takeLong]
  cases scan.settle level <;> simp only [hname, hvalue, String.ofList_toList, hoption]

/-- An option without a value waits for one. -/
lemma take_flag (h : scan.trailing = false) (hlevel : level.Has option) :
    scan.take level option.flag =
      (scan.settle level).map fun settled => { settled with pending := .value option none } := by
  have hname : option.name.toList.takeWhile (fun c => decide (c ≠ '=')) = option.name.toList :=
    List.takeWhile_eq_self_iff.2 option.ne_equals_of_mem
  have hvalue : option.name.toList.dropWhile (fun c => decide (c ≠ '=')) = [] :=
    List.dropWhile_eq_nil_iff.2 option.ne_equals_of_mem
  rw [take_long h level option.toList_flag option.name_ne_nil, takeLong]
  simp only [hname, hvalue, String.ofList_toList]
  rw [show level.valued? option.name = some option from hlevel]

/-- A switch is turned on. -/
lemma take_switch (h : scan.trailing = false) {switch : Switch} (hlevel : level.Allows switch) :
    scan.take level switch.word = scan.turnOn level switch := by
  cases switch with
  | verbose =>
      have hletters : scan.take level "-v" = scan.takeShort level "-v" ['v'] := by
        rw [take, h]
        rfl
      have hletter : level.letter? 'v' = some .verbose := rfl
      rw [Switch.word, hletters, takeShort, if_neg (by simp [hletter])]
      simp only [turnOnAll, hletter]
      cases scan.turnOn level .verbose <;> rfl
  | template =>
      cases hlevel
      have hword : "--template".toList = '-' :: '-' :: "template".toList := rfl
      rw [Switch.word, take_long h _ hword (by decide)]
      rfl
  | raw =>
      have hword : "--raw".toList = '-' :: '-' :: "raw".toList := rfl
      rw [Switch.word, take_long h _ hword (by decide)]
      rcases hlevel with rfl | rfl <;> rfl
  | help | version => cases hlevel

/-! ### All that one word can do -/

/-- What taking a word can do to a scan. -/
inductive Step (level : Level) (scan : Scan) (word : String) : Scan → Prop where
  /-- It ends the options. -/
  | hyphens (reading : scan.trailing = false) (hyphens : word = "--") :
      Step level scan word { scan with trailing := true }
  /-- It gives an option its value. -/
  | attached {option : Valued} {value : String} {settled : Scan} {given : Given}
      (reading : scan.trailing = false) (attached : word = option.attached value)
      (settles : scan.settle level = .ok settled)
      (sets : settled.given.setValue option value = .ok given) :
      Step level scan word { settled with given }
  /-- It names an option. -/
  | flag {option : Valued} {settled : Scan} (reading : scan.trailing = false)
      (flag : word = option.flag) (settles : scan.settle level = .ok settled) :
      Step level scan word { settled with pending := .value option none }
  /-- It is the value that an option waits for. -/
  | value {option : Valued} (reading : scan.trailing = false) (other : word ≠ "--")
      (waits : scan.pending = .value option none) :
      Step level scan word { scan with pending := .value option (some word) }
  /-- It turns switches on. -/
  | switches {settled : Scan} {given : Given} (reading : scan.trailing = false)
      (other : word ≠ "--") (settles : scan.settle level = .ok settled)
      (same : ∀ option, given.valueOf option = settled.given.valueOf option) :
      Step level scan word { settled with given }
  /-- It is a positional. -/
  | positional {settled : Scan} (other : scan.trailing = false → word ≠ "--")
      (settles : scan.settle level = .ok settled) :
      Step level scan word
        { settled with pending := .positionals [word], taken := settled.taken + 1 }
  /-- It is one more of any number of positionals. -/
  | part {words : List String} (other : scan.trailing = false → word ≠ "--")
      (follows : scan.pending = .positionals words) :
      Step level scan word
        { scan with pending := .positionals (words ++ [word]), taken := scan.taken + 1 }

lemma step_of_takeWord (other : scan.trailing = false → word ≠ "--")
    (h : scan.takeWord level word = .ok next) : scan.Step level word next := by
  unfold takeWord at h
  split at h
  · next reading waits =>
      cases h
      exact .value reading (other reading) waits
  · split at h
    · split at h
      · next follows _ =>
          cases h
          exact .part other follows
      · obtain ⟨settled, settles, rfl⟩ := map_eq_ok_iff.1 h
        exact .positional other settles
    · split at h
      · cases h
      · split at h <;> cases h

lemma exists_of_turnOn {switch : Switch} (h : scan.turnOn level switch = .ok next) :
    ∃ settled given, scan.settle level = .ok settled ∧ next = { settled with given } ∧
      ∀ option, given.valueOf option = settled.given.valueOf option := by
  unfold turnOn at h
  split at h
  · cases h
  · next settled settles =>
      obtain ⟨given, hset, rfl⟩ := map_eq_ok_iff.1 h
      exact ⟨settled, given, settles, rfl, Given.valueOf_setSwitch hset⟩

/-- Letters turn on switches one after the other, but the pending words are looked at once. -/
lemma exists_of_turnOnAll {c : Char} {letters : List Char}
    (h : turnOnAll level scan (c :: letters) = .ok next) :
    ∃ settled given, scan.settle level = .ok settled ∧ next = { settled with given } ∧
      ∀ option, given.valueOf option = settled.given.valueOf option := by
  induction letters generalizing scan c with
  | nil =>
      unfold turnOnAll at h
      split at h
      · cases h
      · split at h
        · cases h
        · next on =>
            cases h
            exact exists_of_turnOn on
  | cons d letters ih =>
      unfold turnOnAll at h
      split at h
      · cases h
      · split at h
        · cases h
        · next middle on =>
            obtain ⟨settled, given, settles, rfl, same⟩ := exists_of_turnOn on
            obtain ⟨settled', given', settles', rfl, same'⟩ := ih h
            have hnothing : ({ settled with given } : Scan).pending = .nothing :=
              (settlesTo settles).pending
            rw [settle_of_nothing hnothing] at settles'
            cases settles'
            exact ⟨settled, given', settles, rfl, fun option => (same' option).trans (same option)⟩

lemma step_of_takeLong {body : List Char} (reading : scan.trailing = false)
    (hword : word.toList = '-' :: '-' :: body) (hbody : body ≠ [])
    (h : scan.takeLong level word body = .ok next) : scan.Step level word next := by
  have other : word ≠ "--" := by
    rintro rfl
    exact hbody (List.cons.inj (List.cons.inj hword).2).2.symm
  have hsplit : body.takeWhile (fun c => decide (c ≠ '=')) ++
      body.dropWhile (fun c => decide (c ≠ '=')) = body := List.takeWhile_append_dropWhile
  unfold takeLong at h
  cases hdrop : body.dropWhile (fun c => decide (c ≠ '=')) with
  | nil =>
      -- there is no equals sign
      rw [hdrop, List.append_nil] at hsplit
      simp only [hdrop, hsplit] at h
      split at h
      · next hvalue => cases hvalue
      · next option hoption _ =>
          obtain ⟨settled, settles, rfl⟩ := map_eq_ok_iff.1 h
          refine .flag reading (String.toList_injective ?_) settles
          rw [option.toList_flag, ← Level.name_of_valued? hoption, String.toList_ofList, hword]
      · cases h
      · obtain ⟨settled, given, settles, rfl, same⟩ := exists_of_turnOn h
        exact .switches reading other settles same
      · split at h
        · exact step_of_takeWord (fun _ => other) h
        · cases h
  | cons c rest =>
      have hequals : c = '=' := by
        have hstop := List.head?_dropWhile_not (fun c => decide (c ≠ '=')) body
        rw [hdrop] at hstop
        simpa using hstop
      subst hequals
      rw [hdrop] at hsplit
      simp only [hdrop] at h
      split at h
      · next option value hoption hvalue =>
          cases hvalue
          split at h
          · cases h
          · next settled settles =>
              obtain ⟨given, sets, rfl⟩ := map_eq_ok_iff.1 h
              refine .attached reading (String.toList_injective ?_) settles sets
              rw [option.toList_attached, ← Level.name_of_valued? hoption,
                String.toList_ofList, String.toList_ofList, hsplit, hword]
      · next hvalue => cases hvalue
      · cases h
      · next hvalue => cases hvalue
      · split at h
        · exact step_of_takeWord (fun _ => other) h
        · cases h

/-- **All that taking one word can do.** -/
lemma step_of_take (h : scan.take level word = .ok next) : scan.Step level word next := by
  unfold take at h
  split at h
  · next trailing => exact step_of_takeWord (by simp [trailing]) h
  · next trailing =>
      have reading : scan.trailing = false := by simpa using trailing
      split at h
      · next hword =>
          cases h
          exact .hyphens reading (String.toList_injective hword)
      · next body hbody hword => exact step_of_takeLong reading hword (by simpa using hbody) h
      · next c letters _ hhyphen hword =>
          have other : word ≠ "--" := by
            rintro rfl
            exact hhyphen (List.cons.inj (List.cons.inj hword).2).1.symm
          unfold takeShort at h
          split at h
          · exact step_of_takeWord (fun _ => other) h
          · obtain ⟨settled, given, settles, rfl, same⟩ := exists_of_turnOnAll h
            exact .switches reading other settles same
      · next hhyphens _ _ =>
          exact step_of_takeWord (fun _ hword => hhyphens (by rw [hword]; rfl)) h

/-! ### Runs of words -/

lemma takeAll_cons_eq_ok {words : List String} {last : Scan} :
    takeAll level scan (word :: words) = .ok last ↔
      ∃ next, scan.take level word = .ok next ∧ takeAll level next words = .ok last := by
  rw [takeAll]
  cases scan.take level word <;> simp

lemma takeAll_append_eq_ok {words more : List String} {last : Scan} :
    takeAll level scan (words ++ more) = .ok last ↔
      ∃ middle, takeAll level scan words = .ok middle ∧ takeAll level middle more = .ok last := by
  induction words generalizing scan with
  | nil => simp [takeAll]
  | cons word words ih =>
      simp only [List.cons_append, takeAll_cons_eq_ok, ih]
      constructor
      · rintro ⟨next, htake, middle, hwords, hmore⟩
        exact ⟨middle, ⟨next, htake, hwords⟩, hmore⟩
      · rintro ⟨middle, ⟨next, htake, hwords⟩, hmore⟩
        exact ⟨next, htake, middle, hwords, hmore⟩

end Scan

end BootLayer.CommandLine
