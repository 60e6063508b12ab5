import BootLayer.Error
import BootLayer.Value

/-!
Copying entries onto a target.  A target is anything that can be assigned to under a key; the
entries of the source are assigned in key order, once each.  Maps take entries as items, records
as fields.

Copying tells the outcome and hands the target back as it then is, also after a fault.  `completed`
keeps of this what a success gives.
-/

namespace BootLayer

/-- Assign every entry of `source` to a target, in key order: the outcome, and the target as it then
is. -/
def assignEntries {τ : Type} (assign : τ → String → Value → τ) (target : τ) (source : Value) :
    Except TypeFault Unit × τ :=
  match source.entries? with
  | none => (.error (.mergeSource source.kind), target)
  | some entries => (.ok (), entries.toList.foldl (fun t e => assign t e.1 e.2) target)

/-- Assign every entry of `source` to a value, as an item of a map or as a field of a record: the
outcome, and the value as it then is.  A value that takes no entries is the first fault. -/
def mergeInPlace (target source : Value) : Except TypeFault Unit × Value :=
  match target with
  | .map m => (assignEntries Entries.insert m source).map id .map
  | .record name fields => (assignEntries Record.set ⟨name, fields⟩ source).map id Record.toValue
  | other => (.error (.mergeTarget other.kind), other)

/-! ### What a success gives -/

/-- The target that a success leaves, or the fault. -/
def completed {τ : Type} (assigned : Except TypeFault Unit × τ) : Except TypeFault τ :=
  assigned.1.map fun () => assigned.2

/-- The target after every entry of `source` has been assigned to it. -/
def mergeInto {τ : Type} (assign : τ → String → Value → τ) (target : τ) (source : Value) :
    Except TypeFault τ :=
  completed (assignEntries assign target source)

/-- The map after the entries of `source` have been assigned to its items. -/
def mergeMap (target : Dict Value) (source : Value) : Except TypeFault (Dict Value) :=
  mergeInto Entries.insert target source

/-- The record after the entries of `source` have been assigned to its fields. -/
def mergeRecord (target : Record) (source : Value) : Except TypeFault Record :=
  mergeInto Record.set target source

/-- The target after the entries of `source` have been assigned to it.  A target that takes no
entries is the first fault. -/
def merge (target source : Value) : Except TypeFault Value :=
  match target with
  | .map m => (mergeMap m source).map .map
  | .record name fields => (mergeRecord ⟨name, fields⟩ source).map Record.toValue
  | other => .error (.mergeTarget other.kind)

end BootLayer
