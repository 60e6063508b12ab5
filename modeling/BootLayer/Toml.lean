import BootLayer.Entries
import BootLayer.Number.Double

/-!
TOML documents.  A document is a list of expressions in order: headers of tables, headers of
tables in an array, and assignments.  Together they define one table (`Document.build`), unless a
name is defined twice or a header or key leads through something that is no table.
-/

namespace BootLayer.Toml

/-- How a table came to be. -/
inductive Form where
  /-- By its own header, or as an element of an array of tables. -/
  | header
  /-- By a longer header. -/
  | implied
  /-- By a dotted key. -/
  | dotted
  deriving DecidableEq, Repr

/-- What stands under a key. -/
inductive Item where
  | text (value : String)
  | integer (value : Int64)
  | float (value : Double)
  | boolean (value : Bool)
  /-- A date, a time or both, as written. -/
  | moment (written : String)
  | array (items : List Item)
  /-- A table written in braces, or one made by a dotted key in such a table. -/
  | inline (form : Form) (entries : Entries Item none)
  | table (form : Form) (entries : Entries Item none)
  /-- An array of tables: the last one, and those before it. -/
  | tables (before : List Item) (last : Entries Item none)
  deriving Inhabited

/-- The names under which tables nest. -/
abbrev Key : Type := List String

/-- One expression of a document. -/
inductive Expression where
  /-- The header of a table: what follows belongs to it. -/
  | table (path : Key) (name : String)
  /-- The header of one more table in an array. -/
  | element (path : Key) (name : String)
  /-- An assignment to a dotted key in the current table. -/
  | assign (path : Key) (name : String) (item : Item)

/-! ### Tables in braces -/

/-- Change the table that a dotted key leads to inside a table in braces.  Tables on the way are
made, or were made by dotted keys before. -/
def descendInline (change : Dict Item → Option (Dict Item)) : Key → Dict Item → Option (Dict Item)
  | [], entries => change entries
  | k :: ks, entries =>
    match entries.find? k with
    | none =>
      (descendInline change ks .nil).map fun inner => entries.insert k (.inline .dotted inner)
    | some (.inline .dotted inner) =>
      (descendInline change ks inner).map fun inner => entries.insert k (.inline .dotted inner)
    | some _ => none

/-- Put an item under a name that is still free. -/
def define (name : String) (item : Item) (entries : Dict Item) : Option (Dict Item) :=
  if (entries.find? name).isSome then none else some (entries.insert name item)

/-- The table in braces with these assignments. -/
def buildInline (pairs : List (Key × String × Item)) : Option Item :=
  (pairs.foldlM (fun entries (path, name, item) => descendInline (define name item) path entries)
    .nil).map (.inline .header)

/-! ### Documents -/

/-- Change the table that a path leads to.  Missing tables on the way are made, in the given form;
an array of tables leads on to its last table.  A dotted key must not lead through a table that
has a header. -/
def descend (made : Form) (change : Form → Dict Item → Option (Dict Item)) :
    Key → Form → Dict Item → Option (Dict Item)
  | [], form, entries => change form entries
  | k :: ks, _, entries =>
    match entries.find? k with
    | none =>
      (descend made change ks made .nil).map fun inner => entries.insert k (.table made inner)
    | some (.table form inner) =>
      if made = .dotted ∧ form = .header then none
      else (descend made change ks form inner).map fun inner => entries.insert k (.table form inner)
    | some (.tables before last) =>
      (descend made change ks .header last).map fun last => entries.insert k (.tables before last)
    | some _ => none

/-- Give a table its header.  It may have been implied by the header of a table inside it. -/
def openTable (name : String) (_ : Form) (entries : Dict Item) : Option (Dict Item) :=
  match entries.find? name with
  | none => some (entries.insert name (.table .header .nil))
  | some (.table .implied inner) => some (entries.insert name (.table .header inner))
  | some _ => none

/-- Begin one more table of an array. -/
def openElement (name : String) (_ : Form) (entries : Dict Item) : Option (Dict Item) :=
  match entries.find? name with
  | none => some (entries.insert name (.tables [] .nil))
  | some (.tables before last) =>
    some (entries.insert name (.tables (before ++ [.table .header last]) .nil))
  | some _ => none

/-- Assign to a dotted key inside a table.  The table that the key names in the end has to be one
made by dotted keys. -/
def assignIn (path : Key) (name : String) (item : Item) (form : Form) (entries : Dict Item) :
    Option (Dict Item) :=
  descend .dotted
    (fun reached entries =>
      if path ≠ [] ∧ reached ≠ .dotted then none else define name item entries)
    path form entries

/-- The root table so far, and the path of the current table in it. -/
structure Draft where
  root : Dict Item
  current : Key

/-- Take one more expression into the draft. -/
def Draft.add (draft : Draft) : Expression → Option Draft
  | .table path name =>
    (descend .implied (openTable name) path .header draft.root).map fun root =>
      ⟨root, path ++ [name]⟩
  | .element path name =>
    (descend .implied (openElement name) path .header draft.root).map fun root =>
      ⟨root, path ++ [name]⟩
  | .assign path name item =>
    (descend .implied (assignIn path name item) draft.current .header draft.root).map fun root =>
      ⟨root, draft.current⟩

/-- The table that the expressions of a document define. -/
def build (expressions : List Expression) : Option (Dict Item) :=
  (expressions.foldlM Draft.add ⟨.nil, []⟩).map Draft.root

end BootLayer.Toml
