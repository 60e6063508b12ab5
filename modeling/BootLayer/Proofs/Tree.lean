import Mathlib.Tactic.Common
import BootLayer.FileTree

/-!
A file tree seen place by place: at a place stands a directory, a file with its data, or the device.

* `viewAt_write`: writing at a place where a file can be written changes what stands there, and
  nothing at any other place.
* `canWrite_of_resolveNew`: a path that is accepted for writing leads to such a place.
* `resolve_write`: after the write the path leads to that very place, whatever aliases are in it.
* `load_eq_ok_iff`: a file is loaded exactly where its path leads to.
-/

namespace BootLayer.Node

/-! ### What stands at a place -/

/-- What stands at a place, apart from what is below it. -/
inductive View where
  | directory
  | file (data : Bytes)
  | device
  deriving DecidableEq, Repr

/-- A node apart from what is below it. -/
def view : Node → View
  | .file data => .file data
  | .dir _ => .directory
  | .null => .device

/-- What stands at a place of a tree, if anything does. -/
def viewAt (tree : Node) (place : Place) : Option View := (tree.at? place).map view

/-- What can be read from what stands at a place. -/
def View.contents? : View → Option Bytes
  | .file data => some data
  | .device => some []
  | .directory => none

lemma view_eq_directory {node : Node} :
    node.view = .directory ↔ ∃ children, node = .dir children := by
  cases node <;> simp [view]

/-- A directory stands at a place exactly if the node there is one. -/
lemma viewAt_eq_directory {tree : Node} {place : Place} :
    tree.viewAt place = some .directory ↔ ∃ children, tree.at? place = some (.dir children) := by
  rw [viewAt, Option.map_eq_some_iff]
  constructor
  · rintro ⟨node, hnode, hview⟩
    obtain ⟨children, rfl⟩ := view_eq_directory.1 hview
    exact ⟨children, hnode⟩
  · rintro ⟨children, hnode⟩
    exact ⟨_, hnode, rfl⟩

lemma viewAt_nil (tree : Node) : tree.viewAt [] = some tree.view := rfl

lemma viewAt_cons_dir (children : Dict Node) (name : String) (rest : Place) :
    (dir children).viewAt (name :: rest) =
      (children.find? name).bind fun child => child.viewAt rest := by
  rw [viewAt, at?, child?, Option.map_bind]
  rfl

/-- Below a file there is nothing. -/
lemma viewAt_cons_of_not_directory {node : Node} (h : node.view ≠ .directory) (name : String)
    (rest : Place) : node.viewAt (name :: rest) = none := by
  cases node with
  | dir children => exact absurd rfl h
  | file data => rfl
  | null => rfl

/-- The node one name further. -/
lemma at?_concat (tree : Node) (place : Place) (name : String) :
    tree.at? (place ++ [name]) = (tree.at? place).bind fun node => node.child? name := by
  induction place generalizing tree with
  | nil => simp [at?]
  | cons n rest ih =>
      rw [List.cons_append, at?, at?, Option.bind_assoc]
      congr 1
      funext child
      exact ih child

/-- In a directory, the entry of a name is what stands one name further. -/
lemma viewAt_concat_of_dir {tree : Node} {place : Place} {children : Dict Node}
    (h : tree.at? place = some (.dir children)) (name : String) :
    tree.viewAt (place ++ [name]) = (children.find? name).map view := by
  rw [viewAt, at?_concat, h]
  rfl

/-! ### Writing -/

/-- A file can be written at a place: it is in a directory and is none itself. -/
structure CanWrite (tree : Node) (place : Place) : Prop where
  in_directory : ∃ parent name, place = parent ++ [name] ∧ tree.viewAt parent = some .directory
  not_directory : tree.viewAt place ≠ some .directory

/-- What stands at a place after something is written there: the device takes it and stays. -/
def View.write (old : Option View) (data : Bytes) : View :=
  if old = some .device then .device else .file data

/-- A new leaf among the entries of a directory, in place of none or of another leaf, changes
nothing else. -/
lemma viewAt_insert_leaf {leaf : Node} (hleaf : leaf.view ≠ .directory) {children : Dict Node}
    {name : String} (hname : (dir children).viewAt [name] ≠ some .directory) (place : Place) :
    (dir (children.insert name leaf)).viewAt place =
      if place = [name] then some leaf.view else (dir children).viewAt place := by
  cases place with
  | nil => rfl
  | cons n rest =>
      rw [viewAt_cons_dir, viewAt_cons_dir, Entries.find?_insert]
      by_cases hn : n = name
      · subst hn
        rw [if_pos rfl, Option.bind_some]
        cases rest with
        | nil => rw [if_pos rfl, viewAt_nil]
        | cons m rest =>
            -- neither the new leaf nor what stood in its place has anything below it
            rw [viewAt_cons_of_not_directory hleaf, if_neg (by simp)]
            rw [viewAt_cons_dir] at hname
            cases hchild : children.find? n with
            | none => rfl
            | some child =>
                rw [hchild, Option.bind_some, viewAt_nil] at hname
                have hview : child.view ≠ .directory := fun h => hname (congrArg some h)
                rw [Option.bind_some, viewAt_cons_of_not_directory hview]
      · rw [if_neg hn, if_neg (by simp [hn])]

/-- A new leaf in the directory of its place changes nothing else. -/
lemma viewAt_put_leaf {leaf : Node} (hleaf : leaf.view ≠ .directory) (parent : Place)
    (name : String) {tree : Node} (hparent : tree.viewAt parent = some .directory)
    (hplace : tree.viewAt (parent ++ [name]) ≠ some .directory) (place : Place) :
    (tree.put (parent ++ [name]) leaf).viewAt place =
      if place = parent ++ [name] then some leaf.view else tree.viewAt place := by
  induction parent generalizing tree place with
  | nil =>
      obtain ⟨children, hnode⟩ := viewAt_eq_directory.1 hparent
      cases hnode
      rw [List.nil_append, put, put]
      exact viewAt_insert_leaf hleaf hplace place
  | cons first parent ih =>
      cases tree with
      | file data => cases hparent
      | null => cases hparent
      | dir children =>
          rw [viewAt_cons_dir] at hparent
          obtain ⟨child, hchild, hdir⟩ := Option.bind_eq_some_iff.1 hparent
          rw [List.cons_append, viewAt_cons_dir, hchild, Option.bind_some] at hplace
          rw [List.cons_append, put, hchild, Option.getD_some]
          cases place with
          | nil => rfl
          | cons n rest =>
              rw [viewAt_cons_dir, viewAt_cons_dir, Entries.find?_insert]
              by_cases hn : n = first
              · subst hn
                rw [if_pos rfl, Option.bind_some, hchild, Option.bind_some, ih hdir hplace]
                simp
              · rw [if_neg hn, if_neg (by simp [hn])]

/-- **Writing changes what stands at its place and nothing else.** -/
theorem viewAt_write {tree : Node} {target : Place} (h : tree.CanWrite target) (data : Bytes)
    (place : Place) :
    (tree.write target data).viewAt place =
      if place = target then some (View.write (tree.viewAt target) data)
      else tree.viewAt place := by
  obtain ⟨⟨parent, name, rfl, hparent⟩, hplace⟩ := h
  rw [write]
  split
  · next hnode =>
      have hdevice : tree.viewAt (parent ++ [name]) = some .device := by rw [viewAt, hnode]; rfl
      split
      · next hat => rw [hat, hdevice]; rfl
      · rfl
  · next hnode =>
      have hdevice : tree.viewAt (parent ++ [name]) ≠ some .device := by
        intro hview
        obtain ⟨node, hat, hnull⟩ := Option.map_eq_some_iff.1 hview
        cases node with
        | null => exact hnode hat
        | file data => cases hnull
        | dir children => cases hnull
      rw [viewAt_put_leaf (by simp [view]) parent name hparent hplace, View.write, if_neg hdevice]
      rfl

/-! ### Walking -/

/-- One step of a walk, by what stands where. -/
lemma step_eq (tree : Node) (place : Place) (name : String) :
    tree.step place name =
      match tree.viewAt place with
      | some .directory =>
        if name = "." then .ok place
        else if name = ".." then .ok place.dropLast
        else if Path.maxName < name.utf8ByteSize then .error .nameTooLong
        else if (tree.viewAt (place ++ [name])).isSome then .ok (place ++ [name])
        else .error .notFound
      | some _ => .error .notADirectory
      | none => .error .notFound := by
  rw [step]
  cases hnode : tree.at? place with
  | none => simp only [viewAt, hnode, Option.map_none]
  | some node =>
      cases node with
      | file data => simp only [viewAt, hnode, Option.map_some, view]
      | null => simp only [viewAt, hnode, Option.map_some, view]
      | dir children =>
          have hview : tree.viewAt place = some .directory := viewAt_eq_directory.2 ⟨_, hnode⟩
          simp only [hview, viewAt_concat_of_dir hnode, Option.isSome_map]

/-- One tree has the directories of another one, and something wherever the other has something. -/
structure Extends (tree' tree : Node) : Prop where
  directory : ∀ place, tree.viewAt place = some .directory → tree'.viewAt place = some .directory
  isSome : ∀ place, (tree.viewAt place).isSome → (tree'.viewAt place).isSome

/-- Walks go the same way in a tree that extends another one. -/
lemma Extends.walk {tree' tree : Node} (h : tree'.Extends tree) {place last : Place}
    {names : List String} (hwalk : tree.walk place names = .ok last) :
    tree'.walk place names = .ok last := by
  induction names generalizing place with
  | nil => exact hwalk
  | cons name rest ih =>
      rw [Node.walk] at hwalk ⊢
      cases hstep : tree.step place name with
      | error fault => rw [hstep] at hwalk; cases hwalk
      | ok next =>
          rw [hstep] at hwalk
          have hstep' : tree'.step place name = .ok next := by
            rw [step_eq] at hstep ⊢
            split at hstep
            · next hdir =>
                rw [h.directory place hdir]
                dsimp only
                split_ifs at hstep with hdot hdots hlong hsome
                · rw [if_pos hdot]
                  exact hstep
                · rw [if_neg hdot, if_pos hdots]
                  exact hstep
                · rw [if_neg hdot, if_neg hdots, if_neg hlong, if_pos (h.isSome _ hsome)]
                  exact hstep
            · cases hstep
            · cases hstep
          rw [hstep']
          exact ih hwalk

/-- Writing extends a tree. -/
lemma CanWrite.extends_write {tree : Node} {target : Place} (h : tree.CanWrite target)
    (data : Bytes) : (tree.write target data).Extends tree where
  directory place hdir := by
    rw [viewAt_write h, if_neg]
    · exact hdir
    · rintro rfl
      exact h.not_directory hdir
  isSome place hsome := by
    rw [viewAt_write h]
    split
    · rfl
    · exact hsome

/-! ### Paths to write to -/

/-- What an accepted path to write to is made of: a walk to a directory, and a name in it. -/
lemma resolveNew_eq_ok {tree : Node} {cwd place : Place} {path : String}
    (h : tree.resolveNew cwd path = .ok place) :
    ∃ parent name, place = parent ++ [name] ∧ accept path = .ok () ∧
      (Path.names path).getLast? = some name ∧
      tree.walk (start cwd path) (Path.names path).dropLast = .ok parent ∧
      tree.viewAt parent = some .directory ∧ tree.viewAt place ≠ some .directory ∧
      Path.endsInSlash path = false ∧ name ≠ "." ∧ name ≠ ".." ∧
      name.utf8ByteSize ≤ Path.maxName := by
  rw [resolveNew] at h
  split at h
  · cases h
  · next haccept =>
      split at h
      · cases h
      · next name hname =>
          split at h
          · cases h
          · next parent hwalk =>
              split at h
              · next children hnode =>
                  split_ifs at h with hform hlong
                  simp only [not_or] at hform
                  split at h
                  · cases h
                  · next hchild =>
                      cases h
                      refine ⟨parent, name, rfl, haccept, hname, hwalk,
                        viewAt_eq_directory.2 ⟨_, hnode⟩, ?_, by simpa using hform.1, hform.2.1,
                        hform.2.2, by omega⟩
                      rw [viewAt_concat_of_dir hnode]
                      intro hview
                      obtain ⟨child, hfind, hdir⟩ := Option.map_eq_some_iff.1 hview
                      obtain ⟨grandchildren, rfl⟩ := view_eq_directory.1 hdir
                      exact hchild _ hfind
              · cases h
              · cases h

/-- A path that is accepted for writing leads to a place where a file can be written. -/
lemma canWrite_of_resolveNew {tree : Node} {cwd place : Place} {path : String}
    (h : tree.resolveNew cwd path = .ok place) : tree.CanWrite place := by
  obtain ⟨parent, name, hplace, -, -, -, hparent, hnot, -⟩ := resolveNew_eq_ok h
  exact ⟨⟨parent, name, hplace, hparent⟩, hnot⟩

/-- The last step of a walk. -/
lemma walk_concat {tree : Node} {place middle last : Place} {names : List String} {name : String}
    (hwalk : tree.walk place names = .ok middle) (hstep : tree.step middle name = .ok last) :
    tree.walk place (names ++ [name]) = .ok last := by
  induction names generalizing place with
  | nil =>
      cases hwalk
      rw [List.nil_append, walk, hstep]
      rfl
  | cons n rest ih =>
      rw [walk] at hwalk
      rw [List.cons_append, walk]
      cases hn : tree.step place n with
      | error fault => rw [hn] at hwalk; cases hwalk
      | ok next =>
          rw [hn] at hwalk
          exact ih hwalk

/-- **After a write the path leads to the place that was written.** -/
theorem resolve_write {tree : Node} {cwd place : Place} {path : String} (data : Bytes)
    (h : tree.resolveNew cwd path = .ok place) :
    (tree.write place data).resolve cwd path = .ok place := by
  have hwrite := canWrite_of_resolveNew h
  have hextends := hwrite.extends_write data
  obtain ⟨parent, name, rfl, haccept, hname, hwalk, hparent, -, hslash, hdot, hdots, hlong⟩ :=
    resolveNew_eq_ok h
  have hview : (tree.write (parent ++ [name]) data).viewAt (parent ++ [name]) =
      some (View.write (tree.viewAt (parent ++ [name])) data) := by
    rw [viewAt_write hwrite, if_pos rfl]
  have hstep : (tree.write (parent ++ [name]) data).step parent name = .ok (parent ++ [name]) := by
    rw [step_eq, hextends.directory parent hparent]
    simp [hdot, hdots, hview, hlong]
  have hnames : Path.names path = (Path.names path).dropLast ++ [name] := by
    rw [List.getLast?_eq_some_iff] at hname
    obtain ⟨init, hinit⟩ := hname
    rw [hinit, List.dropLast_concat]
  have hwhole := walk_concat (hextends.walk hwalk) hstep
  rw [← hnames] at hwhole
  rw [resolve, haccept]
  simp only [hwhole, hslash]
  split
  · rfl
  · rfl
  · rfl

/-! ### Loading -/

/-- **A file is loaded from the place its path leads to.** -/
theorem load_eq_ok_iff {tree : Node} {cwd : Place} {path : String} {data : Bytes} :
    tree.load cwd path = .ok data ↔
      ∃ place, tree.resolve cwd path = .ok place ∧
        (tree.viewAt place).bind View.contents? = some data := by
  rw [load]
  cases tree.resolve cwd path with
  | error fault => simp
  | ok place =>
      simp only [Except.ok.injEq, exists_eq_left']
      cases hnode : tree.at? place with
      | none => simp [viewAt, hnode]
      | some node => cases node <;> simp [viewAt, hnode, view, View.contents?]

end BootLayer.Node
