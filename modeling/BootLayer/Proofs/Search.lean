import Mathlib.Data.List.Find
import Mathlib.Data.List.Infix
import BootLayer.CommandLine.Execute
import BootLayer.Proofs.PathText

/-!
The search for a configuration file.

`Chosen` says which file counts: the one in the nearest directory that has one, else the one under
the home directory.  `Loads` says what a file gives.

* `mem_ancestors`, `pairwise_ancestors`: the directories that are searched, the nearest first.
* `chosen_locate`, `Chosen.unique`: the search finds the file that counts, and there is no other.
* `locate_congr`: the search looks at nothing beyond the file that it finds.
* `nearest_config_wins`: all of this for the configuration of a world, with and without an explicit
  path.
-/

namespace BootLayer.Config

/-! ### Directories -/

/-- The directories that are searched are the working directory and those above it. -/
lemma mem_ancestors {dir cwd : Place} : dir ∈ ancestors cwd ↔ dir <+: cwd := by
  induction cwd generalizing dir with
  | nil => simp [ancestors]
  | cons name rest ih =>
      rw [ancestors, List.mem_append, List.mem_map, List.mem_singleton, List.prefix_cons_iff,
        or_comm]
      refine or_congr_right (exists_congr fun place => ?_)
      rw [ih, and_comm, eq_comm]

/-- Each directory comes before those above it. -/
lemma pairwise_ancestors (cwd : Place) :
    (ancestors cwd).Pairwise fun near far => far <+: near := by
  induction cwd with
  | nil => simp [ancestors]
  | cons name rest ih =>
      rw [ancestors, List.pairwise_append]
      refine ⟨?_, List.pairwise_singleton .., ?_⟩
      · refine List.pairwise_map.2 (ih.imp fun h => ?_)
        exact List.cons_prefix_cons.2 ⟨rfl, h⟩
      · rintro near - far hfar
        rw [List.mem_singleton.1 hfar]
        exact List.nil_prefix

/-- The path of the configuration file in a directory. -/
def inDirectory (dir : Place) : String := Path.join (Path.text dir) fileName

/-- The path of the configuration file under a home directory. -/
def underHome (home : String) : String :=
  Path.join (Path.join (Path.join home ".config") "tern") fileName

lemma candidates_eq (cwd : Place) (home : Option String) :
    candidates cwd home = (ancestors cwd).map inDirectory ++ (home.map underHome).toList := rfl

lemma isName_fileName : Path.IsName fileName := by
  constructor <;> decide

/-- A directory has a configuration file exactly if it has an entry of that name, and the path of
the entry is not too long to be looked up. -/
lemma exists?_inDirectory_iff {tree : Node} {dir : Place} (h : ∀ name ∈ dir, Path.IsName name)
    (cwd : Place) :
    tree.exists? cwd (inDirectory dir) = true ↔
      (tree.viewAt (dir ++ [fileName])).isSome ∧
        (inDirectory dir).utf8ByteSize < Path.maxLength := by
  have hnames : ∀ name ∈ dir ++ [fileName], Path.IsName name := by
    intro name hname
    rcases List.mem_append.1 hname with hdir | hlast
    · exact h name hdir
    · rw [List.mem_singleton.1 hlast]
      exact isName_fileName
  rw [inDirectory, Path.join_text h isName_fileName]
  exact Node.exists?_text_iff hnames (by simp) cwd

/-! ### The file that counts -/

/-- A directory is the nearest one that has a configuration file, among the working directory and
those above it. -/
structure Nearest (tree : Node) (cwd dir : Place) : Prop where
  above : dir <+: cwd
  has : tree.exists? cwd (inDirectory dir) = true
  nearest : ∀ other, other <+: cwd → tree.exists? cwd (inDirectory other) = true → other <+: dir

/-- The path of the configuration file that counts, if there is one. -/
inductive Chosen (tree : Node) (cwd : Place) (home : Option String) : Option String → Prop where
  /-- The file in the nearest directory that has one. -/
  | near {dir : Place} (h : Nearest tree cwd dir) : Chosen tree cwd home (some (inDirectory dir))
  /-- Without one, the file under the home directory. -/
  | home {base : String} (hnear : ∀ dir, ¬Nearest tree cwd dir) (hhome : home = some base)
      (h : tree.exists? cwd (underHome base) = true) : Chosen tree cwd home (some (underHome base))
  /-- Without this one too, none. -/
  | none (hnear : ∀ dir, ¬Nearest tree cwd dir)
      (hhome : ∀ base, home = some base → tree.exists? cwd (underHome base) = false) :
      Chosen tree cwd home none

lemma Nearest.unique {tree : Node} {cwd dir other : Place} (h : Nearest tree cwd dir)
    (h' : Nearest tree cwd other) : other = dir := by
  have hle := h.nearest other h'.above h'.has
  have hge := h'.nearest dir h.above h.has
  exact hle.eq_of_length (le_antisymm hle.length_le hge.length_le)

/-- There is one choice at most. -/
lemma Chosen.unique {tree : Node} {cwd : Place} {home chosen other : Option String}
    (h : Chosen tree cwd home chosen) (h' : Chosen tree cwd home other) : other = chosen := by
  cases h with
  | near hnear =>
      cases h' with
      | near hnear' => rw [hnear.unique hnear']
      | home hnone _ _ => exact absurd hnear (hnone _)
      | none hnone _ => exact absurd hnear (hnone _)
  | home hnone hhome hexists =>
      cases h' with
      | near hnear => exact absurd hnear (hnone _)
      | home _ hhome' _ =>
          rw [hhome] at hhome'
          cases hhome'
          rfl
      | none _ hnot =>
          rw [hnot _ hhome] at hexists
          cases hexists
  | none hnone hnot =>
      cases h' with
      | near hnear => exact absurd hnear (hnone _)
      | home _ hhome hexists =>
          rw [hnot _ hhome] at hexists
          cases hexists
      | none _ _ => rfl

/-- The first directory of the search that has a file is the nearest one. -/
lemma nearest_of_find? {tree : Node} {cwd dir : Place}
    (h : (ancestors cwd).find? (fun dir => tree.exists? cwd (inDirectory dir)) = some dir) :
    Nearest tree cwd dir := by
  obtain ⟨hhas, before, after, happend, hbefore⟩ := List.find?_eq_some_iff_append.1 h
  have hpairwise := pairwise_ancestors cwd
  rw [happend, List.pairwise_append, List.pairwise_cons] at hpairwise
  obtain ⟨-, ⟨hafter, -⟩, -⟩ := hpairwise
  refine ⟨mem_ancestors.1 (by simp [happend]), hhas, fun other hother hexists => ?_⟩
  have hmem := mem_ancestors.2 hother
  rw [happend, List.mem_append, List.mem_cons] at hmem
  rcases hmem with hmem | rfl | hmem
  · have hnot := hbefore other hmem
    rw [hexists] at hnot
    cases hnot
  · exact List.prefix_rfl
  · exact hafter other hmem

/-- **The search finds the file that counts.** -/
lemma chosen_locate (tree : Node) (cwd : Place) (home : Option String) :
    Chosen tree cwd home (locate tree cwd home) := by
  rw [locate, candidates_eq, List.find?_append, List.find?_map]
  cases hfind : (ancestors cwd).find? ((fun path => tree.exists? cwd path) ∘ inDirectory) with
  | some dir => exact .near (nearest_of_find? hfind)
  | none =>
      have hnear : ∀ dir, ¬Nearest tree cwd dir := fun dir h => by
        have hnot := List.find?_eq_none.1 hfind dir (mem_ancestors.2 h.above)
        exact hnot h.has
      rw [Option.map_none, Option.none_or]
      cases home with
      | none => exact .none hnear (by simp)
      | some base =>
          cases hexists : tree.exists? cwd (underHome base) with
          | true => simpa [hexists] using Chosen.home hnear rfl hexists
          | false => simpa [hexists] using Chosen.none hnear (by simpa using hexists)

lemma chosen_iff {tree : Node} {cwd : Place} {home chosen : Option String} :
    Chosen tree cwd home chosen ↔ locate tree cwd home = chosen := by
  constructor
  · exact fun h => h.unique (chosen_locate tree cwd home)
  · rintro rfl
    exact chosen_locate tree cwd home

/-- **The search looks at nothing beyond the file that it finds**: two trees that agree on the
existence of the candidates down to that one lead to the same choice. -/
lemma locate_congr {tree tree' : Node} {cwd : Place} {home : Option String}
    {nearer farther : List String} {chosen : String}
    (hcandidates : candidates cwd home = nearer ++ chosen :: farther)
    (hlocate : locate tree cwd home = some chosen)
    (hagree : ∀ path ∈ nearer ++ [chosen], tree'.exists? cwd path = tree.exists? cwd path) :
    locate tree' cwd home = some chosen := by
  have hsplit : ∀ t : Node, locate t cwd home =
      ((nearer ++ [chosen]).find? fun path => t.exists? cwd path).or
        (farther.find? fun path => t.exists? cwd path) := by
    intro t
    rw [locate, hcandidates, ← List.find?_append, List.append_assoc, List.singleton_append]
  have hexists : tree.exists? cwd chosen = true := by
    rw [locate] at hlocate
    exact List.find?_some hlocate
  have hfound : (nearer ++ [chosen]).find? (fun path => tree.exists? cwd path) = some chosen := by
    have hmem : chosen ∈ nearer ++ [chosen] := by simp
    obtain ⟨path, hpath⟩ := Option.isSome_iff_exists.1 (List.find?_isSome.2 ⟨chosen, hmem, hexists⟩)
    rw [hsplit, hpath, Option.some_or] at hlocate
    rw [hpath, hlocate]
  rw [hsplit, List.find?_congr hagree, hfound, Option.some_or]

/-! ### What a file gives -/

/-- What the file at a path gives: its configuration with the path, or a fault with the path if it
cannot be read or is no configuration. -/
inductive Loads (tree : Node) (cwd : Place) (path : String) :
    Except Fault (Option String × Config) → Prop where
  | config {text : String} {config : Config} (hread : tree.read cwd path = .ok text)
      (hparse : parse text = some config) : Loads tree cwd path (.ok (some path, config))
  | unreadable {fault : IoFault} (hread : tree.read cwd path = .error fault) :
      Loads tree cwd path (.error (.unreadable path fault))
  | invalid {text : String} (hread : tree.read cwd path = .ok text) (hparse : parse text = none) :
      Loads tree cwd path (.error (.invalid path text))

lemma loads_loadFrom (tree : Node) (cwd : Place) (path : String) :
    Loads tree cwd path ((loadFrom tree cwd path).map fun config => (some path, config)) := by
  rw [loadFrom]
  cases hread : tree.read cwd path with
  | error fault => exact .unreadable hread
  | ok text =>
      cases hparse : parse text with
      | some config =>
          simp only [hparse]
          exact .config hread hparse
      | none =>
          simp only [hparse]
          exact .invalid hread hparse

/-- Where there is nothing, nothing is read. -/
lemma read_of_not_exists {tree : Node} {cwd : Place} {path : String}
    (h : tree.exists? cwd path = false) : ∃ fault, tree.read cwd path = .error fault := by
  rw [Node.exists?] at h
  rw [Node.read, Node.load]
  split at h
  · cases h
  · next fault hresolve => exact ⟨fault, by rw [hresolve]⟩

/-- What a file gives depends on what is read from it only. -/
lemma loadFrom_congr {tree tree' : Node} {cwd cwd' : Place} {path : String}
    (h : tree'.read cwd' path = tree.read cwd path) :
    loadFrom tree' cwd' path = loadFrom tree cwd path := by
  rw [loadFrom, loadFrom, h]

/-- The message of a fault names the path, whatever the reader of the file says. -/
lemma Loads.message_names_path {tree : Node} {cwd : Place} {path : String} {fault : Fault}
    (h : Loads tree cwd path (.error fault)) (wording : Wording) :
    ∃ before after, fault.message wording = before ++ inTicks path ++ after := by
  cases h with
  | @unreadable io hread =>
      refine ⟨"cannot read ", ": " ++ io.message, ?_⟩
      show "cannot read " ++ inTicks path ++ ": " ++ io.message = _
      rw [String.append_assoc]
  | @invalid text hread hparse =>
      rw [Fault.message]
      cases wording.toml text with
      | some words => exact ⟨"invalid toml in ", ": " ++ words, String.append_assoc ..⟩
      | none => exact ⟨"invalid toml in ", "", String.append_empty.symm⟩

end BootLayer.Config

namespace BootLayer.CommandLine

open Config (Chosen Loads)

/-! ### The configuration of a world -/

/-- What the search for a configuration does in a world. -/
structure SearchesNearest (world : World) : Prop where
  /-- There is one choice, of a file or of none. -/
  one : ∃! chosen, Chosen world.tree world.cwd (world.setting? "HOME") chosen
  /-- The chosen file gives the result, be it a configuration or a fault. -/
  uses : ∀ path, Chosen world.tree world.cwd (world.setting? "HOME") (some path) →
    Loads world.tree world.cwd path (loadConfig world none)
  /-- A fault names the chosen file. -/
  names : ∀ path fault, Chosen world.tree world.cwd (world.setting? "HOME") (some path) →
    loadConfig world none = .error fault →
    ∀ wording, ∃ before after, fault.message wording = before ++ inTicks path ++ after
  /-- Without a file there are the defaults. -/
  defaults : Chosen world.tree world.cwd (world.setting? "HOME") none →
    loadConfig world none = .ok (none, {})
  /-- A directory has a file if it has an entry of that name, with a path that is not too long to be
  looked up. -/
  has_iff : (∀ name ∈ world.cwd, Path.IsName name) → ∀ dir, dir <+: world.cwd →
    (world.tree.exists? world.cwd (Config.inDirectory dir) = true ↔
      (world.tree.viewAt (dir ++ [Config.fileName])).isSome ∧
        (Config.inDirectory dir).utf8ByteSize < Path.maxLength)
  /-- Another tree with the same of the candidates down to the chosen one, and the same text in that
  one, gives the same result, whatever the farther candidates are. -/
  ignores_farther : ∀ tree' nearer path farther,
    Config.candidates world.cwd (world.setting? "HOME") = nearer ++ path :: farther →
    Chosen world.tree world.cwd (world.setting? "HOME") (some path) →
    (∀ candidate ∈ nearer ++ [path],
      tree'.exists? world.cwd candidate = world.tree.exists? world.cwd candidate) →
    tree'.read world.cwd path = world.tree.read world.cwd path →
    loadConfig { world with tree := tree' } none = loadConfig world none
  /-- So does another tree without any of the candidates, if there is none. -/
  ignores_rest : ∀ tree', Chosen world.tree world.cwd (world.setting? "HOME") none →
    (∀ candidate ∈ Config.candidates world.cwd (world.setting? "HOME"),
      tree'.exists? world.cwd candidate = world.tree.exists? world.cwd candidate) →
    loadConfig { world with tree := tree' } none = loadConfig world none

/-- What an explicit path does in a world. -/
structure ConsultsOnly (world : World) (path : String) : Prop where
  /-- The file at the path gives the result, be it a configuration or a fault. -/
  loads : Loads world.tree world.cwd path (loadConfig world (some path))
  /-- Another world with the same text at the path gives the same result. -/
  only : ∀ world' : World, world'.tree.read world'.cwd path = world.tree.read world.cwd path →
    loadConfig world' (some path) = loadConfig world (some path)
  /-- Without a file at the path the result is a fault. -/
  absent : world.tree.exists? world.cwd path = false →
    ∃ fault, loadConfig world (some path) = .error (.unreadable path fault)

lemma loadConfig_explicit (world : World) (path : String) :
    loadConfig world (some path) =
      (Config.loadFrom world.tree world.cwd path).map fun config => (some path, config) := by
  rw [loadConfig, Config.load, Option.some_or]

/-- The search loads the file that it finds. -/
lemma loadConfig_of_locate {world : World} {path : String}
    (h : Config.locate world.tree world.cwd (world.setting? "HOME") = some path) :
    loadConfig world none =
      (Config.loadFrom world.tree world.cwd path).map fun config => (some path, config) := by
  rw [loadConfig, Config.load, Option.none_or, h]

lemma loadConfig_of_not_locate {world : World}
    (h : Config.locate world.tree world.cwd (world.setting? "HOME") = none) :
    loadConfig world none = .ok (none, {}) := by
  rw [loadConfig, Config.load, Option.none_or, h]

/-- **The nearest configuration file wins, and nothing else matters.**  Without an explicit path the
file in the nearest directory that has one gives the result, else the one under the home directory,
else the defaults.  A directory counts as having one only where its path can be looked up: a file
with a path of `Path.maxLength` bytes or more is passed over as if it were missing (`has_iff`).  A
file that is chosen and cannot be read or parsed is a fault that names it, and no other file is
looked at beyond the chosen one.  With an explicit path that file alone is looked at, and its
absence is a fault. -/
theorem nearest_config_wins (world : World) :
    SearchesNearest world ∧ ∀ path, ConsultsOnly world path := by
  have huses : ∀ path, Chosen world.tree world.cwd (world.setting? "HOME") (some path) →
      Loads world.tree world.cwd path (loadConfig world none) := by
    intro path hchosen
    rw [loadConfig_of_locate (Config.chosen_iff.1 hchosen)]
    exact Config.loads_loadFrom world.tree world.cwd path
  refine ⟨?_, fun path => ?_⟩
  · constructor
    case one =>
      have hchosen := Config.chosen_locate world.tree world.cwd (world.setting? "HOME")
      exact ⟨_, hchosen, fun _ hother => hchosen.unique hother⟩
    case uses => exact huses
    case names =>
      intro path fault hchosen hfault
      have hloads := huses path hchosen
      rw [hfault] at hloads
      exact hloads.message_names_path
    case defaults => exact fun hchosen => loadConfig_of_not_locate (Config.chosen_iff.1 hchosen)
    case has_iff =>
      intro hcwd dir hdir
      exact Config.exists?_inDirectory_iff (fun name hname => hcwd name (hdir.subset hname)) _
    case ignores_farther =>
      intro tree' nearer path farther hcandidates hchosen hagree hread
      have hlocate := Config.chosen_iff.1 hchosen
      have hlocate' := Config.locate_congr hcandidates hlocate hagree
      have hload' : loadConfig { world with tree := tree' } none = _ :=
        loadConfig_of_locate hlocate'
      rw [loadConfig_of_locate hlocate, hload']
      exact congrArg _ (Config.loadFrom_congr hread)
    case ignores_rest =>
      intro tree' hchosen hagree
      have hlocate := Config.chosen_iff.1 hchosen
      have hlocate' : Config.locate tree' world.cwd (world.setting? "HOME") = none := by
        rw [Config.locate] at hlocate ⊢
        rw [List.find?_congr hagree, hlocate]
      rw [loadConfig_of_not_locate hlocate]
      exact loadConfig_of_not_locate hlocate'
  · constructor
    case loads =>
      rw [loadConfig_explicit]
      exact Config.loads_loadFrom world.tree world.cwd path
    case only =>
      intro world' hread
      rw [loadConfig_explicit, loadConfig_explicit, Config.loadFrom_congr hread]
    case absent =>
      intro habsent
      obtain ⟨fault, hread⟩ := Config.read_of_not_exists habsent
      refine ⟨fault, ?_⟩
      rw [loadConfig_explicit, Config.loadFrom, hread]
      rfl

/-- A file that is no configuration, above the working directory and below a directory with a good
one: it is the fault, with the good one in place and without it.  An explicit path to nothing is a
fault as well. -/
theorem broken_config_hides_farther_one :
    let good : Bytes := Text.Utf8.encode "[runtime]\nidentity = \"far\"\n"
    let bare : Node :=
      (Node.emptyDir.put ["a", "b"] .emptyDir).put ["a", "tern.toml"] (.file [0x5B])
    let world : World := { tree := bare.put ["tern.toml"] (.file good), cwd := ["a", "b"] }
    Chosen world.tree world.cwd none (some "/a/tern.toml") ∧
    loadConfig world none = .error (.invalid "/a/tern.toml" "[") ∧
    loadConfig { world with tree := bare } none = .error (.invalid "/a/tern.toml" "[") ∧
    loadConfig world (some "/tern.toml") = .ok (some "/tern.toml", { identity := some "far" }) ∧
    ∃ fault, loadConfig world (some "b") = .error (.unreadable "b" fault) := by
  intro good bare world
  obtain ⟨hsearch, hexplicit⟩ := nearest_config_wins world
  have hchosen : Chosen world.tree world.cwd none (some "/a/tern.toml") :=
    Config.chosen_iff.2 (by decide +kernel)
  have hfault : loadConfig world none = .error (.invalid "/a/tern.toml" "[") := by decide +kernel
  have hsame := hsearch.ignores_farther bare ["/a/b/tern.toml"] "/a/tern.toml" ["/tern.toml"]
    (by decide +kernel) hchosen (by decide +kernel) (by decide +kernel)
  exact ⟨hchosen, hfault, hsame.trans hfault, by decide +kernel,
    (hexplicit "b").absent (by decide +kernel)⟩

end BootLayer.CommandLine
