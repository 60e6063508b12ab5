import Mathlib.Data.String.Basic
import BootLayer.Proofs.Tree

/-!
The text of a place as a path.

* `join_text`: a name below the text of a place is the text of the place one name further.
* `names_text`: the names in the text of a place are the place.
* `walk_eq_ok_iff`: a walk along proper names ends where they lead, if something stands there.
* `exists?_text_iff`: the text of a place leads to something exactly if something stands at the
  place and the text is not too long to be looked up.
-/

namespace BootLayer

namespace Path

/-- A name that an entry of a directory can have. -/
structure IsName (name : String) : Prop where
  ne_empty : name ≠ ""
  no_slash : '/' ∉ name.toList
  no_nul : '\x00' ∉ name.toList
  ne_dot : name ≠ "."
  ne_dots : name ≠ ".."
  short : name.utf8ByteSize ≤ maxName

lemma toList_text (place : Place) :
    (text place).toList = '/' :: ['/'].intercalate (place.map String.toList) := by
  rw [text, String.toList_append, String.toList_intercalate]
  rfl

lemma IsName.isAbsolute {name : String} (h : IsName name) : isAbsolute name = false := by
  have hhead : name.toList.head? ≠ some '/' := fun hslash =>
    h.no_slash (List.mem_of_mem_head? hslash)
  rw [Path.isAbsolute, beq_eq_false_iff_ne]
  exact hhead

/-- The names in the text of a place are the place. -/
lemma names_text {place : Place} (h : ∀ name ∈ place, IsName name) :
    names (text place) = place := by
  have hnonempty : place.filter (· ≠ "") = place := by
    refine List.filter_eq_self.2 fun name hname => ?_
    simpa using (h name hname).ne_empty
  have hsplit : ∀ cs : List Char, List.splitOnP (fun c => decide (c = '/')) ('/' :: cs) =
      [] :: List.splitOn '/' cs := by
    intro cs
    rw [List.splitOnP_cons_eq_if_modifyHead, if_pos (by decide)]
    rfl
  rw [names, parts, String.splitToList_of_valid, toList_text, hsplit]
  cases place with
  | nil => decide
  | cons first rest =>
      have hslash : ∀ cs ∈ (first :: rest).map String.toList, '/' ∉ cs := by
        intro cs hcs
        obtain ⟨name, hname, rfl⟩ := List.mem_map.1 hcs
        exact (h name hname).no_slash
      rw [List.splitOn_intercalate '/' hslash (by simp), List.map_cons, List.map_map]
      simpa [Function.comp_def] using hnonempty

/-- The text of a place with one more name. -/
lemma text_concat {place : Place} (hplace : place ≠ []) (name : String) :
    text (place ++ [name]) = text place ++ "/" ++ name := by
  have hlist : ['/'].intercalate ((place ++ [name]).map String.toList) =
      ['/'].intercalate (place.map String.toList) ++ '/' :: name.toList := by
    induction place with
    | nil => exact absurd rfl hplace
    | cons first rest ih =>
        cases rest with
        | nil => simp
        | cons next rest =>
            have htail := ih (by simp)
            simp only [List.cons_append, List.map_cons, List.intercalate_cons_cons] at htail ⊢
            rw [htail]
            simp
  refine String.toList_inj.1 ?_
  rw [String.toList_append, String.toList_append, toList_text, toList_text, hlist]
  simp

lemma text_singleton (name : String) : text [name] = "/" ++ name := by
  refine String.toList_inj.1 ?_
  rw [toList_text, String.toList_append]
  simp

/-- The text of a place with names in it ends in the last of them. -/
lemma exists_text_eq {place : Place} (h : place ≠ []) :
    ∃ base, ∃ name ∈ place, text place = base ++ name := by
  obtain ⟨init, name, rfl⟩ : ∃ init name, place = init ++ [name] :=
    ⟨_, _, (List.dropLast_append_getLast h).symm⟩
  by_cases hinit : init = []
  · subst hinit
    exact ⟨"/", name, by simp, text_singleton name⟩
  · exact ⟨text init ++ "/", name, by simp, text_concat hinit name⟩

lemma endsInSlash_text {place : Place} (h : ∀ name ∈ place, IsName name) (hplace : place ≠ []) :
    endsInSlash (text place) = false := by
  obtain ⟨base, name, hname, htext⟩ := exists_text_eq hplace
  have hne : name.toList ≠ [] :=
    fun hnil => (h name hname).ne_empty (String.toList_eq_nil_iff.1 hnil)
  rw [endsInSlash, beq_eq_false_iff_ne, htext, String.toList_append,
    List.getLast?_append_of_ne_nil _ hne]
  exact fun hlast => (h name hname).no_slash (List.mem_of_mem_getLast? hlast)

lemma isAbsolute_text (place : Place) : isAbsolute (text place) = true := by
  rw [isAbsolute, toList_text]
  rfl

lemma text_ne_empty (place : Place) : text place ≠ "" := by
  intro h
  have hlist := toList_text place
  rw [h] at hlist
  cases hlist

/-- A name below the text of a place is the text of the place one name further. -/
lemma join_text {place : Place} (h : ∀ name ∈ place, IsName name) {name : String}
    (hname : IsName name) : join (text place) name = text (place ++ [name]) := by
  rw [join, hname.isAbsolute, if_neg Bool.false_ne_true]
  by_cases hplace : place = []
  · subst hplace
    rw [List.nil_append, text_singleton]
    rfl
  · rw [text_concat hplace, if_neg]
    rw [endsInSlash_text h hplace]
    simpa using text_ne_empty place

lemma mem_intercalate {c : Char} {place : Place}
    (h : c ∈ ['/'].intercalate (place.map String.toList)) :
    c = '/' ∨ ∃ name ∈ place, c ∈ name.toList := by
  induction place with
  | nil => simp at h
  | cons first rest ih =>
      cases rest with
      | nil => exact .inr ⟨first, by simp, by simpa using h⟩
      | cons next rest =>
          rw [List.map_cons, List.map_cons, List.intercalate_cons_cons] at h
          rcases List.mem_append.1 h with hfirst | hrest
          · rcases List.mem_append.1 hfirst with hc | hc
            · exact .inr ⟨first, by simp, hc⟩
            · exact .inl (List.mem_singleton.1 hc)
          · refine (ih hrest).imp_right ?_
            rintro ⟨name, hname, hc⟩
            exact ⟨name, List.mem_cons_of_mem first hname, hc⟩

lemma no_nul_text {place : Place} (h : ∀ name ∈ place, IsName name) :
    '\x00' ∉ (text place).toList := by
  rw [toList_text]
  intro hmem
  rcases List.mem_cons.1 hmem with heq | hrest
  · cases heq
  · rcases mem_intercalate hrest with heq | ⟨name, hname, hc⟩
    · cases heq
    · exact (h name hname).no_nul hc

end Path

namespace Node

/-! ### Walks along names -/

lemma at?_append (tree : Node) (place more : Place) :
    tree.at? (place ++ more) = (tree.at? place).bind fun node => node.at? more := by
  induction place generalizing tree with
  | nil => rfl
  | cons name rest ih =>
      rw [List.cons_append, at?, at?, Option.bind_assoc]
      congr 1
      funext child
      exact ih child

/-- What stands above something is a directory that has it. -/
lemma viewAt_above {tree : Node} {place : Place} {name : String} {rest : Place}
    (h : (tree.viewAt (place ++ name :: rest)).isSome) :
    tree.viewAt place = some .directory ∧ (tree.viewAt (place ++ [name])).isSome := by
  rw [viewAt, Option.isSome_map, at?_append] at h
  cases hnode : tree.at? place with
  | none =>
      rw [hnode] at h
      cases h
  | some node =>
      rw [hnode, Option.bind_some, at?] at h
      cases node with
      | file data => cases h
      | null => cases h
      | dir children =>
          refine ⟨viewAt_eq_directory.2 ⟨children, hnode⟩, ?_⟩
          rw [viewAt_concat_of_dir hnode, Option.isSome_map]
          cases hchild : children.find? name with
          | none =>
              rw [child?, hchild] at h
              cases h
          | some child => rfl

/-- A walk along proper names ends where they lead, if something stands there. -/
lemma walk_eq_ok_iff {tree : Node} {place last : Place} {names : List String}
    (hnames : ∀ name ∈ names, Path.IsName name) (hplace : (tree.viewAt place).isSome) :
    tree.walk place names = .ok last ↔
      last = place ++ names ∧ (tree.viewAt (place ++ names)).isSome := by
  induction names generalizing place with
  | nil => simp [walk, hplace, eq_comm]
  | cons name rest ih =>
      obtain ⟨hname, hrest⟩ := List.forall_mem_cons.1 hnames
      rw [walk]
      by_cases hnext : tree.viewAt place = some .directory ∧ (tree.viewAt (place ++ [name])).isSome
      · have hstep : tree.step place name = .ok (place ++ [name]) := by
          rw [step_eq, hnext.1]
          simp [hname.ne_dot, hname.ne_dots, hname.short, hnext.2]
        rw [hstep]
        simpa using ih hrest hnext.2
      · have hstep : ∃ fault, tree.step place name = .error fault := by
          rw [step_eq]
          split
          · next hdir =>
              rw [if_neg hname.ne_dot, if_neg hname.ne_dots, if_neg (Nat.not_lt.2 hname.short),
                if_neg fun hsome => hnext ⟨hdir, hsome⟩]
              exact ⟨_, rfl⟩
          · exact ⟨_, rfl⟩
          · exact ⟨_, rfl⟩
        obtain ⟨fault, hfault⟩ := hstep
        rw [hfault]
        refine iff_of_false (by simp) ?_
        rintro ⟨-, hsome⟩
        exact hnext (viewAt_above hsome)

lemma accept_eq_ok_iff {path : String} (hnul : '\x00' ∉ path.toList) (hempty : path ≠ "") :
    accept path = .ok () ↔ path.utf8ByteSize < Path.maxLength := by
  rw [accept, if_neg (by simpa using hnul), if_neg hempty]
  split <;> simp <;> omega

/-- There is something at a path exactly if the path leads somewhere. -/
lemma exists?_iff {tree : Node} {cwd : Place} {path : String} :
    tree.exists? cwd path = true ↔ ∃ place, tree.resolve cwd path = .ok place := by
  rw [exists?]
  cases tree.resolve cwd path <;> simp

/-- The text of a place leads to the place, if something stands there and the text is not too long
to be looked up. -/
lemma resolve_text_eq_ok_iff {tree : Node} {place last : Place}
    (h : ∀ name ∈ place, Path.IsName name) (hplace : place ≠ []) (cwd : Place) :
    tree.resolve cwd (Path.text place) = .ok last ↔
      last = place ∧ (tree.viewAt place).isSome ∧
        (Path.text place).utf8ByteSize < Path.maxLength := by
  have haccept := accept_eq_ok_iff (Path.no_nul_text h) (Path.text_ne_empty place)
  have hwalk : ∀ last,
      tree.walk [] place = .ok last ↔ last = place ∧ (tree.viewAt place).isSome := by
    intro last
    simpa using @walk_eq_ok_iff tree [] last place h rfl
  rw [resolve, start, Path.isAbsolute_text, if_pos rfl, Path.names_text h,
    Path.endsInSlash_text h hplace]
  cases hresult : accept (Path.text place) with
  | error fault =>
      rw [hresult] at haccept
      simp [← haccept]
  | ok u =>
      rw [hresult] at haccept
      have hshort := haccept.1 rfl
      cases hend : tree.walk [] place with
      | error fault =>
          have hnot : ¬(tree.viewAt place).isSome := fun hsome => by
            have := (hwalk place).2 ⟨rfl, hsome⟩
            rw [hend] at this
            cases this
          simp [hnot]
      | ok final =>
          obtain ⟨rfl, hsome⟩ := (hwalk final).1 hend
          simp only [hsome, hshort, and_true]
          split <;> simp [eq_comm]

/-- **The text of a place leads to something** exactly if something stands at the place and the text
is not too long to be looked up. -/
lemma exists?_text_iff {tree : Node} {place : Place} (h : ∀ name ∈ place, Path.IsName name)
    (hplace : place ≠ []) (cwd : Place) :
    tree.exists? cwd (Path.text place) = true ↔
      (tree.viewAt place).isSome ∧ (Path.text place).utf8ByteSize < Path.maxLength := by
  simp [exists?_iff, resolve_text_eq_ok_iff h hplace]

end Node

end BootLayer
