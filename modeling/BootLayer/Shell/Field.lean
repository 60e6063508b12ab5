import BootLayer.Shell.Pattern

/-!
Fields of expanded words.  An expanded word is a list of glyphs: characters that know whether they
were quoted and whether they came from an expansion that is split, and marks for quotations, for the
start of such an expansion and for the gap between two parameters.  `split` cuts it into fields at
the separators.
-/

namespace BootLayer.Shell

/-- A part of an expanded word. -/
inductive Glyph where
  | char (c : Char) (quoted split : Bool)
  /-- Here stands a quotation. -/
  | mark
  /-- Here starts an expansion.  In that of the quoted parameters only gaps separate fields. -/
  | start (parameters : Bool)
  /-- The gap between two parameters. -/
  | gap
  deriving DecidableEq, Repr

namespace Glyph

/-- The character of a glyph. -/
def char? : Glyph → Option Char
  | char c _ _ => some c
  | _ => none

/-- A character of a pattern, or nothing. -/
def symbol? : Glyph → Option Symbol
  | char c quoted _ => some ⟨c, quoted⟩
  | _ => none

/-- The glyph is something that makes a field. -/
def counts : Glyph → Bool
  | char _ _ _ | mark => true
  | _ => false

/-- The glyphs of a text. -/
def ofChars (quoted split : Bool) (cs : List Char) : List Glyph :=
  cs.map fun c => char c quoted split

end Glyph

namespace Field

/-- The separators that there are if none have been chosen. -/
def defaultSeparators : List Char := [' ', '\t', '\n']

/-- What is left of the glyphs while they are split. -/
structure Splitting where
  /-- The complete fields, the last one first. -/
  complete : List (List Glyph) := []
  /-- The glyphs of the field under way, the last one first. -/
  current : List Glyph := []
  /-- The expansion under way is that of the quoted parameters. -/
  inParameters : Bool := false
  /-- The one before was. -/
  afterParameters : Bool := false
  /-- Blank separators that follow are passed over. -/
  skipsBlanks : Bool := false
  /-- One other separator that follows is passed over. -/
  skipsOne : Bool := false

namespace Splitting

/-- The field under way is empty. -/
def isEmpty (state : Splitting) : Bool := state.current.isEmpty

/-- End the field under way. -/
def cut (state : Splitting) : Splitting :=
  { state with complete := state.current.reverse :: state.complete, current := [] }

/-- Stop passing over separators. -/
def steady (state : Splitting) : Splitting :=
  { state with skipsBlanks := false, skipsOne := false }

/-- Meet a separator.  Right after the quoted parameters, blank ones are like all others. -/
def separate (isBlank : Bool) (state : Splitting) : Splitting :=
  let isBlank := isBlank && !state.afterParameters
  if isBlank ∧ state.skipsBlanks then state
  else if ¬isBlank ∧ state.skipsOne then { state with skipsOne := false }
  else if isBlank ∧ state.isEmpty then state.steady
  else { state.cut with skipsBlanks := true, skipsOne := isBlank }

/-- Meet a glyph. -/
def meet (separators : List Char) (state : Splitting) (glyph : Glyph) : Splitting :=
  let keep : Splitting := { state.steady with current := glyph :: state.current }
  match glyph with
  | .start parameters =>
    { state.steady with inParameters := parameters, afterParameters := state.inParameters }
  | .gap => if state.inParameters then state.steady.cut else state.separate true
  | .mark => keep
  | .char c _ split =>
    if split ∧ ¬state.inParameters ∧ separators.contains c then
      state.separate (Field.defaultSeparators.contains c)
    else keep

end Splitting

/-- Cut glyphs into fields.  A field that is empty at the end counts only after the gap between
quoted parameters. -/
def split (separators : List Char) (glyphs : List Glyph) : List (List Glyph) :=
  let state := glyphs.foldl (Splitting.meet separators) {}
  let state :=
    if state.current.any Glyph.counts ∨ state.inParameters then state.cut else state
  state.complete.reverse

/-- Cut a line, whose characters know whether they were escaped, into at most so many fields.  The
last field takes all that is left, except for blank separators at its end, and for one other
separator if nothing else follows it. -/
def splitLine (separators : List Char) : Nat → List (Char × Bool) → List String
  | 0, _ => []
  | count + 1, cs =>
    let separates (c : Char × Bool) : Bool := !c.2 && separators.contains c.1
    let isBlank (c : Char × Bool) : Bool := separates c && defaultSeparators.contains c.1
    let text (cs : List (Char × Bool)) : String := String.ofList (cs.map Prod.fst)
    let cs := cs.dropWhile isBlank
    let field := cs.takeWhile fun c => !separates c
    match cs.drop field.length with
    | [] => [text field]
    | separator :: rest =>
      let rest := rest.dropWhile isBlank
      let rest :=
        match rest with
        | next :: more =>
          if isBlank separator ∧ separates next then more.dropWhile isBlank else rest
        | [] => []
      if count ≠ 0 then text field :: splitLine separators count rest
      else if rest.isEmpty then [text field]
      else [text (cs.reverse.dropWhile isBlank).reverse]

/-- The text of a field after quotes are removed. -/
def text (glyphs : List Glyph) : String := String.ofList (glyphs.filterMap Glyph.char?)

/-- The pattern that a field is. -/
def pattern (glyphs : List Glyph) : List Symbol := glyphs.filterMap Glyph.symbol?

/-- The texts of a field: the paths that it fits, or else itself. -/
def paths (tree : Node) (cwd : Place) (glyphs : List Glyph) : List String :=
  match Pattern.paths tree cwd (pattern glyphs) with
  | [] => [text glyphs]
  | found => found

end Field

end BootLayer.Shell
