import BootLayer.FileTree
import BootLayer.Shell.Name

/-!
Patterns of the shell.  A pattern is read into items once (`Pattern.read`) and fitted to texts
afterwards (`Pattern.fits`).  `Pattern.paths` gives the paths of a file tree that a pattern fits,
name by name.
-/

namespace BootLayer.Shell

/-- A character of a pattern; a literal one stands for itself only. -/
structure Symbol where
  char : Char
  literal : Bool
  deriving DecidableEq, Repr

namespace Pattern

/-- The character is the one given, and has its special meaning. -/
def isBare (symbol : Symbol) (c : Char) : Bool := !symbol.literal && symbol.char == c

/-- The characters between two, these included. -/
def isBetween (first last c : Char) : Bool := first ≤ c && c ≤ last

/-- A printable character other than the blank. -/
def isGraphic (c : Char) : Bool := isBetween '!' '~' c

/-- The named classes of characters. -/
def classes : List (String × (Char → Bool)) :=
  [("alnum", Char.isAlphanum), ("alpha", Char.isAlpha),
    ("blank", fun c => c == ' ' || c == '\t'),
    ("cntrl", fun c => c.toNat < 32 || c.toNat == 127), ("digit", Char.isDigit),
    ("graph", isGraphic), ("lower", Char.isLower), ("print", fun c => isGraphic c || c == ' '),
    ("punct", fun c => isGraphic c && !c.isAlphanum), ("space", isSpace), ("upper", Char.isUpper),
    ("xdigit", fun c => c.isDigit || isBetween 'a' 'f' c || isBetween 'A' 'F' c)]

/-- A member of a bracketed set. -/
inductive Member where
  | range (first last : Char)
  | named (name : String)
  deriving DecidableEq, Repr

/-- The member covers a character. -/
def Member.covers : Member → Char → Bool
  | range first last, c => isBetween first last c
  | named name, c => (classes.lookup name).any fun holds => holds c

/-- What a part of a pattern stands for. -/
inductive Item where
  | one (c : Char)
  | any
  | many
  | oneOf (negated : Bool) (members : List Member)
  deriving DecidableEq, Repr

/-- The named class at the front of what follows a bracket in a set, and the rest. -/
def className? (symbols : List Symbol) : Option (String × List Symbol) :=
  classes.findSome? fun (name, _) =>
    let text := (":" ++ name ++ ":]").toList
    if symbols.take text.length = text.map (⟨·, false⟩) then
      some (name, symbols.drop text.length)
    else none

/-- The members of a set up to its closing bracket, and the rest; a bracket at the very start is a
member.  There are none if the bracket is missing.  The fuel counts characters. -/
def members : Nat → Bool → List Symbol → Option (List Member × List Symbol)
  | 0, _, _ => none
  | _, _, [] => none
  | fuel + 1, isFirst, s :: rest =>
    if isBare s ']' ∧ ¬isFirst then some ([], rest)
    else
      match (if isBare s '[' then className? rest else none) with
      | some (name, rest) =>
        (members fuel false rest).map fun (ms, rest) => (.named name :: ms, rest)
      | none =>
        let (c, rest) :=
          match isBare s '\\', rest with
          | true, next :: rest => (next.char, rest)
          | _, rest => (s.char, rest)
        match rest with
        | dash :: last :: rest' =>
          if isBare dash '-' ∧ ¬isBare last ']' then
            let (last, rest') :=
              match isBare last '\\', rest' with
              | true, next :: rest' => (next.char, rest')
              | _, rest' => (last.char, rest')
            (members fuel false rest').map fun (ms, rest) => (.range c last :: ms, rest)
          else (members fuel false rest).map fun (ms, rest) => (.range c c :: ms, rest)
        | rest => (members fuel false rest).map fun (ms, rest) => (.range c c :: ms, rest)

/-- The items of a pattern.  The fuel counts characters. -/
def readWith : Nat → List Symbol → List Item
  | 0, _ => []
  | _, [] => []
  | fuel + 1, s :: rest =>
    if s.literal then .one s.char :: readWith fuel rest
    else
      match s.char with
      | '*' => .many :: readWith fuel rest
      | '?' => .any :: readWith fuel rest
      | '\\' =>
        match rest with
        | next :: rest => .one next.char :: readWith fuel rest
        | [] => [.one '\\']
      | '[' =>
        let (negated, inside) :=
          match rest with
          | mark :: inside => if isBare mark '!' then (true, inside) else (false, rest)
          | [] => (false, [])
        match members (inside.length + 1) true inside with
        | some (ms, rest) => .oneOf negated ms :: readWith fuel rest
        | none => .one '[' :: readWith fuel rest
      | c => .one c :: readWith fuel rest

/-- The items of a pattern. -/
def read (symbols : List Symbol) : List Item := readWith symbols.length symbols

/-- The item fits a character. -/
def Item.fitsChar : Item → Char → Bool
  | one x, c => x == c
  | any, _ => true
  | many, _ => false
  | oneOf negated ms, c => (ms.any fun m => m.covers c) != negated

/-- The ends of a text, from the whole text on. -/
def suffixes : List Char → List (List Char)
  | [] => [[]]
  | c :: rest => (c :: rest) :: suffixes rest

/-- The pattern fits a whole text. -/
def fits : List Item → List Char → Bool
  | [], cs => cs.isEmpty
  | .many :: items, cs => (suffixes cs).any (fits items)
  | item :: items, c :: cs => item.fitsChar c && fits items cs
  | _ :: _, [] => false

/-- Cut off the shortest or the longest end, or start, of a text that a pattern fits. -/
def trim (items : List Item) (atEnd longest : Bool) (cs : List Char) : List Char :=
  let lengths := List.range (cs.length + 1)
  let lengths := if longest then lengths.reverse else lengths
  if atEnd then
    match lengths.find? fun n => fits items (cs.drop (cs.length - n)) with
    | some n => cs.take (cs.length - n)
    | none => cs
  else
    match lengths.find? fun n => fits items (cs.take n) with
    | some n => cs.drop n
    | none => cs

/-! ### Paths -/

/-- Something in the pattern stands for more than itself. -/
def isWild (symbols : List Symbol) : Bool :=
  (read symbols).any fun item =>
    match item with
    | .one _ => false
    | _ => true

/-- The text that a pattern without wild parts stands for. -/
def plainText (symbols : List Symbol) : List Char :=
  (read symbols).filterMap fun item =>
    match item with
    | .one c => some c
    | _ => none

/-- The first name of a pattern, and the slashes and the pattern that follow it. -/
def splitName : List Symbol → List Symbol × List Char × List Symbol
  | [] => ([], [], [])
  | s :: rest =>
    if s.char = '/' then
      ([], '/' :: (rest.takeWhile (·.char = '/')).map Symbol.char, rest.dropWhile (·.char = '/'))
    else
      let (name, slashes, rest) := splitName rest
      -- a backslash in front of a slash says nothing
      if isBare s '\\' ∧ name = [] ∧ slashes ≠ [] then ([], slashes, rest)
      else (s :: name, slashes, rest)

/-- The names in a directory that a pattern fits.  A name that starts with a dot is fitted only by a
pattern that does. -/
def namesIn (tree : Node) (cwd : Place) (directory : List Char) (symbols : List Symbol) :
    List (List Char) :=
  let path := if directory.isEmpty then "." else toText (String.ofList directory)
  match tree.resolve cwd path with
  | .error _ => []
  | .ok place =>
    match tree.at? place with
    | some (.dir children) =>
      let items := read symbols
      let names := ["."] ++ [".."] ++ children.keys.map ofText
      let takesDot := items.head? == some (.one '.')
      (names.map String.toList).filter fun name =>
        (takesDot || name.head? != some '.') && fits items name
    | _ => []

/-- The paths that start as given and go on as a pattern says.  The fuel counts names. -/
def pathsFrom (tree : Node) (cwd : Place) : Nat → List Char → List Symbol → List (List Char)
  | 0, _, _ => []
  | fuel + 1, start, symbols =>
    if symbols.isEmpty then
      if tree.exists? cwd (toText (String.ofList start)) then [start] else []
    else
      let (name, slashes, rest) := splitName symbols
      let nexts :=
        if isWild name then namesIn tree cwd start name else [plainText name]
      nexts.flatMap fun next => pathsFrom tree cwd fuel (start ++ next ++ slashes) rest

/-- The paths of a tree that a pattern fits, in order; none for a pattern without wild parts. -/
def paths (tree : Node) (cwd : Place) (symbols : List Symbol) : List String :=
  if isWild symbols then
    let found := pathsFrom tree cwd (symbols.length + 1) [] symbols
    (found.map String.ofList).mergeSort fun a b => !(b < a)
  else []

end Pattern

end BootLayer.Shell
