import BootLayer.Shell.Utility.Stream

/-!
Utilities that list, make, copy, move and remove files, and that take paths apart.
-/

namespace BootLayer.Shell.Utility

open Run

/-! ### Paths -/

/-- The path without slashes at its end; a path of slashes only is one slash. -/
def withoutSlashes (path : String) : String :=
  let cs := (path.toList.reverse.dropWhile (· = '/')).reverse
  if cs.isEmpty ∧ path ≠ "" then "/" else String.ofList cs

/-- The last name of a path. -/
def lastName (path : String) : String :=
  let path := withoutSlashes path
  if path = "/" then "/"
  else String.ofList (path.toList.reverse.takeWhile (· ≠ '/')).reverse

/-- The path of the directory that a path is in. -/
def parentPath (path : String) : String :=
  let path := withoutSlashes path
  if path = "/" then "/"
  else
    let start := (path.toList.reverse.dropWhile (· ≠ '/')).reverse
    if start.isEmpty then "." else withoutSlashes (String.ofList start)

/-- Write the last names of paths. -/
def basename : Utility :=
  let known : Known :=
    { plain := "az", valued := "s", long := [("multiple", 'a'), ("suffix", 's')], mixed := false }
  withOptions known 1 fun given => do
    let strip (suffix path : String) : String :=
      let name := lastName path
      if suffix ≠ "" ∧ name.endsWith suffix ∧ name ≠ suffix then
        String.ofList (name.toList.take (name.length - suffix.length))
      else name
    if given.operands.isEmpty then missingOperand 1
    else if given.has 'a' ∨ given.has 's' then
      for path in given.operands do writeLine (strip ((given.value? 's').getD "") path)
      return 0
    else
      match given.operands with
      | [path] => writeLine (strip "" path)
      | [path, suffix] => writeLine (strip suffix path)
      | _ =>
        misused ("extra operand " ++ quoteWord (given.operands[2]?.getD ""))
        return 1
      return 0

/-- Write the directories that paths are in. -/
def dirname : Utility :=
  withOptions { plain := "z" } 1 fun given => do
    if given.operands.isEmpty then missingOperand 1
    else
      for path in given.operands do writeLine (parentPath path)
      return 0

/-- The text of the place that a path leads to; its last name need not be there. -/
def realPath (path : String) (mustExist : Bool) : Run (Except IoFault String) := do
  match ← resolve path with
  | .ok place => return .ok (Builtin.placeText place)
  | .error fault =>
    if mustExist ∨ path = "" then return .error fault
    match ← resolve (parentPath path) with
    | .ok place =>
      if ((← tree).at? place).any Node.isDir then
        return .ok (Builtin.placeText (place ++ [toText (lastName path)]))
      else return .error .notADirectory
    | .error fault => return .error fault

/-- Write the places that paths lead to. -/
def realpath : Utility :=
  withOptions { plain := "emqsLPz" } 1 fun given => do
    if given.operands.isEmpty then missingOperand 1
    else
      let mut status := 0
      for path in given.operands do
        match ← realPath path (given.has 'e') with
        | .ok text => writeLine text
        | .error fault =>
          if !given.has 'q' then report (quoteIfNeeded path ++ ": " ++ reason fault)
          status := 1
      return status

/-- Write the places that paths lead to; without being asked to follow them, there are no links. -/
def readlink : Utility :=
  withOptions { plain := "femnqsvz" } 1 fun given => do
    if given.operands.isEmpty then missingOperand 1
    else
      let mut status := 0
      for path in given.operands do
        if given.has 'f' ∨ given.has 'e' ∨ given.has 'm' then
          match ← realPath path (given.has 'e') with
          | .ok text => if given.has 'n' then write text else writeLine text
          | .error _ => status := 1
        else status := 1
      return status

/-! ### Listing -/

/-- The options of a listing. -/
structure Listing where
  showsAll : Bool
  showsHidden : Bool
  classifies : Bool
  slashes : Bool
  recursive : Bool
  reversed : Bool
  bySize : Bool

/-- The lines for the names in a directory. -/
def Listing.lines (listing : Listing) (children : List (String × Node)) : List String :=
  let isShown (name : String) : Bool :=
    listing.showsAll || listing.showsHidden || !name.startsWith "."
  let kept := children.filter fun (name, _) => isShown name
  let size (node : Node) : Nat :=
    match node with
    | .file data => data.length
    | _ => 4096
  let kept :=
    if listing.bySize then kept.mergeSort fun a b => size b.2 ≤ size a.2 else kept
  let kept :=
    (if listing.showsAll then [(".", Node.emptyDir), ("..", Node.emptyDir)] else []) ++ kept
  let kept := if listing.reversed then kept.reverse else kept
  kept.map fun (name, node) =>
    ofText name ++ (if (listing.classifies || listing.slashes) && node.isDir then "/" else "")

/-- The listings of a directory and, if asked for, of those in it.  The fuel counts levels. -/
def Listing.directory (listing : Listing) : Nat → Bool → String → Node → List String
  | 0, _, _, _ => []
  | fuel + 1, titled, path, node =>
    match node with
    | .dir children =>
      let own := listing.lines children.toList
      let title := if titled then [path ++ ":"] else []
      let inner :=
        if listing.recursive then
          let shown := children.toList.filter fun (name, child) =>
            child.isDir && (listing.showsAll || listing.showsHidden || !name.startsWith ".")
          let shown := if listing.reversed then shown.reverse else shown
          shown.flatMap fun (name, child) =>
            "" :: listing.directory fuel true (Path.join path (ofText name)) child
        else []
      title ++ own ++ inner
    | _ => []

/-- Write the names in directories. -/
def ls : Utility :=
  let known : Known :=
    { plain := "1aAcCdfFghiklmnopqQrRsStuUvxXZ"
      long := [("all", 'a'), ("almost-all", 'A'), ("directory", 'd'), ("recursive", 'R'),
        ("reverse", 'r'), ("classify", 'F')] }
  withOptions known 2 fun given => do
    let listing : Listing :=
      { showsAll := given.has 'a', showsHidden := given.has 'A', classifies := given.has 'F',
        slashes := given.has 'p', recursive := given.has 'R', reversed := given.has 'r',
        bySize := given.has 'S' }
    let names := if given.operands.isEmpty then ["."] else given.operands
    let inOrder (a b : String) : Bool := if listing.reversed then !(a < b) else !(b < a)
    let mut status := 0
    let mut files : List String := []
    let mut directories : List (String × Node) := []
    for name in names do
      match ← resolve name, ← node? name with
      | .ok _, some node =>
        if node.isDir ∧ ¬given.has 'd' then directories := directories ++ [(name, node)]
        else
          let mark := if (listing.classifies || listing.slashes) && node.isDir then "/" else ""
          files := files ++ [name ++ mark]
      | .error fault, _ =>
        report ("cannot access " ++ quote name ++ ": " ++ reason fault)
        status := 2
      | .ok _, none =>
        report ("cannot access " ++ quote name ++ ": " ++ reason .notFound)
        status := 2
    let titled := 1 < names.length || listing.recursive
    files := files.mergeSort inOrder
    directories := directories.mergeSort fun a b => inOrder a.1 b.1
    let sections := (if files.isEmpty then [] else [files]) ++
      directories.map fun (name, node) => listing.directory 1000 titled name node
    for line in ([""] : List String).intercalate sections do writeLine line
    return if (← process).lostOutput then 2 else status

/-! ### Making -/

/-- Do something for each path; what is wrong is told after the name of the utility. -/
def forEach (paths : List String) (treat : String → Run (Option String)) : Run Nat := do
  let mut status := 0
  for path in paths do
    if let some text ← treat path then
      report text
      status := 1
  return status

/-- The place of something new at a path, or what is wrong with it. -/
def newPlace (path : String) : Run (Except String Place) := do
  if (← node? path).isSome then return .error "File exists"
  let bare := withoutSlashes path
  return ((← tree).resolveNew (← process).cwd (toText bare)).mapError reason

/-- Make a directory. -/
def makeDirectory (path : String) : Run (Option String) := do
  match ← newPlace path with
  | .ok place =>
    setTree ((← tree).put place .emptyDir)
    return none
  | .error text => return some ("cannot create directory " ++ quote path ++ ": " ++ text)

/-- The paths that lead to a path, from the shortest on. -/
def pathsTo (path : String) : List String :=
  let start := if path.startsWith "/" then "/" else ""
  let names := Path.names path
  (List.range names.length).map fun i => start ++ "/".intercalate (names.take (i + 1))

/-- Make directories. -/
def mkdir : Utility :=
  let known : Known :=
    { plain := "pvZ", valued := "m", long := [("parents", 'p'), ("verbose", 'v'), ("mode", 'm')] }
  withOptions known 1 fun given => do
    if given.operands.isEmpty then missingOperand 1
    else
      let said (path : String) : Run Unit := do
        if given.has 'v' then announce ("created directory " ++ quote path)
      forEach given.operands fun path => do
        if given.has 'p' then
          for step in pathsTo path do
            if !((← node? step).any Node.isDir) then
              match ← newPlace step with
              | .ok place =>
                setTree ((← tree).put place .emptyDir)
                said step
              | .error text =>
                let isLast := Path.names step = Path.names path
                let text := if text = "File exists" ∧ ¬isLast then "Not a directory" else text
                return some ("cannot create directory " ++ quote step ++ ": " ++ text)
          return none
        else
          let problem ← makeDirectory path
          if problem.isNone then said path
          return problem

/-- Make files that are not there. -/
def touch : Utility :=
  let known : Known :=
    { plain := "acfhm", valued := "drt"
      long := [("no-create", 'c'), ("date", 'd'), ("reference", 'r')] }
  withOptions known 1 fun given => do
    if given.operands.isEmpty then
      misused "missing file operand"
      return 1
    forEach given.operands fun path => do
      if (← node? path).isSome ∨ given.has 'c' then return none
      match (← tree).save (← process).cwd (toText path) [] with
      | .ok tree =>
        setTree tree
        return none
      | .error fault => return some ("cannot touch " ++ quote path ++ ": " ++ reason fault)

/-! ### Removing -/

/-- Remove what is at a place. -/
def removeAt (place : Place) : Run Unit := do
  setTree ((← tree).remove place)
  modify fun s =>
    { s with
      world := { s.world with
        runnable := s.world.runnable.filter fun other => !place.isPrefixOf other } }

/-- Remove an empty directory. -/
def removeDirectory (path : String) : Run (Option String) := do
  let failed (text : String) : Option String :=
    some ("failed to remove " ++ quote path ++ ": " ++ text)
  if lastName path = "." then return failed "Invalid argument"
  match ← resolve path with
  | .error fault => return failed (reason fault)
  | .ok place =>
    match (← tree).at? place with
    | some (.dir children) =>
      if children.size = 0 then
        removeAt place
        return none
      else return failed "Directory not empty"
    | _ => return failed "Not a directory"

/-- Remove empty directories. -/
def rmdir : Utility :=
  let known : Known :=
    { plain := "pvI", long := [("parents", 'p'), ("verbose", 'v'),
      ("ignore-fail-on-non-empty", 'I')] }
  withOptions known 1 fun given => do
    if given.operands.isEmpty then missingOperand 1
    else
      forEach given.operands fun path => do
        let paths := if given.has 'p' then (pathsTo path).reverse else [path]
        for step in paths do
          if given.has 'v' then announce ("removing directory, " ++ quote step)
          if let some problem ← removeDirectory step then return some problem
        return none

/-- What is below a path and the path itself, in the order in which it is removed.  The fuel counts
levels. -/
def removalOrder : Nat → String → Node → List String
  | 0, _, _ => []
  | fuel + 1, path, node =>
    match node with
    | .dir children =>
      (children.toList.flatMap fun (name, child) =>
        removalOrder fuel (Path.join path (ofText name)) child) ++ ["directory " ++ quote path]
    | _ => [quote path]

/-- Remove files and directories. -/
def rm : Utility :=
  let known : Known :=
    { plain := "dfiIrRv"
      long := [("force", 'f'), ("recursive", 'r'), ("dir", 'd'), ("verbose", 'v'),
        ("preserve-root", 'P'), ("no-preserve-root", 'N')] }
  withOptions known 1 fun given => do
    if given.operands.isEmpty then
      if given.has 'f' then return 0
      return ← missingOperand 1
    let recursive := given.has 'r' || given.has 'R'
    forEach given.operands fun path => do
      let failed (text : String) : Option String :=
        some ("cannot remove " ++ quote path ++ ": " ++ text)
      match ← resolve path with
      | .error fault =>
        let isMissing := fault == .notFound || fault == .notADirectory
        return if given.has 'f' && isMissing then none else failed (reason fault)
      | .ok place =>
        match (← tree).at? place with
        | some (.dir children) =>
          if ¬recursive ∧ ¬given.has 'd' then return failed "Is a directory"
          else if lastName path = "." ∨ lastName path = ".." then
            return some ("refusing to remove '.' or '..' directory: skipping " ++ quote path)
          else if ¬recursive ∧ children.size ≠ 0 then return failed "Directory not empty"
          else if place.isEmpty then
            report "it is dangerous to operate recursively on '/'"
            return some "use --no-preserve-root to override this failsafe"
          else
            if given.has 'v' then
              for inner in removalOrder 1000 path (.dir children) do writeLine ("removed " ++ inner)
            removeAt place
            return none
        | some _ =>
          removeAt place
          if given.has 'v' then writeLine ("removed " ++ quote path)
          return none
        | none => return none

/-! ### Copying and moving -/

/-- The target of a copy or a move: in a directory it keeps its last name. -/
def targetFor (source target : String) (isWhole : Bool) : Run String := do
  if ¬isWhole ∧ (← node? target).any Node.isDir then
    return Path.join target (lastName source)
  else return target

/-- Files under one place that can be run can be run under another as well. -/
def shareRunnable (source target : Place) : Run Unit := do
  modify fun s =>
    let moved := (s.world.runnable.filter fun place => source.isPrefixOf place).map fun place =>
      target ++ place.drop source.length
    { s with world := { s.world with runnable := s.world.runnable ++ moved } }

/-- A directory with what another one holds added to it. -/
def mergeInto : Nat → Node → Node → Node
  | 0, _, new => new
  | fuel + 1, .dir old, .dir new =>
    .dir (new.toList.foldl
      (fun children (name, node) =>
        match children.find? name with
        | some present => children.insert name (mergeInto fuel present node)
        | none => children.insert name node)
      old)
  | _, _, new => new

/-- Copy one file or directory; what is wrong, if anything. -/
def copyOne (recursive keeps : Bool) (source target : String) (isWhole : Bool) :
    Run (Option String) := do
  match ← resolve source with
  | .error fault => return some ("cannot stat " ++ quote source ++ ": " ++ reason fault)
  | .ok place =>
    let node := ((← tree).at? place).getD .null
    if node.isDir ∧ ¬recursive then
      return some ("-r not specified; omitting directory " ++ quote source)
    let target ← targetFor source target isWhole
    let old ← node? target
    let bare := if node.isDir then withoutSlashes target else target
    match (← resolve target).toOption with
    | some own =>
      if own = place then
        return some (quote source ++ " and " ++ quote target ++ " are the same file")
      else if keeps then return none
    | none => pure ()
    match node, old with
    | .dir _, some (.dir _) =>
      match ← resolve target with
      | .ok own =>
        if place.isPrefixOf own then
          return some ("cannot copy a directory, " ++ quote source ++ ", into itself, " ++
            quote target)
        let present := ((← tree).at? own).getD .emptyDir
        setTree ((← tree).put own (mergeInto 1000 present node))
        shareRunnable place own
        return none
      | .error _ => return none
    | .dir _, some _ =>
      return some ("cannot overwrite non-directory " ++ quote target ++ " with directory " ++
        quote source)
    | _, some (.dir _) =>
      return some ("cannot overwrite directory " ++ quote target ++ " with non-directory")
    | _, _ =>
      match (← tree).resolveNew (← process).cwd (toText bare) with
      | .error fault =>
        let kind := if node.isDir then "cannot create directory " else "cannot create regular file "
        let text :=
          if fault = .isADirectory then "Not a directory" else reason fault
        return some (kind ++ quote target ++ ": " ++ text)
      | .ok own =>
        if node.isDir ∧ place.isPrefixOf own then
          setTree ((← tree).put own node)
          return some ("cannot copy a directory, " ++ quote source ++ ", into itself, " ++
            quote target)
        match node with
        | .dir _ => setTree ((← tree).put own node)
        | node => setTree ((← tree).write own (node.contents?.getD []))
        shareRunnable place own
        return none

/-- Move one file or directory; what is wrong, if anything. -/
def moveOne (keeps : Bool) (source target : String) (isWhole : Bool) : Run (Option String) := do
  match ← resolve source with
  | .error fault => return some ("cannot stat " ++ quote source ++ ": " ++ reason fault)
  | .ok place =>
    let node := ((← tree).at? place).getD .null
    let target ← targetFor source target isWhole
    let old ← node? target
    match (← resolve target).toOption with
    | some own =>
      if own = place then
        return some (quote source ++ " and " ++ quote target ++ " are the same file")
      else if keeps then return none
    | none => pure ()
    let failed (text : String) : Option String :=
      some ("cannot move " ++ quote source ++ " to " ++ quote target ++ ": " ++ text)
    match node, old with
    | .dir _, some (.file _) | .dir _, some .null =>
      return some ("cannot overwrite non-directory " ++ quote target ++ " with directory " ++
        quote source)
    | .file _, some (.dir _) | .null, some (.dir _) =>
      return some ("cannot overwrite directory " ++ quote target ++ " with non-directory " ++
        quote source)
    | _, _ =>
      let bare := if node.isDir then withoutSlashes target else target
      let root ← tree
      let cwd := (← process).cwd
      let reached :=
        match old with
        | some (.dir _) => root.resolve cwd (toText target)
        | _ => root.resolveNew cwd (toText bare)
      match reached with
      | .error fault =>
        return failed (if fault = .isADirectory then "Not a directory" else reason fault)
      | .ok own =>
        if node.isDir ∧ place.isPrefixOf own then
          return some ("cannot move " ++ quote source ++ " to a subdirectory of itself, " ++
            quote target)
        match old with
        | some (.dir children) => if children.size ≠ 0 then return failed "Directory not empty"
        | _ => pure ()
        shareRunnable place own
        removeAt place
        setTree ((← tree).put own node)
        return none

/-- Copy or move the operands to the last one. -/
def transfer (verb : String) (given : Given)
    (one : String → String → Bool → Run (Option String)) : Run Nat := do
  let (sources, target) : List String × Option String :=
    match given.value? 't' with
    | some target => (given.operands, some target)
    | none => (given.operands.dropLast, given.operands.getLast?)
  match sources, target with
  | [], none =>
    misused "missing file operand"
    return 1
  | [], some only =>
    if given.has 't' then misused "missing file operand"
    else misused ("missing destination file operand after " ++ quote only)
    return 1
  | sources, some target =>
    let isDirectory := (← node? target).any Node.isDir
    if 1 < sources.length ∧ ¬isDirectory then
      let text := if (← node? target).isSome then reason .notADirectory else reason .notFound
      report ("target " ++ quote target ++ ": " ++ text)
      return 1
    forEach sources fun source => do
      let final ← targetFor source target (given.has 'T')
      let problem ← one source target (given.has 'T')
      if given.has 'v' ∧ problem.isNone then
        writeLine (verb ++ quote source ++ " -> " ++ quote final)
      return problem
  | _, none => return 1

/-- The options of copying and moving. -/
def transferOptions : Known :=
  { plain := "abdfHiLlnPpRrsTuvxZ", valued := "tS"
    long := [("recursive", 'r'), ("archive", 'a'), ("force", 'f'), ("no-clobber", 'n'),
      ("verbose", 'v'), ("target-directory", 't'), ("no-target-directory", 'T'),
      ("preserve", 'p'), ("update", 'u'), ("interactive", 'i')] }

/-- Copy files and directories. -/
def cp : Utility :=
  withOptions transferOptions 1 fun given =>
    let recursive := given.has 'r' || given.has 'R' || given.has 'a'
    transfer "" given (copyOne recursive (given.has 'n'))

/-- Move files and directories. -/
def mv : Utility :=
  withOptions transferOptions 1 fun given => transfer "renamed " given (moveOne (given.has 'n'))

/-! ### Permissions -/

/-- Whether a file can be run after a mode has been applied to one that could or could not; nothing
for a malformed mode. -/
def applyMode (mode : String) (before : Bool) : Option Bool :=
  let cs := mode.toList
  if cs ≠ [] ∧ cs.all Format.isOctal then
    some (cs.any fun c => (c.toNat - '0'.toNat) % 2 == 1)
  else
    (mode.splitToList (· = ',')).foldlM
      (fun state clause =>
        let cs := clause.toList
        let who := cs.takeWhile fun c => "ugoa".toList.contains c
        match cs.drop who.length with
        | sign :: letters =>
          if ¬"+-=".toList.contains sign ∨ letters.any fun c => !"rwxXstugo".toList.contains c then
            none
          else
            let runs := letters.contains 'x' || (letters.contains 'X' && state)
            match sign with
            | '+' => some (state || runs)
            | '-' => some (state && !(letters.contains 'x'))
            | _ => some runs
        | [] => none)
      before

/-- Change whether files can be run. -/
def chmod : Utility := fun arguments => do
  -- a mode may start with a dash
  let isMode (text : String) : Bool :=
    text.startsWith "-" && 1 < text.length &&
      text.toList.tail.all fun c => "rwxXst".toList.contains c
  let options := arguments.filter fun text => text.startsWith "-" && !isMode text && text ≠ "--"
  let operands := arguments.filter fun text =>
    (!text.startsWith "-" || isMode text) && text ≠ "--"
  if let some bad := options.find? fun text => text ∉ ["-R", "-v", "-f", "-c"] then
    misused ("invalid option -- '" ++ String.ofList ((bad.toList.drop 1).take 1) ++ "'")
    return 1
  match operands with
  | [] => missingOperand 1
  | [mode] =>
    misused ("missing operand after " ++ quoteWord mode)
    return 1
  | mode :: paths =>
    if (applyMode mode false).isNone then
      misused ("invalid mode: " ++ quoteWord mode)
      return 1
    forEach paths fun path => do
      match ← resolve path with
      | .error fault => return some ("cannot access " ++ quote path ++ ": " ++ reason fault)
      | .ok place =>
        let node := ((← tree).at? place).getD .null
        let inner :=
          if options.contains "-R" then (node.files.map fun (below, _) => place ++ below)
          else [place]
        modify fun s =>
          let runnable := inner.foldl
            (fun (list : List Place) place =>
              let before := list.contains place
              if (applyMode mode before).getD before then
                if before then list else place :: list
              else list.filter (· ≠ place))
            s.world.runnable
          { s with world := { s.world with runnable } }
        return none

end BootLayer.Shell.Utility
