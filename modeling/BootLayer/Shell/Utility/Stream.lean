import BootLayer.Shell.Utility.Basic

/-!
Utilities that pass their input on: as it is, in part, in another order or counted.
-/

namespace BootLayer.Shell.Utility

open Run

/-! ### Whole inputs -/

/-- How `cat` changes its input. -/
structure CatStyle where
  numbers : Bool
  numbersNonblank : Bool
  squeezes : Bool
  marksEnds : Bool
  marksTabs : Bool
  showsHidden : Bool

/-- A byte as `cat` shows it. -/
def catByte (style : CatStyle) (b : UInt8) : Bytes :=
  let low (b : UInt8) : Bytes :=
    if b < 32 then [94, b + 64] else if b = 127 then [94, 63] else [b]
  if b = 9 then if style.marksTabs then [94, 73] else [9]
  else if ¬style.showsHidden then [b]
  else if b < 128 then low b
  else [77, 45] ++ low (b - 128)

/-- The lines that `cat` writes for an input, after so many lines and blank lines. -/
def catLines (style : CatStyle) : Nat → Nat → List Bytes → List Bytes
  | _, _, [] => []
  | number, blanks, line :: rest =>
    let isEnded := endsLine 10 line
    let body := if isEnded then line.dropLast else line
    let isBlank := body.isEmpty
    if style.squeezes ∧ isBlank ∧ 0 < blanks then catLines style number (blanks + 1) rest
    else
      let isNumbered := if style.numbersNonblank then !isBlank else style.numbers
      let lead := if isNumbered then bytesOf (padLeft 6 (toString (number + 1)) ++ "\t") else []
      let ending := if isEnded then (if style.marksEnds then [36, 10] else [10]) else []
      (lead ++ body.flatMap (catByte style) ++ ending) ::
        catLines style (if isNumbered then number + 1 else number)
          (if isBlank then blanks + 1 else 0) rest

/-- The place that the standard output goes to and the offset in it, if it is a file. -/
def outputFile : Run (Option (Place × Nat)) := do
  match ← stream? 1 with
  | some (_, .file place offset mode) =>
    let size := ((((← tree).at? place).bind Node.contents?).getD []).length
    return some (place, if mode = .append then size else offset)
  | _ => return none

/-- Write inputs one after the other. -/
def cat : Utility :=
  let known : Known :=
    { plain := "AbeEnstTuv"
      long := [("show-all", 'A'), ("number-nonblank", 'b'), ("show-ends", 'E'), ("number", 'n'),
        ("squeeze-blank", 's'), ("show-tabs", 'T'), ("show-nonprinting", 'v')] }
  withOptions known 1 fun given => do
    let has (letters : String) : Bool := letters.toList.any given.has
    let style : CatStyle :=
      { numbers := has "n", numbersNonblank := has "b", squeezes := has "s", marksEnds := has "AeE",
        marksTabs := has "AtT", showsHidden := has "Aetv" }
    let isPlain := given.options.all (·.1 == 'u')
    let names := if given.operands.isEmpty then ["-"] else given.operands
    if (← stream? 1).isNone then
      report "standard output: Bad file descriptor"
      return 1
    let mut status := 0
    let mut all : Bytes := []
    let mut lostInput := false
    for name in names do
      let isOutput ←
        match ← outputFile with
        | some (place, offset) =>
          match ← resolve name with
          | .ok own => pure (name ≠ "-" && own == place && 0 < offset)
          | .error _ => pure false
        | none => pure false
      if isOutput then
        report (quoteIfNeeded name ++ ": input file is output file")
        status := 1
      else
        match ← input name with
        | .ok data => if isPlain then put data else all := all ++ data
        | .error (text, _) =>
          report (plainly name text false)
          status := 1
          if name = "-" ∧ (← stream? 0).isNone then lostInput := true
    if !isPlain then put (catLines style 0 0 (linesWithEnds 10 all)).flatten
    if lostInput then report "closing standard input: Bad file descriptor"
    return status

/-- Write the input to files as well. -/
def tee : Utility :=
  withOptions { plain := "aip", long := [("append", 'a')] } 1 fun given => do
    let data := (← readAll 0).getD []
    put data
    let mut status := 0
    for name in given.operands do
      match ← Redirection.openFile (if given.has 'a' then .append else .overwrite) name with
      | .ok stream =>
        let index ← addStream stream
        connect 19 (some index)
        discard <| writeTo 19 data
        connect 19 none
      | .error _ =>
        let text :=
          match (← tree).resolveNew (← process).cwd (toText name) with
          | .error fault => reason fault
          | .ok _ => "Permission denied"
        report (quoteIfNeeded name ++ ": " ++ text)
        status := 1
    return status

/-- Write the lines of inputs from the last to the first. -/
def tac : Utility :=
  withOptions { plain := "br", valued := "s" } 1 fun given => do
    let words (name text : String) (opened : Bool) : String :=
      if opened then quoteIfNeeded name ++ ": read error: " ++ text
      else "failed to open " ++ quote name ++ " for reading: " ++ text
    let (found, status) ← inputs words given.operands
    put (found.flatMap fun (_, data) => (linesWithEnds 10 data).reverse.flatten)
    return status

/-- Write the characters of each line from the last to the first. -/
def rev : Utility :=
  withOptions {} 1 fun given => do
    let words (name text : String) (_ : Bool) : String :=
      "cannot open " ++ name ++ ": " ++ text
    let (found, status) ← inputs words given.operands
    let turn (line : Bytes) : Bytes :=
      if endsLine 10 line then line.dropLast.reverse ++ [10] else line.reverse
    put (found.flatMap fun (_, data) => (linesWithEnds 10 data).flatMap turn)
    return status

/-! ### Parts of inputs -/

/-- A count with a suffix for its unit. -/
def sized? (text : String) : Option Nat :=
  let digits := text.toList.takeWhile Char.isDigit
  let n := digits.foldl (fun n c => n * 10 + (c.toNat - '0'.toNat)) 0
  let unit : Option Nat :=
    match String.ofList (text.toList.drop digits.length) with
    | "" => some 1
    | "b" => some 512
    | "k" | "K" | "KiB" => some 1024
    | "kB" | "KB" => some 1000
    | "M" | "MiB" | "m" => some (1024 * 1024)
    | "MB" => some 1000000
    | "G" | "GiB" => some (1024 * 1024 * 1024)
    | _ => none
  if digits.isEmpty then none else unit.map (n * ·)

/-- A count of lines or bytes, with the sign that was written in front of it. -/
structure Amount where
  sign : Option Char
  count : Nat
  inBytes : Bool

/-- Read an amount. -/
def amount? (inBytes : Bool) (text : String) : Option Amount :=
  match text.toList with
  | c :: rest =>
    if c = '-' ∨ c = '+' then (sized? (String.ofList rest)).map fun n => ⟨some c, n, inBytes⟩
    else (sized? text).map fun n => ⟨none, n, inBytes⟩
  | [] => none

/-- The amount that options ask for, and whether names are shown; ten lines if nothing is said. -/
def readAmount (given : Given) : Run (Option Amount) := do
  match given.options.reverse.find? fun (c, _) => c == 'n' || c == 'c' with
  | none => return some ⟨none, 10, false⟩
  | some (c, text) =>
    match amount? (c == 'c') text with
    | some amount => return some amount
    | none =>
      let unit := if c = 'c' then "bytes" else "lines"
      report ("invalid number of " ++ unit ++ ": " ++ quoteWord text)
      return none

/-- Write a part of each input, under its name if there are several. -/
def parts (given : Given) (part : Bytes → Bytes) (isPrecise : Bool) : Run Nat := do
  let names := if given.operands.isEmpty then ["-"] else given.operands
  let shows := given.has 'v' || (1 < names.length && !given.has 'q')
  let mut status := 0
  let mut output : Bytes := []
  let mut isFirst := true
  for path in names do
    let shown := if path = "-" then "standard input" else path
    let title (isFirst : Bool) : Bytes :=
      if shows then (if isFirst then [] else [10]) ++ lineOf ("==> " ++ shown ++ " <==") else []
    let found ←
      if path = "-" then
        match ← pending? 0 with
        | some data =>
          match ← stream? 0 with
          | some (_, .file _ _ _) =>
            consume 0 (if isPrecise then (part data).length else data.length)
          | _ => consume 0 data.length
          pure (Except.ok data)
        | none => pure (Except.error (← unreadable 0, true))
      else input path
    match found with
    | .ok data =>
      output := output ++ title isFirst ++ part data
      isFirst := false
    | .error (text, opened) =>
      if opened then
        output := output ++ title isFirst
        isFirst := false
        report ("error reading " ++ quote shown ++ ": " ++ text)
      else report ("cannot open " ++ quote path ++ " for reading: " ++ text)
      status := 1
  put output
  return status

/-- The arguments with a count that is an option by itself written out. -/
def spelled (signs : List Char) (arguments : List String) : List String :=
  match arguments with
  | first :: rest =>
    match first.toList with
    | sign :: c :: digits =>
      if signs.contains sign ∧ c.isDigit then
        let count := (c :: digits).takeWhile Char.isDigit
        let letters := (c :: digits).drop count.length
        let lead := if sign = '+' then ['+'] else []
        let letter := if letters.contains 'c' then "-c" else "-n"
        letter :: String.ofList (lead ++ count) :: rest
      else arguments
    | _ => arguments
  | [] => []

/-- The options of `head` and `tail`. -/
def endOptions : Known :=
  { plain := "qvzfF", valued := "nc"
    long := [("lines", 'n'), ("bytes", 'c'), ("quiet", 'q'), ("silent", 'q'), ("verbose", 'v'),
      ("follow", 'f')] }

/-- Write the start of each input. -/
def start : Utility := fun arguments =>
  withOptions endOptions 1
    (fun given => do
      match ← readAmount given with
      | none => return 1
      | some amount =>
        let part (data : Bytes) : Bytes :=
          if amount.inBytes then
            if amount.sign = some '-' then data.take (data.length - amount.count)
            else data.take amount.count
          else
            let lines := linesWithEnds 10 data
            if amount.sign = some '-' then (lines.take (lines.length - amount.count)).flatten
            else (lines.take amount.count).flatten
        parts given part true)
    (spelled ['-'] arguments)

/-- The letter after a count that no option of `head` has. -/
def strayLetter? (arguments : List String) : Option Char :=
  match arguments.head?.map String.toList with
  | some ('-' :: c :: rest) =>
    if c.isDigit then
      (rest.dropWhile Char.isDigit).find? fun c => !"bcklmqvz".toList.contains c
    else none
  | _ => none

/-- Write the start of each input, unless it is asked for in a form that is not known. -/
def head : Utility := fun arguments => do
  match strayLetter? arguments with
  | some c =>
    misused ("invalid trailing option -- " ++ String.singleton c)
    return 1
  | none => start arguments

/-- Write the end of each input. -/
def tail : Utility := fun arguments =>
  withOptions endOptions 1
    (fun given => do
      match ← readAmount given with
      | none => return 1
      | some amount =>
        let part (data : Bytes) : Bytes :=
          if amount.inBytes then
            if amount.sign = some '+' then data.drop (amount.count - 1)
            else data.drop (data.length - amount.count)
          else
            let lines := linesWithEnds 10 data
            if amount.sign = some '+' then (lines.drop (amount.count - 1)).flatten
            else (lines.drop (lines.length - amount.count)).flatten
        parts given part false)
    (spelled ['-', '+'] arguments)

/-! ### Counts -/

/-- What can be counted in an input. -/
structure Counts where
  lines : Nat := 0
  words : Nat := 0
  bytes : Nat := 0
  longest : Nat := 0

/-- The byte is a blank between words. -/
def isBlankByte (b : UInt8) : Bool := isSpace (Char.ofNat b.toNat)

/-- The columns that a line takes. -/
def lineWidth (line : Bytes) : Nat :=
  let (width, most) := line.foldl
    (fun ((width, most) : Nat × Nat) b =>
      if b = 9 then (width + (8 - width % 8), most)
      else if b = 13 ∨ b = 12 then (0, max width most)
      else if 32 ≤ b ∧ b < 127 then (width + 1, most)
      else (width, most))
    (0, 0)
  max width most

/-- Count what is in an input. -/
def Counts.of (data : Bytes) : Counts :=
  let (words, _) := data.foldl
    (fun ((n, inWord) : Nat × Bool) b =>
      if isBlankByte b then (n, false) else (if inWord then n else n + 1, true))
    (0, false)
  { lines := data.count 10
    words
    bytes := data.length
    longest := ((splitLines 10 data).map lineWidth).foldl max 0 }

/-- Count the lines, words and bytes of inputs. -/
def wc : Utility :=
  let known : Known :=
    { plain := "clmLw"
      long := [("bytes", 'c'), ("chars", 'm'), ("lines", 'l'), ("max-line-length", 'L'),
        ("words", 'w')] }
  withOptions known 1 fun given => do
    let has (c : Char) : Bool := given.has c
    let all := given.options.isEmpty
    let columns (counts : Counts) : List Nat :=
      (if all || has 'l' then [counts.lines] else []) ++
        (if all || has 'w' then [counts.words] else []) ++
        (if has 'm' then [counts.bytes] else []) ++
        (if all || has 'c' then [counts.bytes] else []) ++
        (if has 'L' then [counts.longest] else [])
    let names := if given.operands.isEmpty then ["-"] else given.operands
    let isSingle := names.length = 1 ∧ (columns {}).length = 1
    let mut width := 1
    let mut least := 1
    let mut total := 0
    if ¬isSingle then
      for name in names do
        let isInput := name = "-"
        let file ←
          if isInput then
            match ← stream? 0 with
            | some (_, .file place _ _) => pure ((← tree).at? place)
            | some _ => pure (some .null)
            | none => pure none
          else node? name
        match file with
        | some (.file data) => total := total + data.length
        | some _ => least := 7
        | none => pure ()
      width := max least (toString total).length
    let mut sum : Counts := {}
    let mut status := 0
    let mut output := ""
    for name in names do
      let line (counts : Counts) (label : String) : String :=
        " ".intercalate ((columns counts).map fun n => padLeft width (toString n)) ++ label ++ "\n"
      let label := if given.operands.isEmpty then "" else " " ++ quoteIfNeeded name
      match ← input name with
      | .ok data =>
        let counts := Counts.of data
        sum :=
          { lines := sum.lines + counts.lines, words := sum.words + counts.words,
            bytes := sum.bytes + counts.bytes, longest := max sum.longest counts.longest }
        output := output ++ line counts label
      | .error (text, opened) =>
        report
          (if name = "" then "invalid zero-length file name"
            else if given.operands.isEmpty then "'standard input': " ++ text
            else plainly name text opened)
        status := 1
        if opened then output := output ++ line {} label
    if 1 < names.length then
      output := output ++
        " ".intercalate ((columns sum).map fun n => padLeft width (toString n)) ++ " total\n"
    write output
    if names.contains "-" ∧ (← stream? 0).isNone then report "-: Bad file descriptor"
    return status

/-- Number the lines of inputs. -/
def nl : Utility :=
  let known : Known :=
    { plain := "p", valued := "bdfhilnsvw"
      long := [("body-numbering", 'b'), ("line-increment", 'i'), ("number-format", 'n'),
        ("number-separator", 's'), ("starting-line-number", 'v'), ("number-width", 'w')] }
  withOptions known 1 fun given => do
    let (found, status) ← inputs plainly given.operands
    let style := (given.value? 'b').getD "t"
    let width := ((given.value? 'w').bind count?).getD 6
    let separator := (given.value? 's').getD "\t"
    let step := ((given.value? 'i').bind (wholeInteger? false)).getD 1
    let first := ((given.value? 'v').bind (wholeInteger? false)).getD 1
    let layout := (given.value? 'n').getD "rn"
    let number (n : Int) : String :=
      let text := toString n
      let missing := width - text.length
      match layout with
      | "ln" => text ++ String.ofList (List.replicate missing ' ')
      | "rz" =>
        if n < 0 then "-" ++ String.ofList (List.replicate missing '0') ++ (text.drop 1).toString
        else String.ofList (List.replicate missing '0') ++ text
      | _ => padLeft width text
    let blank := String.ofList (List.replicate (width + separator.length) ' ')
    let lines := splitLines 10 (found.flatMap Prod.snd)
    let (output, _) := lines.foldl
      (fun ((output, n) : Bytes × Int) line =>
        let isNumbered := style = "a" ∨ (style = "t" ∧ ¬line.isEmpty)
        if isNumbered then (output ++ bytesOf (number n ++ separator) ++ line ++ [10], n + step)
        else (output ++ bytesOf blank ++ line ++ [10], n))
      ([], first)
    put output
    return status

end BootLayer.Shell.Utility
