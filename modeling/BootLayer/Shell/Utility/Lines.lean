import BootLayer.Shell.Utility.Stream
import BootLayer.Shell.Utility.Translate

/-!
Utilities that work on lines and their fields: selecting, joining, sorting and comparing them.
-/

namespace BootLayer.Shell.Utility

open Run

/-! ### Selecting -/

/-- A range of positions, counted from one; it may be open at its end. -/
structure Span where
  first : Nat
  last : Option Nat

/-- The position is in the range. -/
def Span.covers (span : Span) (n : Nat) : Bool := span.first ≤ n && span.last.all (n ≤ ·)

/-- What is said about positions of a kind. -/
structure PositionWords where
  zero : String
  range : String
  bad : String → String

/-- A range under way: whether there is a dash, whether a number stands before and after it, the
number under way and the one before the dash. -/
structure OpenSpan where
  hasDash : Bool := false
  hasFirst : Bool := false
  hasLast : Bool := false
  value : Nat := 0
  first : Nat := 1

/-- The range that has been read, or what is wrong with it. -/
def OpenSpan.close (words : PositionWords) (s : OpenSpan) : Except String Span :=
  if s.hasDash then
    if ¬s.hasFirst ∧ ¬s.hasLast then .error "invalid range with no endpoint: -"
    else if ¬s.hasLast then .ok ⟨s.first, none⟩
    else if s.value < s.first then .error "invalid decreasing range"
    else .ok ⟨s.first, some s.value⟩
  else if s.value = 0 then .error words.zero
  else .ok ⟨s.value, some s.value⟩

/-- Read ranges, or tell what is wrong with them. -/
def readSpans (words : PositionWords) : OpenSpan → List Char → Except String (List Span)
  | s, [] => return [← s.close words]
  | s, c :: rest =>
    if c = '-' then
      if s.hasDash then .error words.range
      else if s.hasFirst ∧ s.value = 0 then .error words.zero
      else
        let first := if s.hasFirst then s.value else 1
        readSpans words { s with hasDash := true, first, value := 0 } rest
    else if c = ',' ∨ c = ' ' ∨ c = '\t' then do
      let span ← s.close words
      return span :: (← readSpans words {} rest)
    else if c.isDigit then
      let s := if s.hasDash then { s with hasLast := true } else { s with hasFirst := true }
      readSpans words { s with value := s.value * 10 + (c.toNat - '0'.toNat) } rest
    else .error (words.bad (String.ofList (c :: rest)))

/-- Select bytes or fields of lines. -/
def cut : Utility :=
  let known : Known :=
    { plain := "nsz", valued := "bcdfO"
      long := [("bytes", 'b'), ("characters", 'c'), ("delimiter", 'd'), ("fields", 'f'),
        ("only-delimited", 's'), ("output-delimiter", 'O'), ("complement", 'C')] }
  withOptions { known with plain := known.plain ++ "C" } 1 fun given => do
    let misuse (text : String) : Run Nat := do
      misused text
      return 1
    let lists := given.options.filter fun (c, _) => c == 'b' || c == 'c' || c == 'f'
    match lists with
    | [] => misuse "you must specify a list of bytes, characters, or fields"
    | _ :: _ :: _ => misuse "only one list may be specified"
    | [(kind, text)] =>
      let inFields := kind == 'f'
      let delimiter := (given.value? 'd').getD "\t"
      let words : PositionWords :=
        if inFields then
          ⟨"fields are numbered from 1", "invalid field range",
            fun text => "invalid field value " ++ quoteWord text⟩
        else
          ⟨"byte/character positions are numbered from 1", "invalid byte or character range",
            fun text => "invalid byte/character position " ++ quoteWord text⟩
      if (given.value? 'd').isSome ∧ 1 < delimiter.length then
        misuse "the delimiter must be a single character"
      else if (given.value? 'd').isSome ∧ ¬inFields then
        misuse "an input delimiter may be specified only when operating on fields"
      else if given.has 's' ∧ ¬inFields then
        misuse "suppressing non-delimited lines makes sense\n\tonly when operating on fields"
      else
        match readSpans words {} text.toList with
        | .error problem => misuse problem
        | .ok spans =>
          let covers (n : Nat) : Bool := (spans.any fun span => span.covers n) != given.has 'C'
          let separator := (bytesOf delimiter).head?.getD 0
          let joint := ((given.value? 'O').map bytesOf).getD [separator]
          let pick (line : Bytes) : Option Bytes :=
            if inFields then
              if line.contains separator then
                let fields := splitLines separator (line ++ [separator])
                let kept := (fields.zipIdx 1).filter fun (_, i) => covers i
                some (joint.intercalate (kept.map Prod.fst))
              else if given.has 's' then none
              else some line
            else
              let kept := (line.zipIdx 1).filter fun (_, i) => covers i
              if (given.value? 'O').isSome then
                -- the delimiter goes between ranges that do not touch
                let (output, _) := kept.foldl
                  (fun ((output, last) : Bytes × Option Nat) (b, i) =>
                    match last with
                    | some n =>
                      let starts := spans.any (·.first == i)
                      if n + 1 < i ∨ (starts ∧ ¬spans.any fun s => s.covers n && s.covers i) then
                        (output ++ joint ++ [b], some i)
                      else (output ++ [b], some i)
                    | none => ([b], some i))
                  ([], none)
                some output
              else some (kept.map Prod.fst)
          let (found, status) ← inputs plainly given.operands
          put (found.flatMap fun (_, data) =>
            ((splitLines 10 data).filterMap pick).flatMap (· ++ [10]))
          return status

/-- Join the lines of inputs. -/
def paste : Utility :=
  let known : Known :=
    { plain := "sz", valued := "d", long := [("delimiters", 'd'), ("serial", 's')] }
  withOptions known 1 fun given => do
    let listed := ((given.value? 'd').getD "\t").toList
    let delimiters := (Translate.unescape listed.length listed).map fun (c, escaped) =>
      if escaped ∧ c = '0' then [] else bytesOf (String.singleton c)
    let delimiter (i : Nat) : Bytes :=
      if delimiters.isEmpty then [] else (delimiters[i % delimiters.length]?).getD []
    let (found, status) ← inputs plainly given.operands
    if status ≠ 0 then return status
    let columns := found.map fun (_, data) => splitLines 10 data
    -- several dashes share the lines of the input
    let dashes := (found.filter (·.1 == "-")).length
    let columns :=
      if 1 < dashes then
        let shared := (columns.zip found).flatMap fun (lines, name, _) =>
          if name = "-" then lines else []
        let (columns, _) := (found.zip columns).foldl
          (fun ((done, seen) : List (List Bytes) × Nat) ((name, _), lines) =>
            if name = "-" then
              let own := (shared.zipIdx.filter fun (_, i) => i % dashes == seen).map Prod.fst
              (done ++ [own], seen + 1)
            else (done ++ [lines], seen))
          ([], 0)
        columns
      else columns
    let joined (cells : List Bytes) : Bytes :=
      match cells with
      | [] => []
      | first :: rest =>
        first ++ (rest.zipIdx.flatMap fun (cell, i) => delimiter i ++ cell)
    if given.has 's' then
      put (columns.flatMap fun lines => joined lines ++ [10])
    else
      let height := (columns.map List.length).foldl max 0
      put ((List.range height).flatMap fun row =>
        joined (columns.map fun lines => (lines[row]?).getD []) ++ [10])
    return 0

/-- Break lines that are too long. -/
def fold : Utility :=
  let known : Known :=
    { plain := "bs", valued := "w", long := [("bytes", 'b'), ("spaces", 's'), ("width", 'w')] }
  withOptions known 1 fun given => do
    match ((given.value? 'w').getD "80" |> count?) with
    | none | some 0 =>
      report ("invalid number of columns: " ++ quoteWord ((given.value? 'w').getD ""))
      return 1
    | some width =>
      let (found, status) ← inputs plainly given.operands
      let advance (column : Nat) (b : UInt8) : Nat :=
        if given.has 'b' then column + 1
        else if b = 9 then column + (8 - column % 8)
        else if b = 8 then column - 1
        else if b = 13 then 0
        else column + 1
      let columnsOf (data : Bytes) : Nat := data.foldl advance 0
      let breakLine (line : Bytes) : Bytes :=
        let (done, current) := line.foldl
          (fun ((done, current) : Bytes × Bytes) b =>
            if width < columnsOf (current ++ [b]) ∧ ¬current.isEmpty then
              let kept :=
                if given.has 's' then
                  (current.reverse.dropWhile fun b => b ≠ 32 ∧ b ≠ 9).reverse
                else []
              if kept.isEmpty then (done ++ current ++ [10], [b])
              else (done ++ kept ++ [10], current.drop kept.length ++ [b])
            else (done, current ++ [b]))
          ([], [])
        done ++ current
      put (found.flatMap fun (_, data) =>
        (linesWithEnds 10 data).flatMap fun line =>
          if endsLine 10 line then breakLine line.dropLast ++ [10] else breakLine line)
      return status

/-! ### Sorting -/

/-- How a part of a line is compared. -/
structure Order where
  numeric : Bool := false
  folds : Bool := false
  dictionary : Bool := false
  printable : Bool := false
  skipsBlanks : Bool := false
  reversed : Bool := false
  deriving DecidableEq

/-- Add the order of a letter. -/
def Order.add (order : Order) (c : Char) : Order :=
  match c with
  | 'n' | 'g' | 'h' => { order with numeric := true }
  | 'f' => { order with folds := true }
  | 'd' => { order with dictionary := true }
  | 'i' => { order with printable := true }
  | 'b' => { order with skipsBlanks := true }
  | 'r' => { order with reversed := true }
  | _ => order

/-- A key: where it starts, where it ends, and how it is compared. -/
structure Key where
  startField : Nat
  startChar : Nat
  endField : Option Nat
  endChar : Nat
  order : Order
  /-- Blanks are skipped before the end is counted. -/
  skipsEndBlanks : Bool := false

/-- The byte is a blank between fields. -/
def isFieldBlank (b : UInt8) : Bool := b == 32 || b == 9 || b == 10

/-- What follows the first fields of a line. -/
def afterFields (separator : Option UInt8) : Nat → Bytes → Bytes
  | 0, line => line
  | n + 1, line =>
    match separator with
    | some s => afterFields separator n ((line.dropWhile (· ≠ s)).tail)
    | none =>
      afterFields separator n ((line.dropWhile isFieldBlank).dropWhile fun b => !isFieldBlank b)

/-- How many bytes the first fields of a line take, without the separator that ends the last. -/
def fieldsLength (separator : Option UInt8) (n : Nat) (line : Bytes) : Nat :=
  match separator with
  | some s =>
    let before := line.length - (afterFields separator (n - 1) line).length
    if n = 0 then 0
    else before + ((line.drop before).takeWhile (· ≠ s)).length
  | none => line.length - (afterFields separator n line).length

/-- The part of a line that a key selects. -/
def Key.select (key : Key) (separator : Option UInt8) (line : Bytes) : Bytes :=
  let start := line.length - (afterFields separator (key.startField - 1) line).length
  let skip (position : Nat) : Nat := position + ((line.drop position).takeWhile isFieldBlank).length
  let start := if key.order.skipsBlanks then skip start else start
  let start := min line.length (start + (key.startChar - 1))
  let finish :=
    match key.endField with
    | none => line.length
    | some field =>
      if key.endChar = 0 then fieldsLength separator field line
      else
        let position := line.length - (afterFields separator (field - 1) line).length
        let position := if key.skipsEndBlanks then skip position else position
        min line.length (position + key.endChar)
  (line.drop start).take (finish - start)

/-- The number at the start of some bytes, in units of a tiny fraction. -/
def leadingNumber (data : Bytes) : Int :=
  let cs := (data.dropWhile isFieldBlank).map fun b => Char.ofNat b.toNat
  let (negative, cs) :=
    match cs with
    | '-' :: rest => (true, rest)
    | cs => (false, cs)
  let whole := cs.takeWhile Char.isDigit
  let fraction :=
    match cs.drop whole.length with
    | '.' :: rest => (rest.takeWhile Char.isDigit).take 30
    | _ => []
  let digits := whole ++ fraction ++ List.replicate (30 - fraction.length) '0'
  let n : Int := digits.foldl (fun n c => n * 10 + (c.toNat - '0'.toNat)) (0 : Nat)
  if negative then -n else n

/-- Compare bytes in order. -/
def compareBytes : Bytes → Bytes → Ordering
  | [], [] => .eq
  | [], _ :: _ => .lt
  | _ :: _, [] => .gt
  | a :: as, b :: bs => if a < b then .lt else if b < a then .gt else compareBytes as bs

/-- Compare two parts of lines. -/
def Order.compare (order : Order) (a b : Bytes) : Ordering :=
  let plain :=
    if order.numeric then Ord.compare (leadingNumber a) (leadingNumber b)
    else
      let clean (data : Bytes) : Bytes :=
        let data := if order.skipsBlanks then data.dropWhile isFieldBlank else data
        let data :=
          if order.dictionary then
            data.filter fun b => isFieldBlank b || (Char.ofNat b.toNat).isAlphanum
          else if order.printable then data.filter fun b => 32 ≤ b && b < 127
          else data
        if order.folds then data.map fun b => if 97 ≤ b ∧ b ≤ 122 then b - 32 else b else data
      compareBytes (clean a) (clean b)
  if order.reversed then plain.swap else plain

/-- A position of a key: a field, a character in it, and letters. -/
def readPosition (cs : List Char) : Option (Nat × Option Nat × List Char × List Char) :=
  let number (cs : List Char) : Option (Nat × List Char) :=
    let digits := cs.takeWhile Char.isDigit
    if digits.isEmpty then none
    else
      some (digits.foldl (fun n c => n * 10 + (c.toNat - '0'.toNat)) 0, cs.drop digits.length)
  match number cs with
  | none => none
  | some (field, rest) =>
    let (char, rest) : Option Nat × List Char :=
      match rest with
      | '.' :: more =>
        match number more with
        | some (n, rest) => (some n, rest)
        | none => (none, rest)
      | rest => (none, rest)
    let letters := rest.takeWhile Char.isAlpha
    some (field, char, letters, rest.drop letters.length)

/-- Read a key; what it does not say about the order is taken from the whole line's. -/
def readKey (whole : Order) (text : String) : Option Key :=
  match readPosition text.toList with
  | none => none
  | some (field, char, letters, rest) =>
    let finish :=
      match rest with
      | ',' :: more => readPosition more
      | _ => none
    let endLetters := (finish.map fun (_, _, letters, _) => letters).getD []
    let all := letters ++ endLetters
    let order := if all.isEmpty then whole else all.foldl Order.add {}
    let order :=
      if all.isEmpty then order else { order with skipsBlanks := letters.contains 'b' }
    some
      { startField := field
        startChar := char.getD 1
        endField := finish.map Prod.fst
        endChar := (finish.bind fun (_, char, _) => char).getD 0
        order
        skipsEndBlanks := endLetters.contains 'b' || (all.isEmpty && whole.skipsBlanks) }

/-- Sort lines. -/
def sort : Utility :=
  let known : Known :=
    { plain := "bdfghiMnRrVcCmsuz", valued := "kotST"
      long := [("reverse", 'r'), ("numeric-sort", 'n'), ("unique", 'u'), ("ignore-case", 'f'),
        ("key", 'k'), ("field-separator", 't'), ("output", 'o'), ("check", 'c'), ("stable", 's'),
        ("ignore-leading-blanks", 'b'), ("dictionary-order", 'd'), ("merge", 'm')] }
  withOptions known 2 fun given => do
    let whole := given.options.foldl (fun order (c, _) => order.add c) ({} : Order)
    let separator := (given.value? 't').bind fun text => (bytesOf text).head?
    let keyTexts := (given.options.filter (·.1 == 'k')).map Prod.snd
    let keys := keyTexts.filterMap (readKey whole)
    if keys.length < keyTexts.length then
      report ("invalid number at field start: invalid count at start of " ++
        quoteWord (keyTexts.head?.getD ""))
      return 2
    let words (name text : String) (opened : Bool) : String :=
      if opened then "read failed: " ++ quoteIfNeeded name ++ ": " ++ text
      else "cannot read: " ++ quoteIfNeeded name ++ ": " ++ text
    let (found, status) ← inputs words given.operands
    if status ≠ 0 then return 2
    let byKeys (a b : Bytes) : Ordering :=
      if keys.isEmpty then whole.compare a b
      else
        keys.foldl
          (fun result key =>
            result.then (key.order.compare (key.select separator a) (key.select separator b)))
          .eq
    let isStable := given.has 's' || given.has 'u'
    let compare (a b : Bytes) : Ordering :=
      let last := compareBytes a b
      (byKeys a b).then
        (if isStable then .eq else if whole.reversed then last.swap else last)
    let lines := found.flatMap fun (_, data) => splitLines 10 data
    if given.has 'c' ∨ given.has 'C' then
      let isBad (a b : Bytes) : Bool :=
        match (if given.has 'u' then byKeys a b else compare a b) with
        | .gt => true
        | .eq => given.has 'u'
        | .lt => false
      match ((lines.zip lines.tail).zipIdx 2).find? fun ((a, b), _) => isBad a b with
      | none => return 0
      | some ((_, b), i) =>
        let name := (found.head?.map Prod.fst).getD "-"
        if ¬given.has 'C' then
          report (name ++ ":" ++ toString i ++ ": disorder: " ++ ofBytes b)
        return 1
    let sorted := lines.mergeSort fun a b => compare a b != .gt
    let sorted :=
      if given.has 'u' then
        (sorted.foldl
          (fun (kept : List Bytes) line =>
            match kept with
            | last :: _ => if byKeys last line == .eq then kept else line :: kept
            | [] => [line])
          []).reverse
      else sorted
    let output := sorted.flatMap (· ++ [10])
    match given.value? 'o' with
    | none =>
      put output
      return 0
    | some path =>
      match (← tree).save (← process).cwd (toText path) output with
      | .ok tree =>
        setTree tree
        return 0
      | .error fault =>
        report ("open failed: " ++ quoteIfNeeded path ++ ": " ++ reason fault)
        return 2

/-! ### Comparing -/

/-- Runs of lines that are alike: the first line of each, and how many there are. -/
def runs (same : Bytes → Bytes → Bool) : List Bytes → List (List Bytes)
  | [] => []
  | line :: rest =>
    match runs same rest with
    | (first :: others) :: more =>
      if same line first then (line :: first :: others) :: more
      else [line] :: (first :: others) :: more
    | more => [line] :: more

/-- Report or drop repeated lines. -/
def uniq : Utility :=
  let known : Known :=
    { plain := "cdDiuz", valued := "fsw"
      long := [("count", 'c'), ("repeated", 'd'), ("ignore-case", 'i'), ("unique", 'u'),
        ("skip-fields", 'f'), ("skip-chars", 's'), ("check-chars", 'w'), ("all-repeated", 'D')] }
  withOptions known 1 fun given => do
    let number (c : Char) : Nat := ((given.value? c).bind count?).getD 0
    let key (line : Bytes) : Bytes :=
      let line := afterFields none (number 'f') line
      let line := line.drop (number 's')
      let line := if given.has 'w' then line.take (number 'w') else line
      if given.has 'i' then line.map fun b => if 65 ≤ b ∧ b ≤ 90 then b + 32 else b else line
    match given.operands with
    | _ :: _ :: extra :: _ =>
      misused ("extra operand " ++ quoteWord extra)
      return 1
    | _ =>
      let (found, status) ← inputs plainly (given.operands.take 1)
      if status ≠ 0 then return status
      let lines := found.flatMap fun (_, data) => splitLines 10 data
      let groups := runs (fun a b => key a == key b) lines
      let isKept (group : List Bytes) : Bool :=
        if given.has 'd' ∨ given.has 'D' then 1 < group.length && !given.has 'u'
        else if given.has 'u' then group.length == 1
        else true
      let shown (group : List Bytes) : Bytes :=
        let lead := if given.has 'c' then bytesOf (padLeft 7 (toString group.length) ++ " ") else []
        if given.has 'D' then group.flatMap (· ++ [10])
        else lead ++ (group.head?.getD []) ++ [10]
      let output := (groups.filter isKept).flatMap shown
      match given.operands[1]? with
      | none =>
        put output
        return 0
      | some path =>
        match (← tree).save (← process).cwd (toText path) output with
        | .ok tree =>
          setTree tree
          return 0
        | .error fault =>
          report (quoteIfNeeded path ++ ": " ++ reason fault)
          return 1

/-- Lines in the first list only, in the second only, and in both, in order. -/
def merged : Nat → List Bytes → List Bytes → List (Nat × Bytes)
  | 0, _, _ => []
  | _, [], bs => bs.map fun b => (2, b)
  | _, as, [] => as.map fun a => (1, a)
  | fuel + 1, a :: as, b :: bs =>
    match compareBytes a b with
    | .lt => (1, a) :: merged fuel as (b :: bs)
    | .gt => (2, b) :: merged fuel (a :: as) bs
    | .eq => (3, a) :: merged fuel as bs

/-- Compare two sorted inputs line by line. -/
def comm : Utility :=
  withOptions { plain := "123" } 1 fun given => do
    match given.operands with
    | [first, second] =>
      let (found, status) ← inputs plainly [first, second]
      match found with
      | [(_, a), (_, b)] =>
        let as := splitLines 10 a
        let bs := splitLines 10 b
        let hides (column : Nat) : Bool := given.has (Char.ofNat (48 + column))
        let tabs (column : Nat) : Bytes :=
          List.replicate ((List.range (column - 1)).filter fun i => !hides (i + 1)).length 9
        put ((merged (as.length + bs.length + 1) as bs).flatMap fun (column, line) =>
          if hides column then [] else tabs column ++ line ++ [10])
        return 0
      | _ => return status
    | [] => missingOperand 1
    | [only] =>
      misused ("missing operand after " ++ quoteWord only)
      return 1
    | _ :: _ :: extra :: _ =>
      misused ("extra operand " ++ quoteWord extra)
      return 1

/-- Compare two inputs byte by byte. -/
def cmp : Utility :=
  withOptions { plain := "bls", valued := "n", long := [("silent", 's'), ("quiet", 's')] } 2
    fun given => do
      match given.operands with
      | first :: others =>
        let second := others.head?.getD "-"
        let (found, status) ← inputs plainly [first, second]
        match found with
        | [(_, a), (_, b)] =>
          let same := ((a.zip b).takeWhile fun (x, y) => x == y).length
          if a = b then return 0
          if ¬given.has 's' then
            if same < a.length ∧ same < b.length then
              let line := (a.take same).count 10 + 1
              writeLine (first ++ " " ++ second ++ " differ: char " ++ toString (same + 1) ++
                ", line " ++ toString line)
            else
              let (shorter, size) := if a.length < b.length then (first, a) else (second, b)
              if size.isEmpty then report ("EOF on " ++ shorter ++ " which is empty")
              else
                let lines := size.count 10
                let line :=
                  if endsLine 10 size then "line " ++ toString lines
                  else "in line " ++ toString (lines + 1)
                report ("EOF on " ++ shorter ++ " after byte " ++ toString size.length ++
                  ", " ++ line)
          return 1
        | _ => return if status = 0 then 0 else 2
      | [] =>
        misused "missing operand after 'cmp'"
        return 2

end BootLayer.Shell.Utility
