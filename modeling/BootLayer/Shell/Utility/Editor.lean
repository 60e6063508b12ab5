import BootLayer.Shell.Utility.Basic
import BootLayer.Shell.Utility.Editor.Program

/-!
The line editor.  Each line in turn is put into a buffer and goes through the steps of a program;
what is left of it is written at the end of the round.  `Editor.go` carries out a program on the
lines of its input; it works on a value, `Editor.State`, which also holds what has been written.
-/

namespace BootLayer.Shell.Utility

namespace Editor

/-- A line of an input. -/
structure Line where
  text : List Char
  /-- It has a line end. -/
  ended : Bool
  file : String

/-- What has been written to a place: its last part first, and whether a line end is due. -/
structure Sink where
  parts : List Bytes := []
  owesEnd : Bool := false

/-- Something to be written at the end of a round. -/
inductive Queued where
  | text (text : String)
  | file (path : String)

/-- The surroundings of a program. -/
structure Setting where
  program : Program
  isQuiet : Bool
  ending : UInt8
  load : String → Option Bytes

/-- The state of the editor. -/
structure State where
  buffer : List Char := []
  /-- The last line read has a line end. -/
  ended : Bool := true
  hold : List Char := []
  number : Nat := 0
  file : String := "-"
  input : List Line
  queue : List Queued := []
  /-- The ranges under way, by the number of the step, with their last lines if these are known. -/
  ranges : List (Nat × Option Nat) := []
  /-- A substitution was made since the last line was read or the last jump that asked for it. -/
  replaced : Bool := false
  lastExpression : Option Expression := none
  main : Sink := {}
  sinks : List (String × Sink) := []
  /-- The status to end with, once the program is over. -/
  outcome : Option Nat := none
  /-- What went wrong. -/
  fault : Option String := none

/-! ### Writing -/

/-- Write to a sink, after the line end that is due. -/
def Sink.add (sink : Sink) (ending : UInt8) (data : Bytes) (owesEnd : Bool) : Sink :=
  { parts := data :: (if sink.owesEnd then [ending] :: sink.parts else sink.parts), owesEnd }

/-- All that has been written to a sink. -/
def Sink.data (sink : Sink) : Bytes := sink.parts.reverse.flatten

/-- Write to the main output. -/
def State.write (s : State) (setting : Setting) (data : Bytes) (owesEnd : Bool) : State :=
  { s with main := s.main.add setting.ending data owesEnd }

/-- Bytes of some characters. -/
def bytes (cs : List Char) : Bytes := cs.map Text.Latin1.byte

/-- Write a line to the main output. -/
def State.print (s : State) (setting : Setting) (text : List Char) : State :=
  s.write setting (bytes text ++ (if s.ended then [setting.ending] else [])) !s.ended

/-- Write a line to a file. -/
def State.printTo (s : State) (setting : Setting) (path : String) (text : List Char) : State :=
  if path = "/dev/stdout" then s.print setting text
  else
    let data := bytes text ++ (if s.ended then [setting.ending] else [])
    let old := (s.sinks.lookup path).getD {}
    { s with
      sinks := (path, old.add setting.ending data !s.ended) :: s.sinks.filter (·.1 ≠ path) }

/-- Write what is queued. -/
def State.flush (s : State) (setting : Setting) : State :=
  let write (s : State) (item : Queued) : State :=
    match item with
    | .text text => s.write setting (bytesOf text) false
    | .file path => s.write setting ((setting.load path).getD []) false
  { s.queue.foldl write s with queue := [] }

/-! ### Lines -/

/-- Take the next line of the input. -/
def State.nextLine? (s : State) : Option (State × List Char) :=
  match s.input with
  | [] => none
  | line :: rest =>
    some ({ s with
      input := rest, number := s.number + 1, ended := line.ended, file := line.file }, line.text)

/-- The expression that is meant, which is then the last one used. -/
def State.use (s : State) (expression : Expression) : State × Option Expression :=
  match expression.regex with
  | some _ => ({ s with lastExpression := some expression }, some expression)
  | none => (s, s.lastExpression)

/-- The program fails. -/
def State.fail (s : State) (text : String) : State :=
  { s with outcome := some 1, fault := some text }

/-- The complaint that no expression has been used. -/
def noExpression : String := "no previous regular expression"

/-- The line in the buffer is picked by an address. -/
def State.isAt (s : State) (address : Address) : State × Bool :=
  match address with
  | .line n => (s, s.number == n)
  | .last => (s, s.input.isEmpty)
  | .every first step => (s, first ≤ s.number && (s.number - first) % step == 0)
  | .fitting expression =>
    match s.use expression with
    | (s, some { regex := some regex, ignoresCase }) =>
      let subject : Regex.Subject := { chars := s.buffer.toArray, ignoresCase }
      (s, (regex.search subject 0).isSome)
    | (s, _) => (s.fail noExpression, false)

/-- A range starts at this line: it is under way, unless it ends with the line. -/
def State.enter (s : State) (index : Nat) (extent : Extent) : State :=
  let until' (last : Nat) : State :=
    if last ≤ s.number then s else { s with ranges := (index, some last) :: s.ranges }
  match extent with
  | .later count => until' (s.number + count)
  | .multiple count =>
    if count = 0 then s else until' ((s.number + count - 1) / count * count)
  | .upTo (.line n) => until' n
  | .upTo .last => if s.input.isEmpty then s else { s with ranges := (index, none) :: s.ranges }
  | .upTo _ => { s with ranges := (index, none) :: s.ranges }

/-- A range does not go on after this line. -/
def State.leave (s : State) (index : Nat) : State :=
  { s with ranges := s.ranges.filter (·.1 ≠ index) }

/-- A step applies to the line in the buffer. -/
def State.selects (s : State) (index : Nat) (selection : Selection) : State × Bool :=
  let (s, holds) : State × Bool :=
    match selection.first, selection.extent with
    | none, _ => (s, true)
    | some first, none => s.isAt first
    | some first, some extent =>
      match s.ranges.lookup index with
      | none =>
        let (s, starts) := s.isAt first
        if starts then (s.enter index extent, true) else (s, false)
      | some (some last) =>
        if s.number < last then (s, true)
        else if s.number = last then (s.leave index, true)
        else (s.leave index).isAt first
      | some none =>
        match extent with
        | .upTo address =>
          let (s, ends) := s.isAt address
          (if ends then s.leave index else s, true)
        | _ => (s, true)
  (s, holds != selection.negated)

/-! ### Substitution -/

/-- The case that characters are written in: for all that follow, and for the next one. -/
structure Case where
  all : Option Bool := none
  one : Option Bool := none

/-- A character in some case, and the case for the next one. -/
def Case.apply (case : Case) (c : Char) : Char × Case :=
  let shift (upper : Bool) : Char := if upper then c.toUpper else c.toLower
  match case.one, case.all with
  | some upper, _ => (shift upper, { case with one := none })
  | none, some upper => (shift upper, case)
  | none, none => (c, case)

/-- The text of a replacement. -/
def replacement (m : Regex.Match) (subject : Regex.Subject) (pieces : List Piece) : List Char :=
  let put (state : Case × List Char) (c : Char) : Case × List Char :=
    let (c, case) := state.1.apply c
    (case, c :: state.2)
  let step (state : Case × List Char) (piece : Piece) : Case × List Char :=
    let (case, text) := state
    match piece with
    | .char c => put state c
    | .group n => (m.group subject n).foldl put state
    | .case 'L' => ({ all := some false }, text)
    | .case 'U' => ({ all := some true }, text)
    | .case 'l' => ({ case with one := some false }, text)
    | .case 'u' => ({ case with one := some true }, text)
    | .case _ => ({}, text)
  (pieces.foldl step ({}, [])).2.reverse

/-- Replace matches from a position on, given how many there have been and where the last one
ended.  The fuel counts positions. -/
def replaceFrom (regex : Regex) (subject : Regex.Subject) (s : Substitution) :
    Nat → Nat → Nat → Option Nat → List Char × Bool
  | 0, start, _, _ => ((subject.chars.extract start subject.chars.size).toList, false)
  | fuel + 1, start, count, last =>
    let slice (i j : Nat) : List Char := (subject.chars.extract i j).toList
    match regex.search subject start with
    | none => (slice start subject.chars.size, false)
    | some m =>
      let front := slice start m.start
      let isEmpty := m.start = m.finish
      if isEmpty ∧ last = some m.start then
        if subject.chars.size ≤ m.finish then (front, false)
        else
          let (text, done) := replaceFrom regex subject s fuel (m.finish + 1) count none
          (front ++ slice m.finish (m.finish + 1) ++ text, done)
      else
        let count := count + 1
        let isReplaced := s.first ≤ count
        let new := if isReplaced then replacement m subject s.pieces else slice m.start m.finish
        if isReplaced ∧ ¬s.all then (front ++ new ++ slice m.finish subject.chars.size, true)
        else if isEmpty ∧ subject.chars.size ≤ m.finish then (front ++ new, isReplaced)
        else
          let next := if isEmpty then m.finish + 1 else m.finish
          let (text, done) := replaceFrom regex subject s fuel next count (some m.finish)
          (front ++ new ++ slice m.finish next ++ text, isReplaced || done)

/-- Carry out a substitution. -/
def State.substitute (s : State) (setting : Setting) (substitution : Substitution) : State :=
  match s.use substitution.expression with
  | (s, some { regex := some regex, ignoresCase }) =>
    let subject : Regex.Subject := { chars := s.buffer.toArray, ignoresCase }
    let (text, done) :=
      replaceFrom regex subject substitution (subject.chars.size + 2) 0 0 none
    if ¬done then s
    else
      let s := { s with buffer := text, replaced := true }
      let s := if substitution.prints then s.print setting text else s
      match substitution.file with
      | some path => s.printTo setting path text
      | none => s
  | (s, _) => s.fail noExpression

/-! ### Steps -/

/-- A character as it is shown without doubt. -/
def plainly (c : Char) : List Char :=
  match [('\\', '\\'), ('\x07', 'a'), ('\x08', 'b'), ('\x0c', 'f'), ('\n', 'n'), ('\r', 'r'),
      ('\t', 't'), ('\x0b', 'v')].lookup c with
  | some letter => ['\\', letter]
  | none =>
    if ' ' ≤ c ∧ c ≤ '~' then [c]
    else
      let digits := Nat.toDigits 8 c.toNat
      '\\' :: (List.replicate (3 - digits.length) '0' ++ digits)

/-- A text as it is shown without doubt, in lines of some width. -/
def listing (text : List Char) : List Char :=
  let add (state : Nat × List Char) (c : Char) : Nat × List Char :=
    let shown := plainly c
    let (width, soFar) := state
    if 69 < width + shown.length then (shown.length, shown.reverse ++ '\n' :: '\\' :: soFar)
    else (width + shown.length, shown.reverse ++ soFar)
  (text.foldl add (0, [])).2.reverse ++ ['$', '\n']

/-- Where the program goes on after a step. -/
inductive After where
  | next
  | at (index : Nat)
  /-- The round ends; what is in the buffer is written unless it has been dropped. -/
  | round (drops : Bool)
  /-- The round starts again with what is in the buffer. -/
  | restart
  /-- The program ends. -/
  | over

/-- Carry out one of the commands that are a letter by themselves. -/
def State.plain (s : State) (setting : Setting) (letter : Char) : State × After :=
  let firstLine := s.buffer.takeWhile (· ≠ '\n')
  match letter with
  | 'd' => (s, .round true)
  | 'D' =>
    if s.buffer.contains '\n' then
      ({ s with buffer := s.buffer.drop (firstLine.length + 1) }, .restart)
    else (s, .round true)
  | 'p' => (s.print setting s.buffer, .next)
  | 'P' => (s.write setting (bytes firstLine ++ [setting.ending]) false, .next)
  | 'n' =>
    if s.input.isEmpty then (s, .over)
    else
      let s := (if setting.isQuiet then s else s.print setting s.buffer).flush setting
      match s.nextLine? with
      | some (s, text) => ({ s with buffer := text }, .next)
      | none => (s, .over)
  | 'N' =>
    let s := s.flush setting
    match s.nextLine? with
    | some (s, text) => ({ s with buffer := s.buffer ++ '\n' :: text }, .next)
    | none => (s, .over)
  | 'h' => ({ s with hold := s.buffer }, .next)
  | 'H' => ({ s with hold := s.hold ++ '\n' :: s.buffer }, .next)
  | 'g' => ({ s with buffer := s.hold }, .next)
  | 'G' => ({ s with buffer := s.buffer ++ '\n' :: s.hold }, .next)
  | 'x' => ({ s with buffer := s.hold, hold := s.buffer }, .next)
  | 'z' => ({ s with buffer := [] }, .next)
  | '=' => (s.write setting (lineOf (toString s.number)) false, .next)
  | 'l' => (s.write setting (bytes (listing s.buffer)) false, .next)
  | _ => (s.write setting (lineOf s.file) false, .next)

/-- Carry out a step. -/
def State.perform (s : State) (setting : Setting) (index : Nat) (step : Step) : State × After :=
  let target (label : Option String) : After :=
    match label with
    | none => .round false
    | some label =>
      let found := setting.program.steps.findIdx? fun step =>
        match step.instruction with
        | .label name => name == label
        | _ => false
      match found with
      | some index => .at index
      | none => .round false
  match step.instruction with
  | .block _ | .close | .label _ => (s, .next)
  | .jump kind label =>
    if kind = 'b' then (s, target label)
    else
      let taken := if kind = 't' then s.replaced else !s.replaced
      ({ s with replaced := false }, if taken then target label else .next)
  | .substitute substitution => (s.substitute setting substitution, .next)
  | .replaceChars pairs =>
    ({ s with buffer := s.buffer.map fun c => (pairs.lookup c).getD c }, .next)
  | .append text => ({ s with queue := s.queue ++ [.text text] }, .next)
  | .insert text => (s.write setting (bytesOf text) false, .next)
  | .change text =>
    let isOver := step.selection.negated || (s.ranges.lookup index).isNone
    (if isOver then s.write setting (bytesOf text) false else s, .round true)
  | .readFile path => ({ s with queue := s.queue ++ [.file path] }, .next)
  | .writeFile path => (s.printTo setting path s.buffer, .next)
  | .quit silently status =>
    let s := { s with outcome := some status }
    if silently then (s, .over)
    else ((if setting.isQuiet then s else s.print setting s.buffer).flush setting, .over)
  | .plain letter => s.plain setting letter

/-- End a round. -/
def State.endRound (s : State) (setting : Setting) (drops : Bool) : State :=
  (if drops || setting.isQuiet then s else s.print setting s.buffer).flush setting

/-- Carry out the program from a step on, up to the end of the input.  The fuel counts steps. -/
def go (setting : Setting) : Nat → Nat → State → State
  | 0, _, s => s
  | fuel + 1, index, s =>
    let nextRound (s : State) : State :=
      match s.nextLine? with
      | some (s, text) => go setting fuel 0 { s with buffer := text, replaced := false }
      | none => s
    match setting.program.steps[index]? with
    | none => nextRound (s.endRound setting false)
    | some step =>
      let (s, isSelected) := s.selects index step.selection
      if s.outcome.isSome then s
      else if ¬isSelected then
        match step.instruction with
        | .block after => go setting fuel after s
        | _ => go setting fuel (index + 1) s
      else
        let (s, after) := s.perform setting index step
        if s.fault.isSome then s
        else
          match after with
          | .next => go setting fuel (index + 1) s
          | .at index => go setting fuel index s
          | .round drops => nextRound (s.endRound setting drops)
          | .restart => go setting fuel 0 (s.endRound setting true)
          | .over => if s.outcome.isSome then s else s.endRound setting false

/-- Carry out a program on lines. -/
def run (setting : Setting) (s : State) : State :=
  let open' := setting.program.steps.toList.zipIdx.filterMap fun (step, index) =>
    match step.selection.first with
    | some (.line 0) => some (index, none)
    | _ => none
  let files := setting.program.steps.toList.filterMap fun step =>
    match step.instruction with
    | .writeFile path => some path
    | .substitute { file := some path, .. } => some path
    | _ => none
  let sinks := (files.filter fun path => path != "/dev/stdout" && (s.sinks.lookup path).isNone).map
    fun path => (path, ({} : Sink))
  let s := { s with ranges := open', sinks := s.sinks ++ sinks }
  match s.nextLine? with
  | some (s, text) => go setting maxRepetitions 0 { s with buffer := text }
  | none => s

/-- The lines of an input. -/
def linesOf (ending : UInt8) (file : String) (data : Bytes) : List Line :=
  (linesWithEnds ending data).map fun line =>
    let ended := endsLine ending line
    { text := (ofBytes (if ended then line.dropLast else line)).toList, ended, file }

end Editor

open Run

/-- A part of a program of the editor: given as an argument, or in a file. -/
structure EditorSource where
  file : Option String
  text : String

/-- Where in the parts of a program a position is, in words. -/
def editorPlace : List EditorSource → Nat → Nat → String
  | [], number, _ => "-e expression #" ++ toString number ++ ", char 0"
  | source :: rest, number, position =>
    let size := source.text.length
    if position ≤ size ∨ rest.isEmpty then
      match source.file with
      | none => "-e expression #" ++ toString number ++ ", char " ++ toString position
      | some path =>
        let line := (source.text.toList.take position).count '\n' + 1
        "file " ++ path ++ " line " ++ toString line
    else
      editorPlace rest (if source.file.isNone then number + 1 else number) (position - size - 1)

/-- The options of the editor. -/
def editorOptions : Known :=
  { plain := "nErszuP", valued := "efl"
    long := [("quiet", 'n'), ("silent", 'n'), ("regexp-extended", 'E'), ("expression", 'e'),
      ("file", 'f'), ("separate", 's'), ("null-data", 'z'), ("unbuffered", 'u'), ("posix", 'P'),
      ("line-length", 'l')] }

/-- The suffix of the copies that editing in place keeps, if an argument asks for that. -/
def inPlace? (argument : String) : Option String :=
  if argument = "--in-place" then some ""
  else if argument.startsWith "--in-place=" then some (argument.drop 11).toString
  else if argument.startsWith "-i" then some (argument.drop 2).toString
  else none

/-- Put contents into a file. -/
def store (path : String) (data : Bytes) : Run Unit := do
  if let .ok place := (← tree).resolveNew (← process).cwd (toText path) then
    setTree ((← tree).put place (.file data))

/-- Edit the lines of inputs. -/
def sed : Utility := fun arguments => do
  let suffix := arguments.findSome? inPlace?
  let arguments := arguments.filter fun text => (inPlace? text).isNone
  let size := arguments.foldl (fun n text => n + text.length + 1) 1
  match editorOptions.read size arguments {} with
  | .error text =>
    report text
    return 1
  | .ok given =>
    let mut sources : List EditorSource := []
    let mut names := given.operands
    for (c, value) in given.options do
      if c = 'e' then sources := sources ++ [⟨none, value⟩]
      if c = 'f' then
        match ← input value with
        | .ok data =>
          let data := if endsLine 10 data then data.dropLast else data
          sources := sources ++ [⟨some value, ofBytes data⟩]
        | .error (text, _) =>
          report ("couldn't open file " ++ value ++ ": " ++ text)
          return 4
    if sources.isEmpty then
      match names with
      | [] =>
        complain "Usage: sed [OPTION]... \x7bscript-only-if-no-other-script\x7d [input-file]..."
        return 1
      | script :: rest =>
        sources := [⟨none, script⟩]
        names := rest
    let extended := given.has 'E' || given.has 'r'
    match Editor.Program.read extended ("\n".intercalate (sources.map EditorSource.text)) with
    | .error (position, text) =>
      report (editorPlace sources 1 position ++ ": " ++ text)
      return 1
    | .ok program =>
      if let some label := program.missingLabel? then
        report ("can't find label for jump to \x60" ++ label ++ "'")
        return 4
      let ending : UInt8 := if given.has 'z' then 0 else 10
      let root := (← tree)
      let cwd := (← process).cwd
      let setting : Editor.Setting :=
        { program, isQuiet := given.has 'n' || program.isQuiet, ending,
          load := fun path => (root.load cwd (toText path)).toOption }
      let mut status := 0
      let mut groups : List (String × List Editor.Line) := []
      for name in (if names.isEmpty then ["-"] else names) do
        match ← input name with
        | .ok data => groups := groups ++ [(name, Editor.linesOf ending name data)]
        | .error (text, opened) =>
          if opened then
            if suffix.isSome then report ("couldn't edit " ++ name ++ ": not a regular file")
            else report ("read error on " ++ name ++ ": " ++ text)
            status := 4
          else
            report ("can't read " ++ name ++ ": " ++ text)
            status := if status = 0 then 2 else status
      if suffix.isNone ∧ ¬given.has 's' then groups := [("-", groups.flatMap Prod.snd)]
      let mut state : Editor.State := { input := [] }
      for (name, lines) in groups do
        if state.outcome.isNone then
          let main := if suffix.isSome then {} else state.main
          state := Editor.run setting
            { input := lines, hold := state.hold, sinks := state.sinks, main,
              lastExpression := state.lastExpression }
          if let some suffix := suffix then
            if suffix ≠ "" then
              if let .ok data := ← load name then store (name ++ suffix) data
            store name state.main.data
      if suffix.isNone then put state.main.data
      for (path, sink) in state.sinks do store path sink.data
      if let some text := state.fault then
        report ("-e expression #1, char 0: " ++ text)
      return match state.outcome with
        | some 0 | none => status
        | some outcome => outcome

end BootLayer.Shell.Utility
