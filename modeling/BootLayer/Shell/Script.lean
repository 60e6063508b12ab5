/-!
The parts of a shell script: words, redirections and commands.  A word is a list of pieces: text,
parameters, the output of commands and arithmetic.  A piece keeps whether it was quoted, because an
unquoted one is split into fields and matched against file names later and a quoted one is not.
-/

namespace BootLayer.Shell

/-- What is done with the value of a parameter. -/
inductive Operation where
  /-- The value as it is. -/
  | value
  /-- The number of its bytes. -/
  | length
  /-- A word in place of a value that is missing, or with `orEmpty` also of an empty one. -/
  | default (orEmpty : Bool)
  /-- The same, and the word becomes the value. -/
  | assign (orEmpty : Bool)
  /-- An error with the word as its message. -/
  | demand (orEmpty : Bool)
  /-- A word in place of a value that is there. -/
  | alternative (orEmpty : Bool)
  /-- The value without the shortest or longest part, at its front or end, that a pattern fits. -/
  | trim (atEnd longest : Bool)
  /-- No operation that there is. -/
  | bad
  deriving DecidableEq, Repr

/-- How a file is opened by a redirection. -/
inductive Mode where
  | read
  | write
  /-- Written even where existing files are protected. -/
  | overwrite
  | append
  | readWrite
  deriving DecidableEq, Repr

mutual

/-- A piece of a word. -/
inductive Piece where
  | text (chars : List Char) (quoted : Bool)
  /-- Here stands a quotation, though there may be nothing in it. -/
  | mark
  | parameter (name : String) (operation : Operation) (word : List Piece) (quoted : Bool)
  /-- The output of a command. -/
  | output (command : Command) (quoted : Bool)
  | arithmetic (expression : List Piece) (quoted : Bool)

/-- A redirection of a descriptor. -/
inductive Redirect where
  | file (descriptor : Nat) (mode : Mode) (target : List Piece)
  /-- To where another descriptor leads. -/
  | duplicate (descriptor : Nat) (target : List Piece)
  /-- To the text of a document in the script, by its number. -/
  | document (descriptor : Nat) (number : Nat)

/-- A command. -/
inductive Command where
  /-- Assignments, the words of a call and redirections, on a line of the script. -/
  | simple (line : Nat) (assignments : List (String × List Piece)) (words : List (List Piece))
      (redirects : List Redirect)
  | pipe (parts : List Command)
  | negated (body : Command)
  | both (first second : Command)
  | either (first second : Command)
  | sequence (first second : Command)
  /-- Not waited for. -/
  | background (body : Command)
  | subshell (line : Nat) (body : Command) (redirects : List Redirect)
  | redirected (line : Nat) (body : Command) (redirects : List Redirect)
  | conditional (test yes : Command) (no : Option Command)
  /-- Repeated while the test succeeds, or until it does. -/
  | loop (isUntil : Bool) (test body : Command)
  /-- Repeated for each field of some words, under a name. -/
  | each (line : Nat) (name : String) (words : List (List Piece)) (body : Command)
  /-- The first branch with a pattern that fits the subject. -/
  | choice (line : Nat) (subject : List Piece)
      (branches : List (List (List Piece) × Option Command))
  /-- The definition of a function. -/
  | define (name : String) (body : Command)

end

/-- A word of a script. -/
abbrev Word : Type := List Piece

/-- Put text in front of a word. -/
def Word.prepend (c : Char) (quoted : Bool) : Word → Word
  | .text chars q :: rest =>
    if q = quoted then .text (c :: chars) q :: rest else .text [c] quoted :: .text chars q :: rest
  | rest => .text [c] quoted :: rest

/-- The text of a word without any quoting and without anything to expand. -/
def Word.plain? : Word → Option (List Char)
  | [] => some []
  | .text chars false :: rest => (plain? rest).map (chars ++ ·)
  | _ :: _ => none

/-- The text of a word after quotes are removed; what would be expanded is left out. -/
def Word.unquoted : Word → List Char
  | [] => []
  | .text chars _ :: rest => chars ++ unquoted rest
  | _ :: rest => unquoted rest

end BootLayer.Shell
