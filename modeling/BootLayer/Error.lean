import BootLayer.Text.Latin1
import BootLayer.Text.Quoted
import BootLayer.Value

/-!
How a primitive fails.  There are five classes; within each a fault names its cause, and the words
of all messages are here.  A primitive set that is supplied from outside may report a fault of any
class in words of its own (`reported`).
-/

namespace BootLayer

/-- A text that is no number. -/
inductive ParseFault where
  /-- The digits after `0x` are no integer. -/
  | badHexadecimal (text : String)
  /-- The integer after `0x` is beyond every finite double. -/
  | hugeHexadecimal (text : String)
  /-- The text is no decimal number. -/
  | badDecimal (text : String)
  /-- The text is blank. -/
  | blankDecimal (text : String)
  | reported (words : String)
  deriving DecidableEq, Repr

/-- An argument of the wrong type or form. -/
inductive TypeFault where
  /-- A character above U+00FF in text that has to become bytes. -/
  | wideCharacter (wide : Text.Latin1.Wide)
  /-- A part to be joined is neither text nor bytes. -/
  | joinPart (index : Nat) (kind : Kind)
  /-- Only text, numbers and truth values become numbers. -/
  | noNumber (kind : Kind)
  /-- No tag has this name. -/
  | unknownTag (name : String)
  /-- Only maps and records can be merged into. -/
  | mergeTarget (kind : Kind)
  /-- Only maps and records can be merged from. -/
  | mergeSource (kind : Kind)
  /-- No primitive has this name. -/
  | unknownPrimitive (name : String)
  /-- A primitive was given the wrong number of arguments. -/
  | argumentCount (name : String) (takes given : Nat)
  /-- A primitive was given an argument of the wrong kind. -/
  | argumentKind (name expects : String) (kind : Kind)
  | reported (words : String)
  deriving DecidableEq, Repr

/-- A request that the operating system turned down, or data that is not what was asked for. -/
inductive IoFault where
  | notFound
  | notADirectory
  | isADirectory
  | nameTooLong
  /-- A path with a NUL in it. -/
  | nulInPath
  /-- A command with a NUL in it. -/
  | nulInCommand
  /-- A file that was read as text is not UTF-8. -/
  | notUtf8
  | reported (words : String)
  deriving DecidableEq, Repr

/-- The failure of a primitive. -/
inductive Error where
  | parse (fault : ParseFault)
  | type (fault : TypeFault)
  | size (expected actual : Nat)
  | io (fault : IoFault)
  /-- Reported by a self-hosted runtime, or by the lack of one. -/
  | runtime (words : String)
  deriving DecidableEq, Repr

/-! ### Words -/

/-- Text between single quotes, as it is. -/
def inTicks (text : String) : String := "'" ++ text ++ "'"

/-- What the readers of JSON and of TOML say of a text that they refuse, if they say anything.
Their words are their own; a message takes them as they are. -/
structure Wording where
  json : String → Option String := fun _ => none
  toml : String → Option String := fun _ => none

/-- A message with what a reader says after it. -/
def withWords (message : String) : Option String → String
  | some words => message ++ ": " ++ words
  | none => message

def ParseFault.message : ParseFault → String
  | badHexadecimal t => "invalid hexadecimal literal " ++ inTicks t
  | hugeHexadecimal t => "hexadecimal literal " ++ inTicks t ++ " is too large"
  | badDecimal t => "could not convert " ++ inTicks t ++ " to number: invalid float literal"
  | blankDecimal t =>
    "could not convert " ++ inTicks t ++ " to number: cannot parse float from empty string"
  | reported words => words

def TypeFault.message : TypeFault → String
  | wideCharacter wide =>
    "character " ++ Text.quoted wide.char ++ " at position " ++ toString wide.position ++
      " has no latin-1 encoding"
  | joinPart i kind =>
    "join element " ++ toString i ++ " must be bytes or string, got " ++ kind.name
  | noNumber kind => "cannot convert " ++ kind.name ++ " to number"
  | unknownTag name => "unrecognized type tag " ++ inTicks name
  | mergeTarget kind =>
    "merge target supports neither item nor attribute assignment: " ++ kind.name
  | mergeSource kind => "merge source must be a dict or record, got " ++ kind.name
  | unknownPrimitive name => "unknown builtin " ++ inTicks name
  | argumentCount name takes given =>
    name ++ "() takes " ++ toString takes ++ " argument(s), got " ++ toString given
  | argumentKind name expects kind => name ++ "() expects " ++ expects ++ ", got " ++ kind.name
  | reported words => words

def IoFault.message : IoFault → String
  | notFound => "No such file or directory (os error 2)"
  | notADirectory => "Not a directory (os error 20)"
  | isADirectory => "Is a directory (os error 21)"
  | nameTooLong => "File name too long (os error 36)"
  | nulInPath => "file name contained an unexpected NUL byte"
  | nulInCommand => "nul byte found in provided data"
  | notUtf8 => "stream did not contain valid UTF-8"
  | reported words => words

/-- What is shown to a user; only the first three classes name themselves. -/
def Error.message : Error → String
  | parse fault => "parse error: " ++ fault.message
  | type fault => "type error: " ++ fault.message
  | size expected actual =>
    "size error: expected " ++ toString expected ++ " bytes, got " ++ toString actual
  | io fault => fault.message
  | runtime words => words

end BootLayer
