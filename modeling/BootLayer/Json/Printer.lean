import BootLayer.Json
import BootLayer.Number.Layout
import BootLayer.Value.Display

/-!
The compact text of a JSON document: no blanks, members in key order, and in strings only the
quote, the backslash and the controls escaped.
-/

namespace BootLayer.Json

/-- A character inside a string. -/
def escape (c : Char) : List Char :=
  if c = '"' then ['\\', '"']
  else if c = '\\' then ['\\', '\\']
  else if c = '\x08' then ['\\', 'b']
  else if c = '\x0c' then ['\\', 'f']
  else if c = '\n' then ['\\', 'n']
  else if c = '\r' then ['\\', 'r']
  else if c = '\t' then ['\\', 't']
  else if c.toNat < 0x20 then
    ['\\', 'u', '0', '0', Nat.digitChar (c.toNat / 16), Nat.digitChar (c.toNat % 16)]
  else [c]

/-- A string between quotes. -/
def stringText (text : String) : List Char := '"' :: (text.toList.flatMap escape ++ ['"'])

mutual

/-- The characters of a document. -/
def chars : Json → List Char
  | null => "null".toList
  | bool true => "true".toList
  | bool false => "false".toList
  | int n => (toString n.toInt).toList
  | nat n _ => (toString n.toNat).toList
  | num x _ => x.jsonText.toList
  | str s => stringText s
  | array l => '[' :: itemChars l ++ [']']
  | object m => '\x7b' :: memberChars m ++ ['\x7d']

/-- The items of an array, a comma between them. -/
def itemChars : List Json → List Char
  | [] => []
  | [j] => chars j
  | j :: k :: rest => chars j ++ ',' :: itemChars (k :: rest)

/-- The members of an object, a comma between them. -/
def memberChars {lo : Option String} : Entries Json lo → List Char
  | .nil => []
  | .cons k _ j .nil => stringText k ++ ':' :: chars j
  | .cons k _ j (.cons l h i rest) =>
    stringText k ++ ':' :: (chars j ++ ',' :: memberChars (.cons l h i rest))

end

/-- The compact text of a document. -/
def text (document : Json) : String := String.ofList document.chars

end BootLayer.Json
