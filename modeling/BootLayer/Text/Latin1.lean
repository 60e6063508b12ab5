import BootLayer.Text.Utf8

/-!
Text with one byte a character.  Characters up to U+00FF have such a byte; the first one above it
stops the encoding, and is reported with its position counted in characters.
-/

namespace BootLayer.Text.Latin1

/-- A character without a single-byte form, and where it stands in the text. -/
structure Wide where
  char : Char
  position : Nat
  deriving DecidableEq, Repr

/-- The character has a single-byte form. -/
def isNarrow (c : Char) : Bool := c.toNat ≤ 0xFF

/-- The byte of a narrow character. -/
def byte (c : Char) : UInt8 := c.toNat.toUInt8

/-- Append the bytes of the characters before the first wide one, and report that one. -/
def encodeInto (buffer : Bytes) (text : String) : Bytes × Option Wide :=
  let narrow := text.toList.takeWhile isNarrow
  let wide := (text.toList.dropWhile isNarrow).head?
  (buffer ++ narrow.map byte, wide.map fun c => ⟨c, narrow.length⟩)

/-- The bytes of a text, one a character. -/
def encode (text : String) : Except Wide Bytes :=
  match encodeInto [] text with
  | (bytes, none) => .ok bytes
  | (_, some wide) => .error wide

/-- The text with these bytes, one a character. -/
def decode (bytes : Bytes) : String := String.ofList (bytes.map fun b => Char.ofNat b.toNat)

end BootLayer.Text.Latin1
