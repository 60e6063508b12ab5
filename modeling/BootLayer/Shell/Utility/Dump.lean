import BootLayer.Shell.Utility.Basic

/-!
Utilities that show bytes in another notation: as numbers or names in rows, and in base sixty-four.
-/

namespace BootLayer.Shell.Utility

open Run

/-! ### Rows of numbers -/

namespace Dump

/-- How the units of a row are shown. -/
inductive Style where
  | chars
  | names
  | number (base : Nat) (signed : Bool) (size : Nat)
  deriving DecidableEq

/-- The names of the first characters. -/
def controlNames : List String :=
  ["nul", "soh", "stx", "etx", "eot", "enq", "ack", "bel", "bs", "ht", "nl", "vt", "ff", "cr", "so",
    "si", "dle", "dc1", "dc2", "dc3", "dc4", "nak", "syn", "etb", "can", "em", "sub", "esc", "fs",
    "gs", "rs", "us", "sp"]

/-- The digits of a number in a base. -/
def digits (base n : Nat) : String := String.ofList (Nat.toDigits base n)

/-- A number with zeros in front of it. -/
def padZeros (width : Nat) (text : String) : String :=
  String.ofList (List.replicate (width - text.length) '0') ++ text

/-- A byte as a character. -/
def charText (b : UInt8) : String :=
  match [(0, "\\0"), (7, "\\a"), (8, "\\b"), (9, "\\t"), (10, "\\n"), (11, "\\v"), (12, "\\f"),
      (13, "\\r")].lookup b.toNat with
  | some text => text
  | none =>
    if 32 ≤ b ∧ b < 127 then String.singleton (Char.ofNat b.toNat)
    else padZeros 3 (digits 8 b.toNat)

/-- A byte by its name; its top bit does not count. -/
def nameText (b : UInt8) : String :=
  let n := b.toNat % 128
  if n = 127 then "del" else (controlNames[n]?).getD (String.singleton (Char.ofNat n))

/-- How many bytes a unit has. -/
def Style.size : Style → Nat
  | chars | names => 1
  | number _ _ size => size

/-- How wide a unit is, without the blank in front of it. -/
def Style.width : Style → Nat
  | chars | names => 3
  | number base signed size =>
    let most := Nat.pow 256 size - 1
    if signed then (toString (Nat.pow 256 size / 2)).length + 1 else (digits base most).length

/-- A unit, its lowest byte first. -/
def Style.text : Style → Bytes → String
  | chars, data => charText (data.head?.getD 0)
  | names, data => nameText (data.head?.getD 0)
  | number base signed size, data =>
    let n := data.foldr (fun b n => n * 256 + b.toNat) 0
    let half := Nat.pow 256 size / 2
    if signed ∧ half ≤ n then "-" ++ toString (2 * half - n)
    else
      let text := digits base n
      if base = 10 then text
      else padZeros (digits base (Nat.pow 256 size - 1)).length text

/-- The groups of so many bytes.  The fuel counts bytes. -/
def chunks (size : Nat) : Nat → Bytes → List Bytes
  | 0, _ => []
  | _, [] => []
  | fuel + 1, data => data.take size :: chunks size fuel (data.drop size)

/-- Sizes by their letters. -/
def letterSizes : List (Char × Nat) := [('C', 1), ('S', 2), ('I', 4), ('L', 8)]

/-- Bases by their letters, and whether numbers have a sign. -/
def letterBases : List (Char × Nat × Bool) :=
  [('d', 10, true), ('o', 8, false), ('u', 10, false), ('x', 16, false)]

/-- The notations that a text asks for. -/
def notations? : Nat → List Char → Option (List Style)
  | 0, _ => none
  | _, [] => some []
  | fuel + 1, c :: rest =>
    if c = 'a' then (notations? fuel rest).map (.names :: ·)
    else if c = 'c' then (notations? fuel rest).map (.chars :: ·)
    else
      match letterBases.lookup c with
      | none => none
      | some (base, signed) =>
        let (size, rest) : Nat × List Char :=
          match rest with
          | d :: more =>
            if d.isDigit then (d.toNat - '0'.toNat, more)
            else
              match letterSizes.lookup d with
              | some size => (size, more)
              | none => (4, rest)
          | [] => (4, [])
        if [1, 2, 4, 8].contains size then
          (notations? fuel rest).map (.number base signed size :: ·)
        else none

/-- The notations that the letters of options stand for. -/
def letterNotation? (c : Char) (value : String) : Option (List Style) :=
  match c with
  | 'a' => some [.names]
  | 'b' => some [.number 8 false 1]
  | 'c' => some [.chars]
  | 'd' => some [.number 10 false 2]
  | 'h' => some [.number 16 false 2]
  | 'i' => some [.number 10 true 4]
  | 'l' => some [.number 10 true 8]
  | 'o' => some [.number 8 false 2]
  | 's' => some [.number 10 true 2]
  | 'x' => some [.number 16 false 2]
  | 't' => notations? (value.length + 1) value.toList
  | _ => some []

/-- An address in a row. -/
def address (base : Char) (n : Nat) : String :=
  match base with
  | 'd' => padZeros 7 (toString n)
  | 'x' => padZeros 6 (digits 16 n)
  | 'n' => ""
  | _ => padZeros 7 (digits 8 n)

/-- The lines for a row, the first with its address. -/
def rowLines (notations : List Style) (base : Char) (offset : Nat) (row : Bytes) :
    List String :=
  let perByte := (notations.map fun n => (n.width + 1 + n.size - 1) / n.size).foldl max 1
  let line (n : Style) : String :=
    let units := chunks n.size (row.length + 1) row
    String.join (units.map fun unit =>
      padLeft (max (n.width + 1) (if notations.length = 1 then 0 else perByte * n.size))
        (n.text unit))
  let start := address base offset
  let blank := String.ofList (List.replicate start.length ' ')
  notations.zipIdx.map fun (n, i) => (if i = 0 then start else blank) ++ line n

end Dump

/-- Show the bytes of inputs in rows. -/
def od : Utility :=
  let known : Known :=
    { plain := "abcdhilosxv", valued := "AjNtw"
      long := [("address-radix", 'A'), ("skip-bytes", 'j'), ("read-bytes", 'N'), ("format", 't'),
        ("output-duplicates", 'v'), ("width", 'w')] }
  withOptions known 1 fun given => do
    let asked := given.options.map fun (c, value) => (value, Dump.letterNotation? c value)
    match asked.find? (·.2.isNone) with
    | some (value, _) =>
      report ("invalid type string " ++ quoteWord value)
      return 1
    | none =>
      let notations := asked.flatMap fun (_, found) => found.getD []
      let notations := if notations.isEmpty then [.number 8 false 2] else notations
      let (found, status) ← inputs plainly given.operands
      let number (c : Char) : Option Nat := (given.value? c).bind count?
      let skipped := (number 'j').getD 0
      let width := (number 'w').getD 16
      let data := (found.flatMap Prod.snd).drop skipped
      let data := ((number 'N').map data.take).getD data
      let base := (((given.value? 'A').getD "o").toList.head?).getD 'o'
      let rows := Dump.chunks (max width 1) (data.length + 1) data
      let step (state : List String × Option Bytes × Bool × Nat) (row : Bytes) :
          List String × Option Bytes × Bool × Nat :=
        let (lines, last, starred, offset) := state
        let next := offset + row.length
        if last = some row ∧ ¬given.has 'v' ∧ row.length = width then
          (if starred then lines else "*" :: lines, last, true, next)
        else ((Dump.rowLines notations base offset row).reverse ++ lines, some row, false, next)
      let (lines, _, _, offset) := rows.foldl step ([], none, false, skipped)
      for line in lines.reverse do writeLine line
      if base ≠ 'n' ∧ ¬(found.isEmpty ∧ status ≠ 0) then writeLine (Dump.address base offset)
      return status

/-! ### Base sixty-four -/

namespace Base64

/-- The digits. -/
def alphabet : List Char :=
  "ABCDEFGHIJKLMNOPQRSTUVWXYZabcdefghijklmnopqrstuvwxyz0123456789+/".toList

/-- The digit with a value. -/
def digit (n : Nat) : Char := (alphabet[n % 64]?).getD 'A'

/-- Bytes in base sixty-four, three bytes to four digits. -/
def encode : Bytes → List Char
  | a :: b :: c :: rest =>
    let n := (a.toNat * 256 + b.toNat) * 256 + c.toNat
    digit (n / 262144) :: digit (n / 4096) :: digit (n / 64) :: digit n :: encode rest
  | [a, b] =>
    let n := (a.toNat * 256 + b.toNat) * 4
    [digit (n / 4096), digit (n / 64), digit n, '=']
  | [a] =>
    let n := a.toNat * 16
    [digit (n / 64), digit n, '=', '=']
  | [] => []

/-- Bytes from base sixty-four, and whether the text was whole. -/
def decode : List Char → Bytes × Bool
  | [] => ([], true)
  | a :: b :: c :: d :: rest =>
    let value (c : Char) : Option Nat := alphabet.findIdx? (· == c)
    let byte (n : Nat) : UInt8 := UInt8.ofNat (n % 256)
    match value a, value b, value c, value d with
    | some a, some b, some c, some d =>
      let n := ((a * 64 + b) * 64 + c) * 64 + d
      let (more, whole) := decode rest
      (byte (n / 65536) :: byte (n / 256) :: byte n :: more, whole)
    | some a, some b, some c, none =>
      let n := ((a * 64 + b) * 64 + c) * 64
      ([byte (n / 65536), byte (n / 256)], d == '=' && rest.isEmpty)
    | some a, some b, none, _ =>
      ([byte ((a * 64 + b) / 16)], c == '=' && d == '=' && rest.isEmpty)
    | _, _, _, _ => ([], false)
  | [a, b] =>
    match alphabet.findIdx? (· == a), alphabet.findIdx? (· == b) with
    | some a, some b => ([UInt8.ofNat ((a * 64 + b) / 16 % 256)], false)
    | _, _ => ([], false)
  | [a, b, c] =>
    match alphabet.findIdx? (· == a), alphabet.findIdx? (· == b), alphabet.findIdx? (· == c) with
    | some a, some b, some c =>
      let n := ((a * 64 + b) * 64 + c) * 64
      ([UInt8.ofNat (n / 65536 % 256), UInt8.ofNat (n / 256 % 256)], false)
    | _, _, _ => ([], false)
  | [_] => ([], false)

end Base64

/-- Write an input in base sixty-four, or read it back. -/
def base64 : Utility :=
  let known : Known :=
    { plain := "di", valued := "w"
      long := [("decode", 'd'), ("ignore-garbage", 'i'), ("wrap", 'w')] }
  withOptions known 1 fun given => do
    match given.operands with
    | _ :: extra :: _ =>
      misused ("extra operand " ++ quoteWord extra)
      return 1
    | operands =>
      let (found, status) ← inputs plainly operands
      let data := found.flatMap Prod.snd
      if status ≠ 0 then return status
      if given.has 'd' then
        let digits := (data.filter (· ≠ 10)).map fun b => Char.ofNat b.toNat
        let (bytes, whole) := Base64.decode digits
        put bytes
        if !whole then
          report "invalid input"
          return 1
        return 0
      let width := ((given.value? 'w').bind count?).getD 76
      let text := (Base64.encode data).map Text.Latin1.byte
      if width = 0 then put text
      else put ((Dump.chunks width (text.length + 1) text).flatMap (· ++ [10]))
      return 0

end BootLayer.Shell.Utility
