import BootLayer.Shell.Utility.Basic

/-!
The utility that replaces, drops and squeezes characters.  It is told which ones by sets:
characters, ranges, classes and repetitions.
-/

namespace BootLayer.Shell.Utility

namespace Translate

open Run

/-- A part of a set. -/
inductive Part where
  | one (c : Char)
  | range (first last : Char)
  | named (name : String)
  /-- A character so many times, or as often as it takes. -/
  | repeated (c : Char) (count : Option Nat)
  deriving DecidableEq, Repr

/-- The characters of a text, with escapes replaced; each knows whether it was escaped.  The fuel
counts characters. -/
def unescape : Nat → List Char → List (Char × Bool)
  | 0, _ => []
  | _, [] => []
  | fuel + 1, '\\' :: c :: rest =>
    if Format.isOctal c then
      let digits := ((c :: rest).take 3).takeWhile Format.isOctal
      (Format.octal digits, true) :: unescape fuel ((c :: rest).drop digits.length)
    else
      let meant := if c = 'e' then 'e' else (Format.control? c).getD c
      (meant, true) :: unescape fuel rest
  | fuel + 1, c :: rest => (c, false) :: unescape fuel rest

/-- The characters of a class, in order. -/
def classChars (name : String) : List Char :=
  match Pattern.classes.lookup name with
  | some holds => ((List.range 256).map Char.ofNat).filter holds
  | none => []

/-- The number of a repetition: octal with a leading zero, and none if it is missing or zero. -/
def repetition? (digits : List Char) : Option (Option Nat) :=
  if digits.isEmpty then some none
  else
    match readInteger true digits with
    | some (n, []) => some (if n ≤ 0 then none else some n.toNat)
    | _ => none

/-- A bracketed part at the front of a set, and the rest. -/
def bracketed? (cs : List (Char × Bool)) : Option (Except String Part × List (Char × Bool)) :=
  let plain := cs.map fun (c, escaped) => if escaped then '\x00' else c
  match plain with
  | '[' :: ':' :: more =>
    let name := more.takeWhile Char.isAlpha
    match more.drop name.length with
    | ':' :: ']' :: _ =>
      let text := String.ofList name
      let part :=
        if (Pattern.classes.lookup text).isSome then Except.ok (Part.named text)
        else .error ("invalid character class " ++ quoteWord text)
      some (part, cs.drop (name.length + 4))
    | _ => none
  | '[' :: '=' :: _ :: '=' :: ']' :: _ =>
    match cs with
    | _ :: _ :: (c, _) :: rest => some (.ok (.one c), rest.drop 2)
    | _ => none
  | '[' :: _ :: '*' :: more =>
    let digits := more.takeWhile (· ≠ ']')
    match more.drop digits.length, repetition? digits, cs with
    | _ :: _, some count, _ :: (c, _) :: _ =>
      some (.ok (.repeated c count), cs.drop (digits.length + 4))
    | _, _, _ => none
  | _ => none

/-- The parts of a set.  The fuel counts characters. -/
def parts : Nat → List (Char × Bool) → Except String (List Part)
  | 0, _ => .ok []
  | _, [] => .ok []
  | fuel + 1, cs@((c, _) :: rest) => do
    match bracketed? cs with
    | some (part, rest) => return (← part) :: (← parts fuel rest)
    | none =>
      match rest with
      | ('-', false) :: (last, _) :: rest' =>
        if last < c then
          .error ("range-endpoints of " ++ quote (String.ofList [c, '-', last]) ++
            " are in reverse collating sequence order")
        else return .range c last :: (← parts fuel rest')
      | _ => return .one c :: (← parts fuel rest)

/-- The parts that a text names. -/
def read (text : String) : Except String (List Part) :=
  let cs := unescape text.length text.toList
  parts (cs.length + 1) cs

/-- The characters between two, these included. -/
def charRange (first last : Char) : List Char :=
  (List.range (last.toNat + 1 - first.toNat)).map fun i => Char.ofNat (first.toNat + i)

/-- The characters of a set; an open repetition fills it up to a size. -/
def expand (size : Nat) (set : List Part) : List Char :=
  let fixed : Nat := (set.map fun part =>
    match part with
    | .one _ => 1
    | .range first last => last.toNat + 1 - first.toNat
    | .named name => (classChars name).length
    | .repeated _ count => count.getD 0).foldl (· + ·) 0
  set.flatMap fun part =>
    match part with
    | .one c => [c]
    | .range first last => charRange first last
    | .named name => classChars name
    | .repeated c count => List.replicate (count.getD (size - fixed)) c

/-- All characters that are not in a set. -/
def complement (set : List Char) : List Char :=
  ((List.range 256).map Char.ofNat).filter fun c => !set.contains c

/-- Drop characters of a set that repeat the one before them. -/
def squeeze (set : List Char) : Option Char → List Char → List Char
  | _, [] => []
  | last, c :: rest =>
    if last = some c ∧ set.contains c then squeeze set last rest
    else c :: squeeze set (some c) rest

/-- Replace characters of one set by those of another. -/
def replace (source target : List Char) (c : Char) : Char :=
  match source.reverse.idxOf? c with
  | some i => (target[source.length - 1 - i]?.or target.getLast?).getD c
  | none => c

/-- Run the utility on sets. -/
def translate (given : Given) (first : String) (second : Option String) : Except String
    (List Char → List Char) := do
  let set1 ← read first
  let set1 := expand 0 set1
  let set1 := if given.has 'c' then complement set1 else set1
  let isDeleting := given.has 'd'
  let isSqueezing := given.has 's'
  match second with
  | none =>
    if isDeleting then return fun cs => cs.filter fun c => !set1.contains c
    else return squeeze set1 none
  | some second =>
    let set2 := expand set1.length (← read second)
    if isDeleting then return fun cs => squeeze set2 none (cs.filter fun c => !set1.contains c)
    else
      if set2.isEmpty ∧ ¬set1.isEmpty ∧ ¬given.has 't' then
        .error "when not truncating set1, string2 must be non-empty"
      let set1 := if given.has 't' then set1.take set2.length else set1
      let replaced (cs : List Char) : List Char := cs.map (replace set1 set2)
      return fun cs => if isSqueezing then squeeze set2 none (replaced cs) else replaced cs

/-- The options of the utility. -/
def known : Known :=
  { plain := "cCdst"
    long := [("complement", 'c'), ("delete", 'd'), ("squeeze-repeats", 's'),
      ("truncate-set1", 't')]
    mixed := false }

end Translate

open Run

/-- Replace, drop or squeeze characters. -/
def tr : Utility :=
  withOptions Translate.known 1 fun given => do
    let given :=
      { given with options := given.options.map fun (c, v) => (if c = 'C' then 'c' else c, v) }
    let isDeleting := given.has 'd'
    let isSqueezing := given.has 's'
    let least := if isDeleting = isSqueezing then 2 else 1
    let most := if isDeleting ∧ ¬isSqueezing then 1 else 2
    let misuse (text : String) (note : String) : Run Nat := do
      report text
      if note ≠ "" then complain note
      complain ("Try '" ++ (← process).program ++ " --help' for more information.")
      return 1
    match given.operands with
    | [] => missingOperand 1
    | first :: others =>
      if given.operands.length < least then
        misuse ("missing operand after " ++ quoteWord first)
          (if isDeleting then
            "Two strings must be given when both deleting and squeezing repeats."
          else "Two strings must be given when translating.")
      else if most < given.operands.length then
        misuse ("extra operand " ++ quoteWord (given.operands[most]?.getD ""))
          (if most = 1 ∧ given.operands.length = 2 then
            "Only one string may be given when deleting without squeezing repeats."
          else "")
      else
        for set in first :: others do
          if (set.toList.reverse.takeWhile (· = '\\')).length % 2 = 1 then
            report "warning: an unescaped backslash at end of string is not portable"
        match Translate.translate given first others.head? with
        | .error text =>
          report text
          return 1
        | .ok change =>
          match ← readAll 0 with
          | some data =>
            write (String.ofList (change (ofBytes data).toList))
            return 0
          | none =>
            report ("read error: " ++ (← unreadable 0))
            return 1

end BootLayer.Shell.Utility
