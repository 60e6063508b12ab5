import BootLayer.Shell.Session

/-!
Redirections: where descriptors are made to lead, and why a file cannot be opened.  The paths have
been expanded already; how a document is expanded is a parameter.
-/

namespace BootLayer.Shell

open Run

/-- A redirection whose target is known. -/
inductive Redirection where
  | file (descriptor : Nat) (mode : Mode) (path : String)
  /-- To where another descriptor leads, or to nowhere. -/
  | duplicate (descriptor : Nat) (source : Option Nat)
  /-- To a text that can be read, which is expanded when the redirection is carried out. -/
  | document (descriptor : Nat) (word : Word)

namespace Redirection

/-- The descriptor that a path in the directory of devices stands for. -/
def device? (path : String) : Option Nat :=
  match path with
  | "/dev/stdin" => some 0
  | "/dev/stdout" => some 1
  | "/dev/stderr" => some 2
  | path =>
    match path.splitToList (· = '/') with
    | ["", "dev", "fd", digits] | ["", "proc", "self", "fd", digits] => count? digits
    | _ => none

/-- Why a file cannot be opened; `missing` is said of one that is not there. -/
def reason (missing : String) : IoFault → String
  | .notFound | .notADirectory => missing
  | .isADirectory => "Is a directory"
  | .nameTooLong => "File name too long"
  | _ => "Invalid argument"

/-- The stream of an opened file, or what is wrong. -/
def openFile (mode : Mode) (path : String) : Run (Except String Stream) := do
  let tree ← tree
  let cwd := (← process).cwd
  let real := toText path
  match mode with
  | .read =>
    match tree.resolve cwd real with
    | .ok place =>
      match tree.at? place with
      | some .null => return .ok .null
      | some _ => return .ok (.file place 0 mode)
      | none => return .error ("cannot open " ++ path ++ ": No such file")
    | .error fault => return .error ("cannot open " ++ path ++ ": " ++ reason "No such file" fault)
  | _ =>
    let refuse (text : String) : Run (Except String Stream) :=
      return .error ("cannot create " ++ path ++ ": " ++ text)
    match tree.resolveNew cwd real with
    | .error fault => refuse (reason "Directory nonexistent" fault)
    | .ok place =>
      match tree.at? place, mode with
      | some .null, _ => return .ok .null
      | some (.file _), .append | some (.file _), .readWrite => return .ok (.file place 0 mode)
      | old, _ =>
        if old.isSome ∧ mode = .write ∧ (← isOn 'C') then refuse "File exists"
        else
          setTree (tree.put place (.file []))
          return .ok (.file place 0 mode)

/-- Carry out a redirection, or say what is wrong, unless that has been said already. -/
def apply (expand : Word → Run String) (redirection : Redirection) :
    Run (Except (Option String) Unit) := do
  match redirection with
  | .duplicate descriptor none =>
    connect descriptor none
    return .ok ()
  | .duplicate descriptor (some source) =>
    match (← process).descriptors.lookup source with
    | some index =>
      connect descriptor (some index)
      return .ok ()
    | none => return .error (some (toString source ++ ": Bad file descriptor"))
  | .document descriptor word =>
    match ← attempt (expand word) with
    | .ok contents =>
      connect descriptor (some (← addStream (.pipe (bytesOf contents))))
      return .ok ()
    | .error .failed => return .error none
    | .error other => throw other
  | .file descriptor mode path =>
    match device? path with
    | some source =>
      match (← process).descriptors.lookup source with
      | some index =>
        connect descriptor (some index)
        return .ok ()
      | none =>
        let verb := if mode = .read then "cannot open " else "cannot create "
        let missing := if mode = .read then "No such file" else "Directory nonexistent"
        return .error (some (verb ++ path ++ ": " ++ missing))
    | none =>
      match ← openFile mode path with
      | .ok stream =>
        connect descriptor (some (← addStream stream))
        return .ok ()
      | .error text => return .error (some text)

/-- Carry out redirections up to the first that is turned down.  A complaint is made, and the status
is that of a failure. -/
def applyAll (expand : Word → Run String) : List Redirection → Run Bool
  | [] => return true
  | first :: rest => do
    match ← apply expand first with
    | .ok () => applyAll expand rest
    | .error text =>
      if let some text := text then warn text
      setStatus 2
      return false

end Redirection

end BootLayer.Shell
