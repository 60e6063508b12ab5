import BootLayer.Shell.Name

/-!
Signals: their numbers, names and descriptions, and what they do to a process that has made no
arrangements for them.
-/

namespace BootLayer.Shell.Signal

/-- The signals with a name of their own, as they are numbered, and what is said of a process that
one of them has ended. -/
def table : List (Nat × String × String) :=
  [(1, "HUP", "Hangup"), (2, "INT", "Interrupt"), (3, "QUIT", "Quit"),
    (4, "ILL", "Illegal instruction"), (5, "TRAP", "Trace/breakpoint trap"), (6, "ABRT", "Aborted"),
    (7, "BUS", "Bus error"), (8, "FPE", "Floating point exception"), (9, "KILL", "Killed"),
    (10, "USR1", "User defined signal 1"), (11, "SEGV", "Segmentation fault"),
    (12, "USR2", "User defined signal 2"), (13, "PIPE", "Broken pipe"), (14, "ALRM", "Alarm clock"),
    (15, "TERM", "Terminated"), (16, "16", "Stack fault"), (17, "CHLD", "Child exited"),
    (18, "CONT", "Continued"), (19, "STOP", "Stopped (signal)"), (20, "TSTP", "Stopped"),
    (21, "TTIN", "Stopped (tty input)"), (22, "TTOU", "Stopped (tty output)"),
    (23, "URG", "Urgent I/O condition"), (24, "XCPU", "CPU time limit exceeded"),
    (25, "XFSZ", "File size limit exceeded"), (26, "VTALRM", "Virtual timer expired"),
    (27, "PROF", "Profiling timer expired"), (28, "WINCH", "Window changed"),
    (29, "IO", "I/O possible"), (30, "PWR", "Power failure"), (31, "SYS", "Bad system call")]

/-- The greatest number of a signal. -/
def last : Nat := 64

/-- The name of a signal. -/
def name (signal : Nat) : String :=
  match table.lookup signal with
  | some (name, _) => name
  | none =>
    if signal = 0 ∨ signal = 32 ∨ signal = 33 then toString signal
    else if signal = 34 then "RTMIN"
    else if signal < 50 then "RTMIN+" ++ toString (signal - 34)
    else if signal < last then "RTMAX-" ++ toString (last - signal)
    else "RTMAX"

/-- What is said of a process that a signal has ended. -/
def description (signal : Nat) : String :=
  match table.lookup signal with
  | some (_, text) => text
  | none => "Real-time signal " ++ toString (signal - 34)

/-- The signal with a name, whatever its case. -/
def ofName? (text : String) : Option Nat :=
  (List.range (last + 1)).find? fun n => n ≠ 0 ∧ name n = text.map Char.toUpper

/-- The signal of a number or a name. -/
def ofText? (text : String) : Option Nat :=
  if text ≠ "" ∧ text.toList.all Char.isDigit then
    let n := text.toList.foldl (fun n c => n * 10 + (c.toNat - '0'.toNat)) 0
    if n ≤ last then some n else none
  else ofName? text

/-- A process takes no notice of these signals: none at all, and those about its children, its
connections and its window. -/
def isHarmless (signal : Nat) : Bool := [0, 17, 18, 23, 28].contains signal

/-- No word is said of a process that one of these has ended. -/
def isQuiet (signal : Nat) : Bool := signal == 2 || signal == 13

end BootLayer.Shell.Signal
