import BootLayer.CommandLine.Arguments
import BootLayer.CommandLine.Execute

/-!
The program as a process: its argument vector goes in, its exit status comes out, and what it
writes is appended to the two output channels of the world.
-/

namespace BootLayer.CommandLine

/-- The name and version of the program. -/
def versionLine : String := "tern 0.1.0"

/-- How the program is used. -/
def usageText : String :=
  "\n".intercalate
    ["Run the Tern bootstrap primitives from the command line",
      "",
      "Usage: tern [OPTIONS] <COMMAND>",
      "",
      "Commands: detect, config, join, merge, number, istype, fpack, funpack, system, load, read,",
      "save, argv, help",
      "",
      "Options: --config <CONFIG>, --identity <IDENTITY>, -v, --verbose, -h, --help, -V, --version",
      ""]

/-- Append text to the output. -/
def printOut (text : String) (world : World) : World :=
  { world with output := world.output ++ Text.Utf8.encode text }

/-- Append text to the error channel. -/
def printError (text : String) (world : World) : World :=
  { world with errors := world.errors ++ Text.Utf8.encode text }

/-- The status of a refused command line, and what is printed for it. -/
def refuse (usage : Usage) (world : World) : Nat × World :=
  match usage with
  | .displayHelp => (0, printOut usageText world)
  | .displayVersion => (0, printOut (versionLine ++ "\n") world)
  | _ => (2, printError usageText world)

/-- The status that a shell sees of a program that ends with an integer. -/
def exitStatus (status : Int32) : Nat := (status.toInt % 256).toNat

/-- Run the program with the argument vector of a world. -/
def runProcess (world : World) : Nat × World :=
  match readArguments (world.argv.drop 1) with
  | .error usage => refuse usage world
  | .ok invocation =>
    match execute invocation world with
    | (.ok (.text line), world) => (0, printOut (line ++ "\n") world)
    | (.ok (.bytes data), world) => (0, { world with output := world.output ++ data })
    | (.ok (.exit status), world) => (exitStatus status, world)
    | (.error failure, world) =>
      let words := failure.message world.wording
      (1, printError ((Style.ofWorld world).red "error:" ++ " " ++ words ++ "\n") world)

end BootLayer.CommandLine
