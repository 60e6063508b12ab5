import BootLayer.Number.Double

/-!
The commands of the program and the options that all of them share.
-/

namespace BootLayer.CommandLine

/-- A command that asks one primitive. -/
inductive PrimitiveCommand where
  | join (parts : List String) (raw : Bool)
  | merge (target source : String)
  | number (text : String)
  | istype (value tag : String)
  | fpack (x : Double)
  | funpack (hex : String)
  | system (command : String)
  | load (path : String) (raw : Bool)
  | read (path : String)
  | save (path : String) (text hex : Option String)
  | argv
  deriving DecidableEq, Repr

/-- A command. -/
inductive Command where
  /-- Show the identity and the environment that it selects. -/
  | detect
  /-- Show the configuration, or a template for one. -/
  | config (template : Bool)
  | primitive (command : PrimitiveCommand)
  deriving DecidableEq, Repr

/-- A command with the options that apply to every command. -/
structure Invocation where
  config : Option String
  identity : Option String
  verbose : Bool
  command : Command
  deriving DecidableEq, Repr

end BootLayer.CommandLine
