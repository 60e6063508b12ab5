import BootLayer.Config
import BootLayer.Host
import BootLayer.Primitives.Request

/-!
A handle binds the primitives of one environment: those of the host with a shell, or those of the
object that a self-hosted runtime supplies, to which every request is passed on.  The state of such
an object stands beside the world.
-/

namespace BootLayer

/-- The primitives that a program uses, with the state `ι` of a supplied object. -/
inductive Handle (ι : Type) where
  | hostBy (shell : Shell.Runner)
  | selfHosted (supplied : Primitives (World × ι))

namespace Handle

variable {ι : Type}

/-- The host with the shell of the system. -/
abbrev host : Handle ι := hostBy Shell.execute

/-- The environment of a handle. -/
def environment : Handle ι → Environment
  | hostBy _ => .host
  | selfHosted _ => .selfHosted

/-- The primitives of a handle. -/
def primitives : Handle ι → Primitives (World × ι)
  | hostBy shell => (Host.primitivesBy shell).onFirst
  | selfHosted supplied => supplied.forward

/-- The handle as a set of primitives of its own, which can be supplied in turn: every request is
passed on to the primitives that it binds. -/
def object (handle : Handle ι) : Primitives (World × ι) := handle.primitives.forward

/-- Call a primitive by name. -/
def call (handle : Handle ι) (name : String) (args : List Value) : Action (World × ι) Value :=
  handle.primitives.call name args

/-- A self-hosted environment without an object that carries out its primitives. -/
def noObject : Error :=
  .runtime "self-hosted runtime detected but no builtins object was supplied"

/-- The handle for an environment, the host with a shell.  The host needs no supplied object and
ignores one. -/
def select (environment : Environment) (supplied : Option (Primitives (World × ι)))
    (shell : Shell.Runner := Shell.execute) : Except Error (Handle ι) :=
  match environment, supplied with
  | .host, _ => .ok (hostBy shell)
  | .selfHosted, some object => .ok (selfHosted object)
  | .selfHosted, none => .error noObject

/-- The variable of the environment that names the runtime. -/
def identityVariable : String := "TERN_RUNTIME_IDENTITY"

/-- The identity that counts in a world. -/
def identityIn (world : World) (config : Config) (explicit : Option String) : String :=
  config.resolveIdentity explicit (world.setting? identityVariable)

/-- The environment that counts in a world. -/
def environmentIn (world : World) (config : Config) (explicit : Option String) : Environment :=
  Environment.detect (identityIn world config explicit) config.marker

/-- The handle for the environment that counts in a world, the host with a shell. -/
def bootstrap (world : World) (config : Config) (explicit : Option String)
    (supplied : Option (Primitives (World × ι))) (shell : Shell.Runner := Shell.execute) :
    Except Error (Handle ι) :=
  select (environmentIn world config explicit) supplied shell

end Handle

end BootLayer
