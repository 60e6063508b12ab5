/-!
Which of the two environments a program runs in.  The runtime names itself by an identity text;
one that contains the marker of the self-hosted runtime selects it, and every other one selects
the host.
-/

namespace BootLayer

/-- Where primitives are carried out for the life of a program. -/
inductive Environment where
  | host
  | selfHosted
  deriving DecidableEq, Repr

namespace Environment

/-- The name of an environment. -/
def name : Environment → String
  | host => "host"
  | selfHosted => "self-hosted"

/-- The first text occurs in the second. -/
def occursIn (marker : List Char) : List Char → Bool
  | [] => marker == []
  | c :: rest => marker.isPrefixOf (c :: rest) || occursIn marker rest

/-- The environment that an identity selects.  An empty marker never occurs. -/
def detect (identity marker : String) : Environment :=
  if marker ≠ "" ∧ occursIn marker.toList identity.toList then selfHosted else host

end Environment

/-- The marker of the self-hosted runtime, unless configured otherwise. -/
def defaultMarker : String := "tern-vm"

/-- The identity when nothing else names the runtime. -/
def hostIdentity : String := "tern-host 0.1.0 (rust)"

end BootLayer
