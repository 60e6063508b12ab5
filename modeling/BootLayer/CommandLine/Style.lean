import BootLayer.World

/-!
Colours on a terminal.  They are left out as soon as the variable `NO_COLOR` is set, even to
nothing.
-/

namespace BootLayer.CommandLine

/-- Whether output is coloured. -/
structure Style where
  colored : Bool
  deriving DecidableEq, Repr

namespace Style

/-- The style that the variables of a world ask for. -/
def ofWorld (world : World) : Style := ⟨(world.setting? "NO_COLOR").isNone⟩

/-- A text in the colour of a code. -/
def paint (style : Style) (code text : String) : String :=
  if style.colored then "\x1b[" ++ code ++ "m" ++ text ++ "\x1b[0m" else text

/-- The mark of a success. -/
def green (style : Style) (text : String) : String := style.paint "32" text

/-- The mark of an error. -/
def red (style : Style) (text : String) : String := style.paint "31" text

/-- What a report is about. -/
def bold (style : Style) (text : String) : String := style.paint "1" text

/-- A label in a report. -/
def gray (style : Style) (text : String) : String := style.paint "90" text

end Style

end BootLayer.CommandLine
