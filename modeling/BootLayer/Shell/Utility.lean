import BootLayer.Shell.Utility.Dump
import BootLayer.Shell.Utility.Editor
import BootLayer.Shell.Utility.Expression
import BootLayer.Shell.Utility.Files
import BootLayer.Shell.Utility.Lines
import BootLayer.Shell.Utility.Produce
import BootLayer.Shell.Utility.Search
import BootLayer.Shell.Utility.Stream
import BootLayer.Shell.Utility.Translate
import BootLayer.Shell.Utility.Walk

/-!
The utilities, by name.
-/

namespace BootLayer.Shell.Utility

/-- The utilities that run no others. -/
def table : List (String × Utility) :=
  [("[", bracket), ("base64", base64), ("basename", basename), ("cat", cat), ("chmod", chmod),
    ("cmp", cmp),
    ("comm", comm), ("cp", cp), ("cut", cut), ("dirname", dirname), ("echo", echo),
    ("egrep", egrep), ("expr", expr), ("false", idle 1), ("fgrep", fgrep), ("fold", fold),
    ("grep", grep), ("head", head), ("ls", ls),
    ("mkdir", mkdir), ("mv", mv), ("nl", nl), ("od", od), ("paste", paste), ("printenv", printenv),
    ("printf", printf), ("pwd", pwd), ("readlink", readlink), ("realpath", realpath),
    ("rev", rev), ("rm", rm), ("rmdir", rmdir), ("sed", sed), ("seq", seq), ("sleep", sleep),
    ("sort", sort),
    ("tac", tac), ("tail", tail), ("tee", tee), ("test", test), ("touch", touch), ("tr", tr),
    ("true", idle 0), ("tty", tty), ("uname", uname), ("uniq", uniq), ("wc", wc), ("yes", yes)]

/-- The utilities that run commands, given how that is done. -/
def running (execute : Execute) : List (String × Utility) :=
  [("find", find execute), ("xargs", xargs execute)]

end BootLayer.Shell.Utility
