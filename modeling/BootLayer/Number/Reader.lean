import BootLayer.Error
import BootLayer.Number.Decimal
import BootLayer.Number.Hexadecimal
import BootLayer.Text.Blank

/-!
Text as a number.  Text that starts with `0x` is an integer in base sixteen, which has to round to
a finite double; any other text is a decimal numeral.  Blanks around the digits do not count, but
a blank before `0x` makes the text a decimal numeral, which it then is not.
-/

namespace BootLayer

/-- The double that a text denotes. -/
def readNumber (text : String) : Except ParseFault Double :=
  match text.toList with
  | '0' :: 'x' :: digits =>
    match Hexadecimal.readInt (Text.trim digits) with
    | none => .error (.badHexadecimal text)
    | some n =>
      let x := Double.ofInt n
      if x.isFinite then .ok x else .error (.hugeHexadecimal text)
  | cs =>
    let body := Text.trim cs
    if body = [] then .error (.blankDecimal text)
    else match Numeral.read body with
      | some numeral => .ok numeral.toDouble
      | none => .error (.badDecimal text)

end BootLayer
