import Linkage.Text.Blank
import Linkage.Text.Numeral
import Linkage.Text.Parts

/-!
The feature release in a Java version string, such as 17 in `17.0.2` and 8 in `1.8.0_392`.
-/
namespace Linkage.JavaVersion

/-- The text without the mark of early-access builds. -/
def dropEarlyAccess : List Char → List Char
  | '-' :: 'e' :: 'a' :: rest => dropEarlyAccess rest
  | c :: rest => c :: dropEarlyAccess rest
  | [] => []

/-- Whether a character ends a part of a version string. -/
def isMark (c : Char) : Bool := c == '.' || c == '_' || c == '+' || c == '-'

/-- The feature release: the first number, or the second if the first is 1. White space and quotes
around the string do not count. -/
def feature? (text : String) : Option Nat :=
  let bare := Text.trimWhile (· == '"') (Text.trim text.toList)
  match Text.splitAll isMark (dropEarlyAccess bare) with
  | [] => none
  | first :: rest =>
    if first = ['1'] then rest.head?.bind (Text.numeral? Text.bound32)
    else Text.numeral? Text.bound32 first

end Linkage.JavaVersion
