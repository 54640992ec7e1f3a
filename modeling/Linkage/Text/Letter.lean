import Linkage.Text.LetterTable
import Linkage.Text.Ranges

/-!
Letters and numbers of all scripts.
-/
namespace Linkage.Text

/-- Whether letters are written with a character. -/
def isAlphabetic (c : Char) : Bool := inRanges alphabeticRanges c.toNat

/-- Whether letters or numbers are written with a character. -/
def isAlphanumeric (c : Char) : Bool := isAlphabetic c || inRanges numericRanges c.toNat

end Linkage.Text
