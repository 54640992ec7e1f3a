import Linkage.Text.CaseTable
import Linkage.Text.Ranges

/-!
Text in small letters, for all of Unicode. A capital sigma becomes a final sigma at the end of a
word.
-/
namespace Linkage.Text

/-- What a capital letter becomes, wherever it stands. Any other character stays. -/
def lowerChar (c : Char) : List Char :=
  let n := c.toNat
  if n = 0x130 then ['i', Char.ofNat 0x307]
  else
    match caseRuns.find? fun r => r.first ≤ n && n ≤ r.last && (n - r.first) % r.step == 0 with
    | some r => [Char.ofNat (n + r.offset).toNat]
    | none => [c]

/-- Whether the first character that is not passed over has case. -/
def casedAhead (text : List Char) : Bool :=
  match text.dropWhile fun c => inRanges caseIgnorableRanges c.toNat with
  | c :: _ => inRanges casedRanges c.toNat
  | [] => false

/-- The capital sigma, and what it becomes at the end of a word. -/
def capitalSigma : Char := Char.ofNat 0x3A3
def finalSigma : Char := Char.ofNat 0x3C2

/-- The text in small letters, after the characters `before`, nearest first. -/
def lowerAfter (before : List Char) : List Char → List Char
  | [] => []
  | c :: rest =>
    let small :=
      if c = capitalSigma && casedAhead before && !casedAhead rest then [finalSigma]
      else lowerChar c
    small ++ lowerAfter (c :: before) rest

/-- The text in small letters. -/
def lower (text : List Char) : List Char := lowerAfter [] text

end Linkage.Text
