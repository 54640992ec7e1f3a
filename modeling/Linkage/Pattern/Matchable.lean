import Linkage.Pattern.Reader

/-!
Which patterns texts can be matched with. Nothing is known about characters beyond ASCII, so that a
pattern about all characters cannot ask for a kind of characters or leave the case open; a pattern
about bytes can, but must not fit a part of a character.
-/
namespace Linkage.Pattern

/-- How a part of a pattern is meant: about characters or bytes, and in one case or in any. -/
structure Mode where
  unicode : Bool
  anyCase : Bool
  deriving DecidableEq, Repr

namespace Mode

/-- How a pattern is meant at its start. -/
def initial : Mode := ⟨true, false⟩

/-- The mode with flags switched. -/
def switched (m : Mode) (switches : Switches) : Mode :=
  ⟨(switches.get? .unicode).getD m.unicode, (switches.get? .anyCase).getD m.anyCase⟩

end Mode

namespace Letter

/-- Whether a letter is a byte that is no character. -/
def isPartOfCharacter (l : Letter) : Bool := l.isByte && 0x80 ≤ l.char.toNat

/-- Whether texts can be matched with a letter by itself. -/
def isMatchable (m : Mode) (l : Letter) : Bool :=
  if m.unicode then !m.anyCase
  else !l.isPartOfCharacter && (!m.anyCase || l.char.toNat < 0x80)

/-- Whether texts can be matched with a letter in a class. -/
def isMatchableInClass (m : Mode) (l : Letter) : Bool :=
  if m.unicode then !m.anyCase else l.char.toNat < 0x80

end Letter

/-- Whether texts can be matched with a class that has a letter of its own. -/
def isMatchableShort (m : Mode) (negated : Bool) : Bool := !m.unicode && !negated

mutual
/-- Whether texts can be matched with a member of a class. -/
def ClassItem.isMatchable (m : Mode) : ClassItem → Bool
  | .letter l => l.isMatchableInClass m
  | .range first last => first.isMatchableInClass m && last.isMatchableInClass m
  | .short _ negated => isMatchableShort m negated
  | .named _ negated => if m.unicode then !m.anyCase else !negated
  | .nested negated inside => (m.unicode || !negated) && inside.isMatchable m
/-- Whether texts can be matched with a class. -/
def ClassSet.isMatchable (m : Mode) : ClassSet → Bool
  | .union items => areMatchableItems m items
  | .combined _ left right => left.isMatchable m && right.isMatchable m
/-- Whether texts can be matched with the members of a class. -/
def areMatchableItems (m : Mode) : List ClassItem → Bool
  | [] => true
  | item :: rest => item.isMatchable m && areMatchableItems m rest
end

mutual
/-- The mode behind a part of a pattern, if texts can be matched with the part. -/
def Part.modeBehind? (m : Mode) : Part → Option Mode
  | .letter l => if l.isMatchable m then some m else none
  | .any => if m.unicode then some m else none
  | .place p => if p.isAboutWords && m.unicode then none else some m
  | .short _ negated => if isMatchableShort m negated then some m else none
  | .oneOf negated inside =>
    if (m.unicode || !negated) && inside.isMatchable m then some m else none
  | .switch switches => some (m.switched switches)
  | .repeated p => p.modeBehind? m
  | .group switches branches => (modeBehindBranches? (m.switched switches) branches).map fun _ => m
/-- The mode behind the parts of a branch. -/
def modeBehindParts? (m : Mode) : List Part → Option Mode
  | [] => some m
  | p :: rest => (p.modeBehind? m).bind fun m => modeBehindParts? m rest
/-- The mode behind branches: switches last from one branch to the next. -/
def modeBehindBranches? (m : Mode) : List (List Part) → Option Mode
  | [] => some m
  | branch :: rest => (modeBehindParts? m branch).bind fun m => modeBehindBranches? m rest
end

/-- Whether a text is a pattern that texts can be matched with. -/
def isPattern (text : List Char) : Bool :=
  match read? text with
  | some branches =>
    depthOfAll (branchDepths branches) ≤ depthLimit &&
      (modeBehindBranches? .initial branches).isSome
  | none => false

end Linkage.Pattern
