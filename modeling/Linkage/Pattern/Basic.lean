/-!
Patterns that texts are matched with: characters, classes of characters, places in the text, groups
and repetitions. A pattern nests to a bounded depth.
-/
namespace Linkage.Pattern

/-- What can be switched on and off inside a pattern. -/
inductive Flag where
  | anyCase | multiLine | dotMatchesAll | lazy | unicode | carriageReturn | spaced
  deriving DecidableEq, Repr

/-- The flags that are switched, each with whether it is switched on. -/
abbrev Switches := List (Flag × Bool)

/-- A character that stands for itself. One that is written with two digits is a byte where a
pattern is about bytes. -/
structure Letter where
  char : Char
  isByte : Bool
  deriving DecidableEq, Repr

/-- A class of characters with a letter of its own. -/
inductive ShortClass where
  | digit | space | word
  deriving DecidableEq, Repr

/-- A place in a text. -/
inductive Place where
  | lineStart | lineEnd | textStart | textEnd | wordEdge | notWordEdge | wordStart | wordEnd
  deriving DecidableEq, Repr

/-- Whether a place depends on which characters words are made of. -/
def Place.isAboutWords : Place → Bool
  | .lineStart | .lineEnd | .textStart | .textEnd => false
  | .wordEdge | .notWordEdge | .wordStart | .wordEnd => true

/-- How two classes are put together. -/
inductive ClassOperation where
  | intersection | difference | symmetricDifference
  deriving DecidableEq, Repr

mutual
/-- A member of a class of characters. -/
inductive ClassItem where
  | letter (l : Letter)
  | range (first last : Letter)
  | short (kind : ShortClass) (negated : Bool)
  | named (name : String) (negated : Bool)
  | nested (negated : Bool) (inside : ClassSet)
/-- The characters of a class: those of its members, or two classes put together. -/
inductive ClassSet where
  | union (items : List ClassItem)
  | combined (operation : ClassOperation) (left right : ClassSet)
end

/-- A part of a pattern. A group has branches, of which one has to fit, and switches flags for what
is inside; switches that stand alone last to the end of the group around them. -/
inductive Part where
  | letter (l : Letter)
  | any
  | place (p : Place)
  | short (kind : ShortClass) (negated : Bool)
  | oneOf (negated : Bool) (inside : ClassSet)
  | switch (switches : Switches)
  | repeated (p : Part)
  | group (switches : Switches) (branches : List (List Part))

/-- What a flag is switched to, if it is. -/
def Switches.get? (switches : Switches) (flag : Flag) : Option Bool := switches.lookup flag

/-- The depth of something made of several parts. One part alone does not count as a level. -/
def depthOfAll (depths : List Nat) : Nat :=
  depths.foldl max 0 + if depths.length ≤ 1 then 0 else 1

mutual
/-- How deep the classes in a member of a class nest. -/
def ClassItem.depth : ClassItem → Nat
  | .nested _ inside => inside.depth + 1
  | _ => 0
/-- How deep a class nests. -/
def ClassSet.depth : ClassSet → Nat
  | .union items => depthOfAll (itemDepths items)
  | .combined _ left right => max left.depth right.depth + 1
/-- How deep the members of a class nest. -/
def itemDepths : List ClassItem → List Nat
  | [] => []
  | item :: rest => item.depth :: itemDepths rest
end

mutual
/-- How deep a part of a pattern nests. -/
def Part.depth : Part → Nat
  | .oneOf _ inside => inside.depth + 1
  | .repeated p => p.depth + 1
  | .group _ branches => depthOfAll (branchDepths branches) + 1
  | _ => 0
/-- How deep the parts of a branch nest. -/
def partDepths : List Part → List Nat
  | [] => []
  | p :: rest => p.depth :: partDepths rest
/-- How deep branches nest. -/
def branchDepths : List (List Part) → List Nat
  | [] => []
  | branch :: rest => depthOfAll (partDepths branch) :: branchDepths rest
end

/-- The depth to which a pattern may nest. -/
def depthLimit : Nat := 250

end Linkage.Pattern
