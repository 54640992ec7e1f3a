import Linkage.Data.Order
import Linkage.Data.SortedSet
import Linkage.Symbol.ClassName
import Linkage.Text.Lowercase

/-!
What a check reports on: which artifacts and classes are left out, and whether every class is
checked or only those that the entry points reach.
-/
namespace Linkage

/-- What a check reports on. -/
structure Policy where
  /-- Only artifacts whose names start so are reported on, unless there are none. -/
  reportedArtifacts : SortedSet String
  /-- Artifacts whose names start so are left out. -/
  ignoredArtifacts : SortedSet String
  /-- Classes whose names start so are left out. -/
  ignoredClasses : SortedSet String
  /-- Classes whose names contain such a word, in upper or lower case, are left out. -/
  ignoredKeywords : SortedSet String
  /-- Whether every class is checked. -/
  complete : Bool
  deriving DecidableEq

namespace Policy

/-- The policy that leaves nothing out and checks the classes that the entry points reach. -/
def standard : Policy := ⟨.empty, .empty, .empty, .empty, false⟩

instance : Inhabited Policy := ⟨standard⟩

/-- Whether a text starts with one of some beginnings. -/
def startsWithAny (starts : SortedSet String) (text : String) : Bool :=
  starts.toList.any fun start => Text.startsWith start text

/-- Whether nothing is reported on an artifact. -/
def ignoresArtifact (p : Policy) (artifact : String) : Bool :=
  startsWithAny p.ignoredArtifacts artifact ||
    !(p.reportedArtifacts.toList.isEmpty || startsWithAny p.reportedArtifacts artifact)

/-- Whether nothing is reported on a class with a name. -/
def ignoresClassName (p : Policy) (name : String) : Bool :=
  startsWithAny p.ignoredClasses name ||
    p.ignoredKeywords.toList.any fun keyword =>
      Text.contains (Text.lower keyword.toList) (Text.lower name.toList)

/-- Whether nothing is reported on a class. -/
def ignoresClass (p : Policy) (c : ClassName) : Bool := p.ignoresClassName c.dotted

end Policy
end Linkage
