import Linkage.Check.Conflict
import Linkage.Data.SortedMap

/-!
Conflicts as a text for readers: a list of the artifacts that do not fit together, then a tree that
groups the conflicts by artifact, by artifact of the owner, by calling class, by reason and by
calling method. The groups of each level are in ascending order.
-/
namespace Linkage.Report

/-- The lines of one calling method that fail for one reason. -/
structure MethodGroup where
  method : String
  lines : SortedSet Nat
  deriving DecidableEq

/-- The calling methods that fail for one reason. -/
structure ReasonGroup where
  reason : String
  methods : List MethodGroup
  deriving DecidableEq

/-- The reasons for which one calling class fails, with the path to the class. -/
structure CallerGroup where
  name : String
  path : Option (List ClassName)
  reasons : List ReasonGroup
  deriving DecidableEq

/-- The calling classes that fail to use one artifact. -/
structure TargetGroup where
  artifact : String
  callers : List CallerGroup
  deriving DecidableEq

/-- The artifacts that one artifact fails to use. -/
structure UserGroup where
  artifact : String
  targets : List TargetGroup
  deriving DecidableEq

/-- The groups of the calling methods. -/
def methodGroups (conflicts : List Conflict) : List MethodGroup :=
  (groupBy (fun c : Conflict => c.caller.descriptor.pretty) conflicts).toList.map
    fun (method, group) => ⟨method, SortedSet.ofList (group.map Conflict.line)⟩

/-- The groups of the reasons. -/
def reasonGroups (conflicts : List Conflict) : List ReasonGroup :=
  (groupBy Conflict.reason conflicts).toList.map
    fun (reason, group) => ⟨reason, methodGroups group⟩

/-- The groups of the calling classes. The path is that of the first conflict of the class. -/
def callerGroups (conflicts : List Conflict) : List CallerGroup :=
  (groupBy (fun c : Conflict => c.fromClass.dotted) conflicts).toList.map
    fun (name, group) => ⟨name, group.head?.map Conflict.path, reasonGroups group⟩

/-- The groups of the artifacts of the owners. -/
def targetGroups (conflicts : List Conflict) : List TargetGroup :=
  (groupBy Conflict.existsInName conflicts).toList.map
    fun (artifact, group) => ⟨artifact, callerGroups group⟩

/-- The groups of the artifacts whose classes call. -/
def tree (conflicts : List Conflict) : List UserGroup :=
  (groupBy Conflict.usedBy conflicts).toList.map
    fun (artifact, group) => ⟨artifact, targetGroups group⟩

/-- The elements of a list, each with whether it is the last. -/
def markLast {α : Type} : List α → List (α × Bool)
  | [] => []
  | [a] => [(a, true)]
  | a :: rest => (a, false) :: markLast rest

/-- The mark in front of an item. -/
def itemMark (isLast : Bool) : String := if isLast then "\\" else "|"

/-- The mark that leads past the items below an item. -/
def belowMark (isLast : Bool) : String := if isLast then " " else "|"

/-- The line of a calling method. -/
def methodText (indent : String) : MethodGroup × Bool → String
  | (g, isLast) =>
    indent ++ "  " ++ itemMark isLast ++ "- In " ++ g.method ++ " (line " ++
      Text.join ", " (g.lines.toList.map toString) ++ ")\n"

/-- The lines of a reason. -/
def reasonText (indent : String) : ReasonGroup × Bool → String
  | (g, isLast) =>
    indent ++ "  |\n" ++ indent ++ "  " ++ itemMark isLast ++ "- " ++ g.reason ++ "\n" ++
      String.join ((markLast g.methods).map (methodText (indent ++ "  " ++ belowMark isLast)))

/-- The lines of a path. -/
def pathText (indent : String) (path : List ClassName) : String :=
  indent ++ "  |  With path:\n" ++ indent ++ "  |    *  " ++
    Text.join ("\n" ++ indent ++ "  |    -> ") (path.map ClassName.dotted) ++ "\n"

/-- The lines of a calling class. -/
def callerText (indent : String) : CallerGroup × Bool → String
  | (g, isLast) =>
    let below := indent ++ "  " ++ belowMark isLast
    let path := match g.path with
      | some path => pathText below path
      | none => ""
    indent ++ "  " ++ itemMark isLast ++ "- In class: " ++ g.name ++ "\n" ++ path ++
      String.join ((markLast g.reasons).map (reasonText below))

/-- The lines of an artifact of an owner. -/
def targetText : TargetGroup × Bool → String
  | (g, isLast) =>
    "  " ++ itemMark isLast ++ "- Using transitive: " ++ g.artifact ++ "\n" ++
      String.join ((markLast g.callers).map (callerText ("  " ++ belowMark isLast)))

/-- The lines of an artifact whose classes call. -/
def userText (g : UserGroup) : String :=
  "Breaks found in: " ++ g.artifact ++ "\n" ++ String.join ((markLast g.targets).map targetText) ++
    "===========================\n\n"

/-- What to do about an artifact: the artifacts that it does not fit together with. -/
def adviceText (g : UserGroup) : String :=
  let targets := g.targets.map TargetGroup.artifact
  let unknown :=
    if targets.contains Conflict.unknownArtifact then
      "\t" ++ g.artifact ++ " refers to unknown classes, so the library that broke its ABI " ++
        "could not be determined.\n"
    else ""
  let known := match targets.filter (· != Conflict.unknownArtifact) with
    | [] => "\n"
    | [single] => "\t" ++ g.artifact ++ " with " ++ single ++ "\n\n"
    | many =>
      "\t" ++ g.artifact ++ " with:\n" ++
        String.join (many.map fun name => "\t\t" ++ name ++ "\n") ++ "\n"
  unknown ++ known

/-- The report for readers. -/
def text (conflicts : List Conflict) : String :=
  if conflicts.isEmpty then "No ABI conflicts found.\n"
  else
    let groups := tree conflicts
    "ABI incompatibilities were detected between the following libraries. " ++
      "You should upgrade or downgrade one for each pair. " ++
      "Exact conflicts are detailed below.\n\n" ++
      String.join (groups.map adviceText) ++ String.join (groups.map userText)

end Linkage.Report
