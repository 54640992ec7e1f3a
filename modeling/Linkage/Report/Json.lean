import Linkage.Check.Conflict
import Linkage.ClassFile.Error

/-!
Conflicts as JSON, for programs. Objects and arrays are spread over lines with two spaces of indent
for each level.
-/
namespace Linkage

/-- A JSON value with the members of objects in the order in which they are written. -/
inductive JsonValue where
  | string (text : String)
  | number (n : Nat)
  | array (items : List JsonValue)
  | object (members : List (String × JsonValue))

namespace JsonValue

/-- A character as it stands in a JSON string. -/
def escapeChar (c : Char) : List Char :=
  if c = '"' then ['\\', '"']
  else if c = '\\' then ['\\', '\\']
  else if c = '\n' then ['\\', 'n']
  else if c = '\r' then ['\\', 'r']
  else if c = '\t' then ['\\', 't']
  else if c.toNat = 8 then ['\\', 'b']
  else if c.toNat = 12 then ['\\', 'f']
  else if c.toNat < 0x20 then ['\\', 'u'] ++ (Text.hex 4 c.toNat).toList
  else [c]

/-- A text as a JSON string. -/
def quote (text : String) : String := String.ofList ('"' :: text.toList.flatMap escapeChar ++ ['"'])

/-- The blanks in front of a line at a level. -/
def indent (level : Nat) : String := Text.repeated level "  "

/-- The parts of an array or an object on lines of their own. -/
def block (opening closing : String) (level : Nat) (parts : List String) : String :=
  if parts.isEmpty then opening ++ closing
  else
    opening ++ "\n" ++ Text.join ",\n" (parts.map fun part => indent (level + 1) ++ part) ++
      "\n" ++ indent level ++ closing

mutual
/-- The text of a value that starts on a line at a level. -/
def pretty (level : Nat) : JsonValue → String
  | .string text => quote text
  | .number n => toString n
  | .array items => block "[" "]" level (prettyItems (level + 1) items)
  | .object members => block "\x7b" "\x7d" level (prettyMembers (level + 1) members)
/-- The texts of the items of an array. -/
def prettyItems (level : Nat) : List JsonValue → List String
  | [] => []
  | item :: rest => pretty level item :: prettyItems level rest
/-- The texts of the members of an object. -/
def prettyMembers (level : Nat) : List (String × JsonValue) → List String
  | [] => []
  | (name, value) :: rest => (quote name ++ ": " ++ pretty level value) :: prettyMembers level rest
end

end JsonValue

namespace Report

/-- The record of a conflict. -/
def record (c : Conflict) : JsonValue :=
  .object
    [("existsIn", .string c.existsInName),
      ("usedBy", .string c.usedBy),
      ("category", .string c.category.code),
      ("reason", .string c.reason),
      ("fromClass", .string c.fromClass.dotted),
      ("fromMethod", .string (MethodReference.display c.caller)),
      ("fromLine", .number c.line),
      ("target", .string c.target.display),
      ("reachabilityPath", .array (c.path.map fun name => .string name.dotted))]

/-- The report for programs. -/
def json (conflicts : List Conflict) : String :=
  JsonValue.pretty 0 (.object
    [("type", .string "conflicts"), ("conflicts", .array (conflicts.map record))])

end Report
end Linkage
