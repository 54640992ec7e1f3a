import Linkage.Toml.Moment
import Linkage.Toml.Table

/-!
TOML documents: lines that assign values to keys, and headers that say which table the keys of the
following lines belong to.
-/
namespace Linkage.Toml

/-- One more than the number of keys that a path may have and the depth to which values may nest. -/
def nestingLimit : Nat := 80

/-- The characters of keys without quotes. -/
def isBareKeyChar (c : Char) : Bool := c.isAlphanum || c == '_' || c == '-'

/-- Takes a key without dots. -/
def simpleKey : Scan Key := do
  let place ← Scan.here
  let name ← match ← Scan.peek? with
    | some '"' => shortQuote '"'
    | some '\'' => shortQuote '\''
    | _ => do
      let name ← Scan.takeWhile isBareKeyChar
      guard !name.isEmpty
      pure (String.ofList name)
  return ⟨some place, name⟩

/-- Takes a key, dotted or not, with the space around its parts. -/
def keyPath : Scan (List Key) := do
  let part : Scan Key := do
    space
    let key ← simpleKey
    space
    return key
  let path ← Scan.separated part (Scan.char '.')
  guard (!path.isEmpty && path.length < nestingLimit)
  return path

/-- Takes a key and a value, given the values that may stand there. -/
def assignment (value : Scan (Placed Value)) : Scan (List Key × Placed Value) := do
  let path ← keyPath
  Scan.char '='
  space
  return (path, ← value)

/-- Takes a list, given the values that may stand in it. A comma may follow the last item. -/
def listValue (value : Scan (Placed Value)) : Scan Value := do
  Scan.char '['
  let item := do
    gap
    let v ← value
    gap
    return v
  let items ← Scan.separated item (Scan.char ',')
  if !items.isEmpty then discard (Scan.optional (Scan.char ','))
  gap
  Scan.char ']'
  return .list items

/-- Takes a table on one line, given the values that may stand in it. -/
def inlineTable (value : Scan (Placed Value)) : Scan Value := do
  Scan.char '\x7b'
  let entry := do
    let entry ← assignment value
    space
    return entry
  let assignments ← Scan.separated entry (Scan.char ',')
  space
  Scan.char '\x7d'
  match (Table.new .declared none).assignAll assignments with
  | some table => return (finishTable table).value
  | none => failure

/-- Takes a value that starts with a digit or a sign. -/
def numberOrMoment : Scan Value := moment <|> realNumber <|> specialNumber <|> integer

/-- Takes a value without its place. `inner` takes the values inside it; without it, there must be
no list and no table here. -/
def bareValue (inner : Option (Scan (Placed Value))) : Scan Value := do
  match ← Scan.peek? with
  | some '"' => return .text (← quote '"')
  | some '\'' => return .text (← quote '\'')
  | some '[' => inner.elim failure listValue
  | some '\x7b' => inner.elim failure inlineTable
  | some 't' => Scan.word "true"; return .boolean true
  | some 'f' => Scan.word "false"; return .boolean false
  | _ => numberOrMoment

/-- Takes a value that nests to a depth of at most `depth` lists and tables. -/
def valueWithin (depth : Nat) : Scan (Placed Value) := do
  let place ← Scan.here
  let inner := match depth with
    | 0 => none
    | depth + 1 => some (valueWithin depth)
  return ⟨some place, ← bareValue inner⟩

/-- Takes a value. -/
def value : Scan (Placed Value) := valueWithin (nestingLimit - 1)

/-- A header: the table it declares, where it stands, and whether the table is one of a list. -/
structure Header where
  path : List Key
  place : Nat
  isElement : Bool
  deriving DecidableEq, Repr

/-- A statement of a document. -/
inductive Statement where
  | assign (path : List Key) (value : Placed Value)
  | declare (header : Header)

/-- Takes a header. -/
def header : Scan Header := do
  let place ← Scan.here
  let element : Scan Header := do
    Scan.word "[["
    let path ← keyPath
    Scan.word "]]"
    return ⟨path, place, true⟩
  let single : Scan Header := do
    Scan.char '['
    let path ← keyPath
    Scan.char ']'
    return ⟨path, place, false⟩
  element <|> single

/-- Takes a line with a statement or without one. -/
def line : Scan (Option Statement) := do
  let statement ← match ← Scan.peek? with
    | some '#' => pure none
    | some '\n' => pure none
    | some '\r' => pure none
    | some '[' => do pure (some (.declare (← header)))
    | some _ => do
      let (path, v) ← assignment value
      pure (some (.assign path v))
    | none => failure
  lineEnd
  space
  return statement

/-- The mark that may stand in front of a text to tell its encoding. -/
def encodingMark : Char := Char.ofNat 0xFEFF

/-- Takes the statements of a document. -/
def statements : Scan (List Statement) := do
  discard (Scan.optional (Scan.char encodingMark))
  space
  return (← Scan.many line).filterMap id

/-- A header with the assignments that follow it. -/
abbrev Section := Header × List (List Key × Placed Value)

/-- The assignments before the first header, and the sections that the headers begin. -/
def sections : List Statement → List (List Key × Placed Value) × List Section
  | [] => ([], [])
  | .assign path v :: rest =>
    let (assignments, sections) := sections rest
    ((path, v) :: assignments, sections)
  | .declare header :: rest =>
    let (assignments, sections) := sections rest
    ([], (header, assignments) :: sections)

/-- Adds the table of a section. -/
def addSection (t : Table) : Section → Option Table
  | (header, assignments) =>
    if header.isElement then t.declareElement header.path header.place assignments
    else t.declare header.path header.place assignments

/-- The value of a document, which is a table at the start of the text. -/
def document? (text : String) : Option (Placed Value) := do
  let (assignments, sections) := sections (← statements.run? text)
  let table ← (Table.new .declared (some 0)).assignAll assignments
  return finishTable (← sections.foldlM addSection table)

end Linkage.Toml
