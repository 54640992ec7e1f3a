import Linkage.Data.SortedMap
import Linkage.Json.Number

/-!
JSON documents. The members of an object are in the order of their names, and of several with the
same name the last counts.
-/
namespace Linkage.Json

/-- The text without white space at its start. -/
def afterBlank (text : List Char) : List Char :=
  text.dropWhile fun c => c == ' ' || c == '\t' || c == '\n' || c == '\r'

/-- The unit of four hexadecimal digits that a text starts with, and the rest. -/
def splitUnit? : List Char → Option (Nat × List Char)
  | a :: b :: c :: d :: rest => do
    let digits ← [a, b, c, d].mapM Text.hexDigit?
    return (digits.foldl (fun value digit => value * 16 + digit) 0, rest)
  | _ => none

/-- The character of an escape by code, behind its letter, and the rest. A character beyond the
first 65536 is written as a pair of units. -/
def splitCode? (text : List Char) : Option (Char × List Char) := do
  let (unit, rest) ← splitUnit? text
  if unit < 0xD800 || 0xE000 ≤ unit then return (Char.ofNat unit, rest)
  guard (unit < 0xDC00)
  match rest with
  | '\\' :: 'u' :: rest => do
    let (second, rest) ← splitUnit? rest
    guard (0xDC00 ≤ second && second < 0xE000)
    return (Char.ofNat (0x10000 + (unit - 0xD800) * 0x400 + (second - 0xDC00)), rest)
  | _ => none

/-- The character of an escape by letter. -/
def escaped? : Char → Option Char
  | '"' => some '"'
  | '\\' => some '\\'
  | '/' => some '/'
  | 'b' => some (Char.ofNat 0x08)
  | 'f' => some (Char.ofNat 0x0C)
  | 'n' => some '\n'
  | 'r' => some '\r'
  | 't' => some '\t'
  | _ => none

/-- The string that a text starts with, behind its quote, and the rest; `done` are the characters
before, the last one first. Each character takes one of the steps that are left. -/
def splitString? (done : List Char) : Nat → List Char → Option (String × List Char)
  | fuel + 1, c :: rest =>
    if c = '"' then some (String.ofList done.reverse, rest)
    else if c = '\\' then
      match rest with
      | 'u' :: rest => (splitCode? rest).bind fun (c, rest) => splitString? (c :: done) fuel rest
      | letter :: rest => (escaped? letter).bind fun c => splitString? (c :: done) fuel rest
      | [] => none
    else if c.toNat < 0x20 then none
    else splitString? (c :: done) fuel rest
  | _, _ => none

/-- Something that stands nowhere. -/
def unplaced {α : Type} (value : α) : Placed α := ⟨none, value⟩

/-- A word and what it means. -/
def word? (text : List Char) : Option (Value × List Char) :=
  [("null", Value.null), ("true", .boolean true), ("false", .boolean false)].findSome?
    fun (word, value) => (Text.afterStart? word.toList text).map fun rest => (value, rest)

mutual
/-- The value that a text starts with, and the rest. -/
def splitValue? : Nat → List Char → Option (Value × List Char)
  | 0, _ => none
  | fuel + 1, text =>
    match afterBlank text with
    | '"' :: rest => do
      let (text, rest) ← splitString? [] fuel rest
      return (.text text, rest)
    | '[' :: rest =>
      match afterBlank rest with
      | ']' :: rest => some (.list [], rest)
      | rest => splitItems? [] fuel rest
    | '\x7b' :: rest =>
      match afterBlank rest with
      | '\x7d' :: rest => some (.table [], rest)
      | rest => splitMembers? [] fuel rest
    | text => word? text <|> do
      let (n, rest) ← Numeral.split? text
      return (← n.value?, rest)
/-- The items of an array and the rest behind it; `done` are the items before, the last one
first. -/
def splitItems? (done : List (Placed Value)) : Nat → List Char → Option (Value × List Char)
  | 0, _ => none
  | fuel + 1, text => do
    let (v, rest) ← splitValue? fuel text
    match afterBlank rest with
    | ',' :: rest => splitItems? (unplaced v :: done) fuel rest
    | ']' :: rest => return (.list (unplaced v :: done).reverse, rest)
    | _ => none
/-- The members of an object and the rest behind it; `done` are the members before. -/
def splitMembers? (done : List (String × Placed Value)) :
    Nat → List Char → Option (Value × List Char)
  | 0, _ => none
  | fuel + 1, text => do
    let rest ← Text.afterStart? ['"'] (afterBlank text)
    let (name, rest) ← splitString? [] fuel rest
    let rest ← Text.afterStart? [':'] (afterBlank rest)
    let (v, rest) ← splitValue? fuel rest
    let done := insertEntry name (unplaced v) done
    match afterBlank rest with
    | ',' :: rest => splitMembers? done fuel rest
    | '\x7d' :: rest => return (.table (done.map fun (name, v) => (unplaced name, v)), rest)
    | _ => none
end

/-- The value of a document. -/
def document? (text : String) : Option Value := do
  let (v, rest) ← splitValue? (2 * text.length + 2) text.toList
  guard (afterBlank rest).isEmpty
  return v

end Linkage.Json
