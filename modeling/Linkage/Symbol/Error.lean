/-!
The two ways in which a name or a descriptor can be malformed.
-/
namespace Linkage

/-- Why a text is no class name or no descriptor. -/
inductive SymbolError where
  | malformedDescriptor (text : String)
  | malformedClassName (text : String)
  deriving DecidableEq, Repr

/-- The message of a malformed name or descriptor. -/
def SymbolError.message : SymbolError → String
  | .malformedDescriptor text => s!"malformed descriptor: `{text}`"
  | .malformedClassName text => s!"got a descriptor where a class name was expected: `{text}`"

end Linkage
