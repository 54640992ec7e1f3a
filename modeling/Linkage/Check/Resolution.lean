import Linkage.Classpath.Index
import Linkage.Symbol.Declaration

/-!
Finding the declaration that a reference means. A class answers for itself if it declares a member
with the descriptor; otherwise its parents are asked in order. No declared name is asked twice, so
circular hierarchies do no harm.
-/
namespace Linkage
universe u

section
variable {m : Type → Type u} [Monad m]

/-- Loads a class of an index; a class that is not there gives none. -/
def ClassIndex.load (index : ClassIndex) (load : ClassLocation → m DeclaredClass)
    (name : ClassName) : m (Option DeclaredClass) :=
  match index.location? name with
  | some location => some <$> load location
  | none => pure none

namespace Resolution
variable {δ : Type}

/-- The first result that a step gives on the elements of a list, with a state handed on. -/
def firstSome {α β σ : Type} (step : α → σ → m (Option β × σ)) : List α → σ → m (Option β × σ)
  | [], s => pure (none, s)
  | a :: rest, s => do
    let (result, s) ← step a s
    match result with
    | some b => return (some b, s)
    | none => firstSome step rest s

/-- Asks a class and then its parents for a member, to a depth of `fuel` classes. `asked` holds the
declared names that have been asked. A member of the other staticness answers that there is none. -/
def search (index : ClassIndex) (load : ClassLocation → m DeclaredClass)
    (lookup : DeclaredClass → δ → Option (Reference δ)) (wanted : Reference δ) :
    Nat → DeclaredClass → List ClassName → m (Option (Reference δ) × List ClassName)
  | 0, _, asked => pure (none, asked)
  | fuel + 1, c, asked =>
    if c.name ∈ asked then pure (none, asked)
    else
      match lookup c wanted.descriptor with
      | some found =>
        pure (if found.isStatic = wanted.isStatic then some found else none, c.name :: asked)
      | none =>
        firstSome (fun parent asked => do
          match ← index.load load parent with
          | none => return (none, asked)
          | some declared => search index load lookup wanted fuel declared asked)
          c.parents (c.name :: asked)

/-- The member that a reference means, looked for in a class and its ancestors. The ancestors are
classes of the index, each declared as a cache has kept it or as its file now says, so twice their
number bounds the depth. -/
def resolve (index : ClassIndex) (load : ClassLocation → m DeclaredClass)
    (lookup : DeclaredClass → δ → Option (Reference δ)) (target : DeclaredClass)
    (wanted : Reference δ) : m (Option (Reference δ)) := do
  return (← search index load lookup wanted (2 * index.size + 1) target []).1

end Resolution
end

end Linkage
