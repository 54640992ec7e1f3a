import Linkage.Data.Order
import Linkage.Data.SortedSet
import Linkage.Symbol.Error
import Linkage.Text.Parts

/-!
Class names. A name is kept with dots between its parts; the internal form has slashes instead.
-/
namespace Linkage
open Std

/-- The name of a class, with dots between its parts. -/
structure ClassName where
  dotted : String
  deriving DecidableEq, Repr, Inhabited

namespace ClassName

/-- Names compare by their code points. -/
instance : Ord ClassName := ⟨compareOn dotted⟩
instance : TransOrd ClassName := inferInstanceAs (TransCmp (compareOn dotted))
instance : LawfulEqOrd ClassName where
  eq_of_compare {a b} h := by
    have : a.dotted = b.dotted := compareOn_eq_eq.1 h
    cases a; cases b; simp_all

theorem before_iff {a b : ClassName} : Before a b ↔ a.dotted < b.dotted := compareOfLessAndEq_eq_lt

/-- The class that a name with dots or slashes denotes. A name is not empty and does not end like a
descriptor. -/
def ofName (name : String) : Except SymbolError ClassName :=
  if name.toList.isEmpty || Text.endsWith ";" name then .error (.malformedClassName name)
  else .ok ⟨Text.replace '/' '.' name⟩

/-- The class that the path of a class file denotes, relative to the root of its artifact. Paths
among the versioned entries of an archive denote none. -/
def ofFileName (path : String) : Except SymbolError ClassName :=
  if Text.startsWith "META-INF/versions" path then .error (.malformedClassName path)
  else
    match Text.beforeEnd? ".class".toList path.toList with
    | some stem => ofName (String.ofList stem)
    | none => ofName path

/-- A path before `.class` denotes a class unless it begins like a versioned entry, is empty or ends
like a descriptor. -/
theorem ofFileName_eq_ok_iff {path : String} {stem : List Char} {c : ClassName}
    (file : path.toList = stem ++ ".class".toList) : ofFileName path = .ok c ↔
      (¬ "META-INF/versions".toList <+: path.toList ∧ stem ≠ [] ∧ ¬ [';'] <:+ stem) ∧
        c = ⟨Text.replace '/' '.' (String.ofList stem)⟩ := by
  have semicolon : Text.endsWith ";" (String.ofList stem) = true ↔ [';'] <:+ stem := by
    simp [Text.endsWith_iff]
  unfold ofFileName
  split
  · rename_i versioned
    exact iff_of_false (fun same => nomatch same)
      fun right => right.1.1 (Text.startsWith_iff.1 versioned)
  · rename_i other
    rw [Text.startsWith_iff] at other
    rw [Text.beforeEnd?_eq_some_iff.2 file]
    dsimp only
    unfold ofName
    split
    · rename_i bad
      simp only [String.toList_ofList, Bool.or_eq_true, List.isEmpty_iff, semicolon] at bad
      refine iff_of_false (fun same => nomatch same) fun right => ?_
      exact bad.elim right.1.2.1 right.1.2.2
    · rename_i good
      simp only [String.toList_ofList, Bool.or_eq_true, List.isEmpty_iff, semicolon, not_or] at good
      rw [Except.ok.injEq]
      exact ⟨fun same => ⟨⟨other, good⟩, same.symm⟩, fun right => right.2.symm⟩

/-- The name with slashes between its parts. -/
def internal (c : ClassName) : String := Text.replace '.' '/' c.dotted

/-- The path of the class file that declares the class, relative to the root of its artifact. -/
def filePath (c : ClassName) : String := c.internal ++ ".class"

end ClassName
end Linkage
