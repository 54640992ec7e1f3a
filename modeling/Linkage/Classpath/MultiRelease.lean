import Linkage.Classpath.Error
import Linkage.Data.SortedMap
import Linkage.Symbol.ClassName
import Linkage.Text.Numeral

/-!
Archives with class files for several releases. An entry under `META-INF/versions/n/` is meant for
release `n` and later ones, any other for all releases; of the entries for one class that are not
meant for a later release than the one that runs, the one for the highest release counts.
-/
namespace Linkage.MultiRelease

/-- An entry for a class, with the release from which on it counts. -/
structure Entry where
  release : Nat
  name : ClassName
  path : String
  deriving DecidableEq, Repr

/-- The part of a path after its last slash. -/
def fileName (path : String) : String :=
  match Text.splitFirst? '/' path.toList.reverse with
  | some (reversed, _) => String.ofList reversed.reverse
  | none => path

/-- Whether a path has the name of a class file that declares no class. -/
def isPseudoClass (path : String) : Bool :=
  fileName path == "module-info.class" || fileName path == "package-info.class"

/-- The release that an entry is meant for and the path of its class file. Entries that are no class
files, and versioned ones without a release number, are left out. -/
def classify? (entry : String) : Option (Nat × String) := do
  guard (Text.endsWith ".class" entry)
  let (release, path) ← match Text.afterStart? "META-INF/versions/".toList entry.toList with
    | some rest => do
      let (version, path) ← Text.splitFirst? '/' rest
      pure (← Text.numeral? Text.bound32 version, String.ofList path)
    | none => pure (0, entry)
  guard !isPseudoClass path
  return (release, path)

/-- The entries for classes, in the order given. -/
def classEntries (entries : List String) : Except SymbolError (List Entry) :=
  (entries.filterMap fun entry => (classify? entry).map fun c => (c, entry)).mapM
    fun ((release, path), entry) => do return ⟨release, ← ClassName.ofFileName path, entry⟩

/-- The entry that counts for each class when `release` runs. -/
def select (release : Nat) (entries : List String) :
    Except SymbolError (SortedMap ClassName String) := do
  let entries ← classEntries entries
  let layered := (entries.filter (·.release ≤ release)).mergeSort fun a b => a.release ≤ b.release
  return layered.foldl (fun m e => m.insert e.name e.path) .empty

end Linkage.MultiRelease
