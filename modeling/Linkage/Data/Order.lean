/-!
Orders put together from keys: an element compares first by one key, then by the next. Where the
keys determine the element, elements that compare equal are equal.
-/
namespace Linkage
open Std
universe u v

/-- Comparing by a key says equal exactly when the keys are equal. -/
@[simp] theorem compareOn_eq_eq {α : Type u} {β : Type v} [Ord β] [LawfulEqOrd β] {f : α → β}
    {a b : α} : compareOn f a b = .eq ↔ f a = f b := by
  rw [compareOn]; exact compare_eq_iff_eq

end Linkage
