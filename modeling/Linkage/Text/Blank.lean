/-!
White space, and text without white space at its ends. White space is the Unicode property of that
name.
-/
namespace Linkage.Text

/-- The characters with the Unicode property White_Space. -/
def isBlank (c : Char) : Bool :=
  let n := c.toNat
  (9 ≤ n && n ≤ 13) || n == 0x20 || n == 0x85 || n == 0xA0 || n == 0x1680 ||
    (0x2000 ≤ n && n ≤ 0x200A) || n == 0x2028 || n == 0x2029 || n == 0x202F || n == 0x205F ||
    n == 0x3000

/-- The text without the characters of a class at either end. -/
def trimWhile (isOuter : Char → Bool) (text : List Char) : List Char :=
  ((text.dropWhile isOuter).reverse.dropWhile isOuter).reverse

/-- What stands around a text is taken off, if it is of the class and nothing of the text is. -/
theorem trimWhile_append {isOuter : Char → Bool} {before text after : List Char}
    (left : ∀ c ∈ before, isOuter c = true) (right : ∀ c ∈ after, isOuter c = true)
    (inner : ∀ c ∈ text, isOuter c = false) :
    trimWhile isOuter (before ++ (text ++ after)) = text := by
  have strip (outer rest : List Char) (all : ∀ c ∈ outer, isOuter c = true)
      (edge : ∀ c ∈ rest.head?, isOuter c = false) : (outer ++ rest).dropWhile isOuter = rest := by
    rw [List.dropWhile_append_of_pos all]
    cases rest with
    | nil => rfl
    | cons c rest => simp [edge c rfl]
  cases text with
  | nil =>
    have all : ∀ c ∈ before ++ after, isOuter c = true :=
      List.forall_mem_append.2 ⟨left, right⟩
    have gone : (before ++ after).dropWhile isOuter = [] := by simpa using strip _ [] all (by simp)
    simp [trimWhile, gone]
  | cons c text =>
    rw [trimWhile, strip before _ left (by simp [inner c List.mem_cons_self]), List.reverse_append,
      strip after.reverse _ (by simpa using right), List.reverse_reverse]
    intro d last
    exact inner d (List.mem_reverse.1 (List.mem_of_mem_head? last))

/-- The text without white space at either end. -/
def trim (text : List Char) : List Char := trimWhile isBlank text

end Linkage.Text
