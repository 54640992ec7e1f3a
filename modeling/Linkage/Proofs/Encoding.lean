import Linkage.ClassFile.ModifiedUtf8

/-!
The text encoding of class files, read back. The groups of bytes tell their code units, and the code
units of a text tell the text (`ModifiedUtf8.decode?_encode`).
-/
namespace Linkage

namespace Utf16

/-- No character is a surrogate. -/
private theorem char_bounds (c : Char) :
    (c.toNat < 0xD800 ∨ 0xE000 ≤ c.toNat) ∧ c.toNat < 0x110000 := by
  have valid := c.valid
  simp only [UInt32.isValidChar, Nat.isValidChar] at valid
  simp only [Char.toNat]
  omega

/-- A unit that does not start a pair stands for itself. -/
theorem decode_cons {u : UInt16} (single : isHigh u = false) (rest : List UInt16) :
    decode (u :: rest) = ofUnit u :: decode rest := by
  cases rest with
  | nil => simp [decode]
  | cons v rest => simp [decode, single]

theorem decode_encodeChar (c : Char) (rest : List UInt16) :
    decode (encodeChar c ++ rest) = c :: decode rest := by
  obtain ⟨valid, small⟩ := char_bounds c
  unfold encodeChar
  dsimp only
  split
  · rename_i plane
    have same : (UInt16.ofNat c.toNat).toNat = c.toNat := by
      rw [UInt16.toNat_ofNat']
      omega
    have notHigh : isHigh (UInt16.ofNat c.toNat) = false := by
      simp only [isHigh, same, Bool.and_eq_false_iff, decide_eq_false_iff_not]
      omega
    have notLow : isLow (UInt16.ofNat c.toNat) = false := by
      simp only [isLow, same, Bool.and_eq_false_iff, decide_eq_false_iff_not]
      omega
    rw [List.singleton_append, decode_cons notHigh, ofUnit, notHigh, notLow, same]
    simp
  · rename_i above
    have high : (UInt16.ofNat (0xD800 + (c.toNat - 0x10000) / 0x400)).toNat =
        0xD800 + (c.toNat - 0x10000) / 0x400 := by
      rw [UInt16.toNat_ofNat']
      omega
    have low : (UInt16.ofNat (0xDC00 + (c.toNat - 0x10000) % 0x400)).toNat =
        0xDC00 + (c.toNat - 0x10000) % 0x400 := by
      rw [UInt16.toNat_ofNat']
      omega
    have isPair : (isHigh (UInt16.ofNat (0xD800 + (c.toNat - 0x10000) / 0x400)) &&
        isLow (UInt16.ofNat (0xDC00 + (c.toNat - 0x10000) % 0x400))) = true := by
      simp only [isHigh, isLow, high, low, Bool.and_eq_true, decide_eq_true_eq]
      omega
    have whole : 0x10000 + (0xD800 + (c.toNat - 0x10000) / 0x400 - 0xD800) * 0x400 +
        (0xDC00 + (c.toNat - 0x10000) % 0x400 - 0xDC00) = c.toNat := by
      omega
    rw [List.cons_append, List.singleton_append, decode, if_pos isPair, ofPair, high, low, whole]
    simp

theorem decode_encode (text : List Char) : decode (encode text) = text := by
  induction text with
  | nil => rfl
  | cons c text ih =>
    rw [encode, List.flatMap_cons, decode_encodeChar]
    exact congrArg _ ih

end Utf16

namespace ModifiedUtf8

/-! ### Groups of bytes -/

theorem decodeUnits?_one {a : UInt8} (lead : 1 ≤ a.toNat ∧ a.toNat < 0x80) (rest : Bytes) :
    decodeUnits? (a :: rest) = (decodeUnits? rest).map (UInt16.ofNat a.toNat :: ·) := by
  rw [decodeUnits?.eq_def]
  simp only [if_pos lead]
  cases decodeUnits? rest <;> rfl

theorem decodeUnits?_two {a b : UInt8} {low : Nat} (lead : 0xC0 ≤ a.toNat ∧ a.toNat < 0xE0)
    (second : continuation? b = some low) (rest : Bytes) :
    decodeUnits? (a :: b :: rest) =
      (decodeUnits? rest).map (UInt16.ofNat ((a.toNat - 0xC0) * 0x40 + low) :: ·) := by
  rw [decodeUnits?.eq_def]
  have notOne : ¬ (1 ≤ a.toNat ∧ a.toNat < 0x80) := by omega
  simp only [if_neg notOne, if_pos lead, second]
  cases decodeUnits? rest <;> rfl

theorem decodeUnits?_three {a b c : UInt8} {middle low : Nat}
    (lead : 0xE0 ≤ a.toNat ∧ a.toNat < 0xF0) (second : continuation? b = some middle)
    (third : continuation? c = some low) (rest : Bytes) :
    decodeUnits? (a :: b :: c :: rest) = (decodeUnits? rest).map
      (UInt16.ofNat ((a.toNat - 0xE0) * 0x1000 + middle * 0x40 + low) :: ·) := by
  rw [decodeUnits?.eq_def]
  have notOne : ¬ (1 ≤ a.toNat ∧ a.toNat < 0x80) := by omega
  have notTwo : ¬ (0xC0 ≤ a.toNat ∧ a.toNat < 0xE0) := by omega
  simp only [if_neg notOne, if_neg notTwo, if_pos lead, second, third]
  cases decodeUnits? rest <;> rfl

private theorem continuation?_ofNat {n : Nat} (small : n < 0x40) :
    continuation? (UInt8.ofNat (0x80 + n)) = some n := by
  have same : (UInt8.ofNat (0x80 + n)).toNat = 0x80 + n := by
    rw [UInt8.toNat_ofNat']
    omega
  rw [continuation?, same, if_pos (by omega)]
  simp

/-- The group of a code unit is read back. -/
theorem decodeUnits?_encodeUnit (u : UInt16) (rest : Bytes) :
    decodeUnits? (encodeUnit u ++ rest) = (decodeUnits? rest).map (u :: ·) := by
  have bound : u.toNat < 2 ^ 16 := u.toNat_lt
  have back : ∀ n, n = u.toNat → UInt16.ofNat n = u := by
    rintro n rfl
    simp
  have low : continuation? (UInt8.ofNat (0x80 + u.toNat % 0x40)) = some (u.toNat % 0x40) :=
    continuation?_ofNat (Nat.mod_lt _ (by decide))
  have middle : continuation? (UInt8.ofNat (0x80 + u.toNat / 0x40 % 0x40)) =
      some (u.toNat / 0x40 % 0x40) := continuation?_ofNat (Nat.mod_lt _ (by decide))
  unfold encodeUnit
  dsimp only
  split
  · rename_i plain
    have first : (UInt8.ofNat u.toNat).toNat = u.toNat := by
      rw [UInt8.toNat_ofNat']
      omega
    rw [List.singleton_append, decodeUnits?_one (first.symm ▸ plain), first, back _ rfl]
  · split
    · have first : (UInt8.ofNat (0xC0 + u.toNat / 0x40)).toNat = 0xC0 + u.toNat / 0x40 := by
        rw [UInt8.toNat_ofNat']
        omega
      rw [List.cons_append, List.singleton_append, decodeUnits?_two (by omega) low, first,
        back _ (by omega)]
    · have first : (UInt8.ofNat (0xE0 + u.toNat / 0x1000)).toNat = 0xE0 + u.toNat / 0x1000 := by
        rw [UInt8.toNat_ofNat']
        omega
      rw [List.cons_append, List.cons_append, List.singleton_append,
        decodeUnits?_three (by omega) middle low, first, back _ (by omega)]

theorem decodeUnits?_encodeUnits (units : List UInt16) :
    decodeUnits? (encodeUnits units) = some units := by
  induction units with
  | nil => rfl
  | cons u units ih =>
    rw [encodeUnits, List.flatMap_cons, decodeUnits?_encodeUnit, ← encodeUnits, ih]
    rfl

/-- Plain bytes are code units by themselves, and characters by themselves. -/
private theorem decodeUnits?_of_isPlain {bytes : Bytes} (plain : isPlain bytes = true) :
    ∃ units, decodeUnits? bytes = some units ∧
      Utf16.decode units = bytes.map fun b => Char.ofNat b.toNat := by
  induction bytes with
  | nil => exact ⟨[], rfl, rfl⟩
  | cons b bytes ih =>
    simp only [isPlain, List.all_cons, Bool.and_eq_true, decide_eq_true_eq] at plain
    obtain ⟨⟨nonzero, small⟩, others⟩ := plain
    obtain ⟨units, decoded, characters⟩ := ih others
    have positive : 1 ≤ b.toNat := by
      have : b.toNat ≠ 0 := fun zero => nonzero (UInt8.toNat_inj.1 zero)
      omega
    have same : (UInt16.ofNat b.toNat).toNat = b.toNat := by
      rw [UInt16.toNat_ofNat']
      omega
    have single : Utf16.isHigh (UInt16.ofNat b.toNat) = false ∧
        Utf16.isLow (UInt16.ofNat b.toNat) = false := by
      simp only [Utf16.isHigh, Utf16.isLow, same, Bool.and_eq_false_iff, decide_eq_false_iff_not]
      omega
    refine ⟨UInt16.ofNat b.toNat :: units, ?_, ?_⟩
    · rw [decodeUnits?_one ⟨positive, small⟩, decoded]
      rfl
    · rw [Utf16.decode_cons single.1, Utf16.ofUnit, single.1, single.2, same, characters]
      rfl

/-- Taking plain bytes one by one makes no difference. -/
theorem decode?_eq (bytes : Bytes) :
    decode? bytes = (decodeUnits? bytes).map fun units => String.ofList (Utf16.decode units) := by
  unfold decode?
  split
  · rename_i plain
    obtain ⟨units, decoded, characters⟩ := decodeUnits?_of_isPlain plain
    rw [decoded, Option.map_some, characters]
  · rfl

theorem decode?_encodeUnits (units : List UInt16) :
    decode? (encodeUnits units) = some (String.ofList (Utf16.decode units)) := by
  rw [decode?_eq, decodeUnits?_encodeUnits, Option.map_some]

/-- A text is read back. -/
theorem decode?_encode (text : String) : decode? (encode text) = some text := by
  rw [encode, decode?_encodeUnits, Utf16.decode_encode, String.ofList_toList]

end ModifiedUtf8
end Linkage
