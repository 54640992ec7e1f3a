import Linkage.Proofs.Encoding

/-!
Text that is written as code units, in the encoding of class files, and read back. Only surrogates
that lack their partner are changed on the way: each becomes U+FFFD (`Utf16.repaired`). A text has
none, so it comes back as it was, and no byte of the encoding is zero
(`ModifiedUtf8.decode?_repaired`).
-/
namespace Linkage
namespace Utf16

/-- Whether a unit between two others is a surrogate without its partner: a first half that no
second half follows, or a second half that follows no first half. -/
def isLone (before : Option UInt16) (u : UInt16) (after : Option UInt16) : Bool :=
  (isHigh u && !after.any isLow) || (isLow u && !before.any isHigh)

/-- Code units with U+FFFD in place of every lone surrogate; `before` is the unit in front of
them. -/
def repaired (before : Option UInt16) : List UInt16 → List UInt16
  | [] => []
  | u :: rest => (if isLone before u rest.head? then 0xFFFD else u) :: repaired (some u) rest

example : repaired none [0xDC00, 0xD83D, 0xDE00, 0x61, 0xD800] =
    [0xFFFD, 0xD83D, 0xDE00, 0x61, 0xFFFD] := by decide

private theorem not_isLow_of_isHigh {u : UInt16} (high : isHigh u = true) : isLow u = false := by
  simp only [isHigh, isLow, Bool.and_eq_true, Bool.and_eq_false_iff, decide_eq_true_eq,
    decide_eq_false_iff_not] at high ⊢
  omega

private theorem not_isHigh_of_isLow {u : UInt16} (low : isLow u = true) : isHigh u = false := by
  rw [Bool.eq_false_iff]
  intro high
  rw [not_isLow_of_isHigh high] at low
  cases low

/-- A unit by itself is written back, a surrogate as U+FFFD. -/
private theorem encodeChar_ofUnit (u : UInt16) :
    encodeChar (ofUnit u) = [if isHigh u || isLow u then 0xFFFD else u] := by
  unfold ofUnit
  split
  · rfl
  · rename_i plain
    have small : u.toNat < 0x10000 := u.toNat_lt
    have valid : u.toNat.isValidChar := by
      simp only [isHigh, isLow, Bool.or_eq_true, Bool.and_eq_true, decide_eq_true_eq] at plain
      unfold Nat.isValidChar
      omega
    have same : (Char.ofNat u.toNat).toNat = u.toNat := by
      rw [Char.ofNat, dif_pos valid]
      rfl
    rw [encodeChar, same, if_pos small, UInt16.ofNat_toNat]

/-- The character of a pair is written back as the pair. -/
private theorem encodeChar_ofPair {u v : UInt16} (high : isHigh u = true) (low : isLow v = true) :
    encodeChar (ofPair u v) = [u, v] := by
  simp only [isHigh, isLow, Bool.and_eq_true, decide_eq_true_eq] at high low
  have valid : (0x10000 + (u.toNat - 0xD800) * 0x400 + (v.toNat - 0xDC00)).isValidChar := by
    unfold Nat.isValidChar
    omega
  have same : (ofPair u v).toNat = 0x10000 + (u.toNat - 0xD800) * 0x400 + (v.toNat - 0xDC00) := by
    rw [ofPair, Char.ofNat, dif_pos valid]
    rfl
  have first : 0xD800 + ((ofPair u v).toNat - 0x10000) / 0x400 = u.toNat := by omega
  have second : 0xDC00 + ((ofPair u v).toNat - 0x10000) % 0x400 = v.toNat := by omega
  have above : ¬ (ofPair u v).toNat < 0x10000 := by omega
  rw [encodeChar, if_neg above, first, second, UInt16.ofNat_toNat, UInt16.ofNat_toNat]

/-- Reading code units changes nothing but lone surrogates. The unit in front is not the first half
of a pair with the first unit, for then the pair would have been read as one. -/
private theorem encode_decode_after (before : Option UInt16) (units : List UInt16)
    (apart : (before.any isHigh && units.head?.any isLow) = false) :
    encode (decode units) = repaired before units := by
  induction units using decode.induct generalizing before with
  | case1 => rfl
  | case2 u =>
    have lone : isLone before u none = (isHigh u || isLow u) := by
      cases low : isLow u <;> simp_all [isLone]
    rw [decode, encode, List.flatMap_singleton, encodeChar_ofUnit, repaired, List.head?_nil, lone]
    rfl
  | case3 u v rest pair ih =>
    obtain ⟨high, low⟩ := Bool.and_eq_true_iff.1 pair
    have first : isLone before u (some v) = false := by
      simp [isLone, low, not_isLow_of_isHigh high]
    have second : isLone (some u) v rest.head? = false := by
      simp [isLone, high, not_isHigh_of_isLow low]
    have others : encode (decode rest) = repaired (some v) rest := by
      apply ih
      simp [not_isHigh_of_isLow low]
    rw [decode, if_pos pair, encode, List.flatMap_cons, encodeChar_ofPair high low, repaired,
      List.head?_cons, first, repaired, second, ← others]
    rfl
  | case4 u v rest single ih =>
    have lone : isLone before u (some v) = (isHigh u || isLow u) := by
      cases high : isHigh u <;> cases low : isLow u <;> simp_all [isLone]
    have others : encode (decode (v :: rest)) = repaired (some u) (v :: rest) := by
      apply ih
      simpa using single
    rw [decode, if_neg single, encode, List.flatMap_cons, encodeChar_ofUnit, repaired,
      List.head?_cons, lone, ← others]
    rfl

theorem encode_decode (units : List UInt16) : encode (decode units) = repaired none units :=
  encode_decode_after none units rfl

end Utf16

namespace ModifiedUtf8

private theorem ofNat_ne_zero {n : Nat} (positive : 0 < n) (small : n < 0x100) :
    UInt8.ofNat n ≠ 0 := by
  intro zero
  have value : (UInt8.ofNat n).toNat = 0 := by rw [zero]; rfl
  rw [UInt8.toNat_ofNat'] at value
  omega

/-- NUL takes two bytes, and in longer groups every byte has its highest bit. -/
theorem zero_notMem_encodeUnit (u : UInt16) : 0 ∉ encodeUnit u := by
  have bound : u.toNat < 2 ^ 16 := u.toNat_lt
  intro zero
  unfold encodeUnit at zero
  dsimp only at zero
  split at zero
  · rename_i plain
    rw [List.mem_singleton] at zero
    exact ofNat_ne_zero (by omega) (by omega) zero.symm
  · split at zero
    · simp only [List.mem_cons, List.not_mem_nil, or_false] at zero
      rcases zero with first | second
      · exact ofNat_ne_zero (by omega) (by omega) first.symm
      · exact ofNat_ne_zero (by omega) (by omega) second.symm
    · simp only [List.mem_cons, List.not_mem_nil, or_false] at zero
      rcases zero with first | second | third
      · exact ofNat_ne_zero (by omega) (by omega) first.symm
      · exact ofNat_ne_zero (by omega) (by omega) second.symm
      · exact ofNat_ne_zero (by omega) (by omega) third.symm

theorem zero_notMem_encodeUnits (units : List UInt16) : 0 ∉ encodeUnits units := by
  intro zero
  obtain ⟨u, -, inside⟩ := List.mem_flatMap.1 zero
  exact zero_notMem_encodeUnit u inside

/-- Code units are read back from their bytes as the text that they spell, and the units of that
text are the same but for lone surrogates, each of which has become U+FFFD. A text is read back as
it was, and the bytes of neither hold a zero. -/
theorem decode?_repaired (units : List UInt16) :
    (∃ text, decode? (encodeUnits units) = some text ∧ text.toList = Utf16.decode units ∧
      Utf16.encode text.toList = Utf16.repaired none units) ∧
    0 ∉ encodeUnits units ∧ ∀ text, decode? (encode text) = some text ∧ 0 ∉ encode text := by
  refine ⟨⟨_, decode?_encodeUnits units, String.toList_ofList, ?_⟩,
    zero_notMem_encodeUnits units, fun text => ⟨decode?_encode text, zero_notMem_encodeUnits _⟩⟩
  rw [String.toList_ofList, Utf16.encode_decode]

end ModifiedUtf8
end Linkage
