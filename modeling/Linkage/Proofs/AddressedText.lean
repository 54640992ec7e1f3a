import Linkage.Proofs.Addressing
import Linkage.Proofs.DescriptorGrammar
import Linkage.Proofs.Encoding
import Linkage.ClassFile.ModifiedUtf8
import Linkage.Symbol.Field

/-!
Texts over addresses. The encoded text of a constant is decoded by index, with the bits of a code
unit shifted into place, and a descriptor is cut at offsets that count the bytes of its characters.
Both end without fault, with what is read off the front of lists (`decodeText_eq`, `typeOf_eq`,
`methodOf_eq`).
-/
namespace Linkage.Addressed
open ModifiedUtf8

/-! ### Encoded text -/

/-- The six bits of the continuation byte at a position. -/
def continuation (bytes : Bytes) (i : Nat) : Guarded Nat :=
  match bytes[i]? with
  | some b => if b &&& 0xC0 = 0x80 then pure (b &&& 0x3F).toNat else throw .invalidModifiedUtf8
  | none => throw .invalidModifiedUtf8

/-- The code unit that starts at a position and the number of its bytes. -/
def unitAt (bytes : Bytes) (i : Nat) : Guarded (Nat × Nat) := do
  let lead ← item bytes i
  if 1 ≤ lead.toNat ∧ lead.toNat < 0x80 then return (lead.toNat, 1)
  else if 0xC0 ≤ lead.toNat ∧ lead.toNat < 0xE0 then
    let low ← continuation bytes (← word 64 (i + 1))
    return ((← word 16 ((lead &&& 0x1F).toNat <<< 6)) ||| low, 2)
  else if 0xE0 ≤ lead.toNat ∧ lead.toNat < 0xF0 then
    let middle ← continuation bytes (← word 64 (i + 1))
    let low ← continuation bytes (← word 64 (i + 2))
    return ((← word 16 ((lead &&& 0x0F).toNat <<< 12)) ||| (← word 16 (middle <<< 6)) ||| low, 3)
  else throw .invalidModifiedUtf8

/-- The code units from a position on, in so many turns at most. -/
def unitsFrom (bytes : Bytes) (i : Nat) : Nat → Guarded (List UInt16)
  | 0 => if i < bytes.length then throwThe Fault .endless else return []
  | turns + 1 =>
    if i < bytes.length then do
      let (unit, width) ← unitAt bytes i
      return UInt16.ofNat unit :: (← unitsFrom bytes (← word 64 (i + width)) turns)
    else return []

/-- The text of a byte string. -/
def decodeText (bytes : Bytes) : Guarded String :=
  if isPlain bytes then return String.ofList (bytes.map fun b => Char.ofNat b.toNat)
  else return String.ofList (Utf16.decode (← unitsFrom bytes 0 bytes.length))

/-- What was decoded, if the encoding is right. -/
def decoded {α : Type} : Option α → Except ClassFileError α
  | some a => .ok a
  | none => .error .invalidModifiedUtf8

theorem decoded_eq_ok {α : Type} {x : Option α} {a : α} : decoded x = .ok a ↔ x = some a := by
  cases x <;> simp [decoded]

theorem decoded_bind {α β : Type} (x : Option α) (f : α → Option β) :
    decoded (x >>= f) = (decoded x >>= fun a => decoded (f a)) := by
  cases x <;> rfl

private theorem forall_byte {P : UInt8 → Prop} (all : ∀ n < 256, P (UInt8.ofNat n)) (b : UInt8) :
    P b := by
  have here := all b.toNat b.toNat_lt
  rwa [UInt8.ofNat_toNat] at here

theorem and_six (b : UInt8) :
    (b &&& 0xC0 = 0x80 ↔ 0x80 ≤ b.toNat ∧ b.toNat < 0xC0) ∧
      (b &&& 0x3F).toNat = b.toNat % 64 ∧ (b &&& 0x1F).toNat = b.toNat % 32 ∧
        (b &&& 0x0F).toNat = b.toNat % 16 := by
  revert b
  apply forall_byte
  decide +kernel

theorem continuation_eq (bytes : Bytes) (i : Nat) :
    continuation bytes i = ended (decoded (bytes[i]?.bind continuation?)) := by
  unfold continuation
  cases bytes[i]? with
  | none => rfl
  | some b =>
    obtain ⟨isContinuation, six, -⟩ := and_six b
    dsimp only [Option.bind_some]
    unfold continuation?
    split
    · rename_i marked
      have bounds := isContinuation.1 marked
      have bits : b.toNat % 64 = b.toNat - 0x80 := by omega
      rw [if_pos bounds, six, bits]
      rfl
    · rename_i other
      rw [if_neg fun bounds => other (isContinuation.2 bounds)]
      rfl

theorem lt_of_continuation {x : Option UInt8} {n : Nat}
    (read : decoded (x.bind continuation?) = .ok n) : n < 2 ^ 6 := by
  cases x with
  | none => cases read
  | some b =>
    rw [Option.bind_some, continuation?] at read
    split at read
    · have same : b.toNat - 0x80 = n := Except.ok.inj read
      omega
    · cases read

/-- The code unit at the front of a byte string and the number of its bytes. -/
def unit? : Bytes → Option (Nat × Nat)
  | [] => none
  | lead :: rest =>
    if 1 ≤ lead.toNat ∧ lead.toNat < 0x80 then some (lead.toNat, 1)
    else if 0xC0 ≤ lead.toNat ∧ lead.toNat < 0xE0 then do
      let low ← rest[0]?.bind continuation?
      some ((lead.toNat - 0xC0) * 0x40 + low, 2)
    else if 0xE0 ≤ lead.toNat ∧ lead.toNat < 0xF0 then do
      let middle ← rest[0]?.bind continuation?
      let low ← rest[1]?.bind continuation?
      some ((lead.toNat - 0xE0) * 0x1000 + middle * 0x40 + low, 3)
    else none

theorem decodeUnits?_cons (lead : UInt8) (rest : Bytes) : decodeUnits? (lead :: rest) = do
    let (unit, width) ← unit? (lead :: rest)
    return UInt16.ofNat unit :: (← decodeUnits? (rest.drop (width - 1))) := by
  rw [decodeUnits?.eq_def, unit?]
  dsimp only
  split
  · rfl
  · split
    · cases rest with
      | nil => rfl
      | cons b rest =>
        simp only [List.getElem?_cons_zero, Option.bind_some]
        cases continuation? b <;> rfl
    · split
      · match rest with
        | [] => rfl
        | [b] =>
          simp only [List.getElem?_cons_zero, Option.bind_some]
          cases continuation? b <;> rfl
        | b :: c :: rest =>
          simp only [List.getElem?_cons_zero, List.getElem?_cons_succ, Option.bind_some]
          cases continuation? b <;> cases continuation? c <;> rfl
      · rfl

theorem shiftLeft_or_or {middle low : Nat} (smallMiddle : middle < 2 ^ 6) (small : low < 2 ^ 6)
    (high : Nat) :
    high <<< 12 ||| middle <<< 6 ||| low = high * 0x1000 + middle * 0x40 + low := by
  have below : middle <<< 6 < 2 ^ 12 := by
    rw [Nat.shiftLeft_eq]
    omega
  -- the middle bits lie below the high ones, and the low bits below both
  have joined : high <<< 12 ||| middle <<< 6 = (high * 2 ^ 6 + middle) <<< 6 := by
    rw [shiftLeft_or below, Nat.shiftLeft_eq, Nat.shiftLeft_eq]
    omega
  rw [joined, shiftLeft_or small]
  omega

theorem unitAt_eq {bytes rest : Bytes} {lead : UInt8} {i : Nat} (fits : bytes.length < 2 ^ 63)
    (here : bytes.drop i = lead :: rest) :
    unitAt bytes i = ended (decoded (unit? (lead :: rest))) := by
  have first : bytes[i]? = some lead := by
    rw [← List.head?_drop, here, List.head?_cons]
  have following (k : Nat) : bytes[i + (k + 1)]? = rest[k]? := by
    rw [← List.getElem?_drop, here, List.getElem?_cons_succ]
  have inside : i < bytes.length := (List.getElem?_eq_some_iff.1 first).1
  have next (k : Nat) (small : k < 2 ^ 63) : (word 64 (i + k) : Guarded Nat) = pure (i + k) :=
    word_of_lt (by omega)
  obtain ⟨-, -, five, four⟩ := and_six lead
  rw [unitAt, item_of_getElem? first, pure_bind, unit?]
  simp only [next 1 (by omega), next 2 (by omega), pure_bind]
  split
  · rfl
  · split
    · rename_i bounds
      rw [decoded_bind, ← following 0]
      refine bind_of_ended (continuation_eq bytes (i + 1)) fun low read => ?_
      have small : low < 2 ^ 6 := lt_of_continuation read
      have high : lead.toNat % 32 = lead.toNat - 0xC0 := by omega
      have shifted : (lead.toNat - 0xC0) <<< 6 < 2 ^ 16 := by
        rw [Nat.shiftLeft_eq]
        omega
      rw [five, high, word_of_lt shifted, pure_bind, shiftLeft_or small]
      rfl
    · split
      · rename_i bounds
        rw [decoded_bind, ← following 0]
        refine bind_of_ended (continuation_eq bytes (i + 1)) fun middle readMiddle => ?_
        rw [decoded_bind, ← following 1]
        refine bind_of_ended (continuation_eq bytes (i + 2)) fun low read => ?_
        have smallMiddle : middle < 2 ^ 6 := lt_of_continuation readMiddle
        have small : low < 2 ^ 6 := lt_of_continuation read
        have high : lead.toNat % 16 = lead.toNat - 0xE0 := by omega
        have shifted : (lead.toNat - 0xE0) <<< 12 < 2 ^ 16 := by
          rw [Nat.shiftLeft_eq]
          omega
        have shiftedMiddle : middle <<< 6 < 2 ^ 16 := by
          rw [Nat.shiftLeft_eq]
          omega
        rw [four, high, word_of_lt shifted, pure_bind, word_of_lt shiftedMiddle, pure_bind,
          shiftLeft_or_or smallMiddle small]
        rfl
      · rfl

theorem width_of_unit? {lead : UInt8} {rest : Bytes} {unit width : Nat}
    (read : unit? (lead :: rest) = some (unit, width)) :
    1 ≤ width ∧ width ≤ rest.length + 1 := by
  have reach {k n : Nat} (given : rest[k]?.bind continuation? = some n) : k < rest.length := by
    obtain ⟨b, there, -⟩ := Option.bind_eq_some_iff.1 given
    exact (List.getElem?_eq_some_iff.1 there).1
  rw [unit?] at read
  split at read
  · cases read
    omega
  · split at read
    · obtain ⟨low, given, same⟩ := Option.bind_eq_some_iff.1 read
      have second := reach given
      cases same
      omega
    · split at read
      · obtain ⟨middle, -, last⟩ := Option.bind_eq_some_iff.1 read
        obtain ⟨low, given, same⟩ := Option.bind_eq_some_iff.1 last
        have third := reach given
        cases same
        omega
      · cases read

theorem unitsFrom_eq {bytes : Bytes} (fits : bytes.length < 2 ^ 63) {turns i : Nat}
    (within : i ≤ bytes.length) (enough : bytes.length - i ≤ turns) :
    unitsFrom bytes i turns = ended (decoded (decodeUnits? (bytes.drop i))) := by
  induction turns generalizing i with
  | zero =>
    have done : bytes.drop i = [] := List.drop_of_length_le (by omega)
    rw [unitsFrom, if_neg (by omega), done]
    rfl
  | succ turns ih =>
    rw [unitsFrom]
    split
    · rename_i more
      obtain ⟨lead, rest, here⟩ := List.exists_cons_of_ne_nil
        (fun done => absurd (List.drop_eq_nil_iff.1 done) (Nat.not_le_of_lt more))
      rw [here, decodeUnits?_cons, decoded_bind]
      refine bind_of_ended (unitAt_eq fits here) fun p read => ?_
      obtain ⟨unit, width⟩ := p
      have bounds := width_of_unit? (decoded_eq_ok.1 read)
      have left := congrArg List.length here
      rw [List.length_drop, List.length_cons] at left
      have after : bytes.drop (i + width) = rest.drop (width - 1) := by
        rw [← List.drop_drop, here]
        obtain ⟨k, rfl⟩ := Nat.exists_eq_add_of_le' bounds.1
        rfl
      dsimp only
      rw [word_of_lt (by omega), pure_bind, ← after, decoded_bind]
      exact bind_of_ended (ih (by omega) (by omega)) fun _ _ => rfl
    · rw [List.drop_of_length_le (by omega)]
      rfl

theorem decodeText_eq {bytes : Bytes} (fits : bytes.length < 2 ^ 63) :
    decodeText bytes = ended (decoded (decode? bytes)) := by
  rw [decodeText, decode?]
  split
  · rfl
  · have units := unitsFrom_eq fits (Nat.zero_le _) (Nat.le_refl bytes.length)
    rw [List.drop_zero] at units
    rw [units]
    cases decodeUnits? bytes <;> rfl

/-! ### Cuts of a text -/

/-- The bytes of a text. -/
def utf8 (text : List Char) : Bytes := text.flatMap String.utf8EncodeChar

/-- The number of bytes of a text. -/
def size (text : List Char) : Nat := (utf8 text).length

@[simp] theorem size_nil : size [] = 0 := rfl

@[simp] theorem size_cons (c : Char) (text : List Char) :
    size (c :: text) = c.utf8Size + size text := by
  rw [size, utf8, List.flatMap_cons, List.length_append, String.length_utf8EncodeChar]
  rfl

@[simp] theorem size_append (front back : List Char) :
    size (front ++ back) = size front + size back := by
  rw [size, utf8, List.flatMap_append, List.length_append]
  rfl

theorem size_le (text : List Char) : size text ≤ 4 * text.length := by
  induction text with
  | nil => simp
  | cons c text ih =>
    have few := c.utf8Size_le_four
    rw [size_cons, List.length_cons]
    omega

theorem length_decodeUnits? {bytes : Bytes} {units : List UInt16}
    (read : decodeUnits? bytes = some units) : units.length ≤ bytes.length := by
  induction left : bytes.length using Nat.strongRecOn generalizing bytes units with
  | ind _ ih =>
    cases bytes with
    | nil =>
      cases read
      exact Nat.zero_le _
    | cons lead rest =>
      rw [decodeUnits?_cons] at read
      obtain ⟨⟨unit, width⟩, -, read⟩ := Option.bind_eq_some_iff.1 read
      obtain ⟨later, more, same⟩ := Option.bind_eq_some_iff.1 read
      cases same
      rw [List.length_cons] at left ⊢
      have shorter : (rest.drop (width - 1)).length ≤ rest.length := by
        rw [List.length_drop]
        omega
      have few := ih _ (by omega) more rfl
      omega

theorem length_utf16Decode (units : List UInt16) : (Utf16.decode units).length ≤ units.length := by
  fun_induction Utf16.decode units with
  | case1 => exact Nat.le_refl _
  | case2 u => exact Nat.le_refl _
  | case3 u v rest _ ih =>
    simp only [List.length_cons]
    omega
  | case4 u v rest _ ih =>
    simp only [List.length_cons] at ih ⊢
    omega

/-- A character takes a byte or more, and a byte makes at most four. -/
theorem size_decode? {bytes : Bytes} {text : String} (read : decode? bytes = some text) :
    size text.toList ≤ 4 * bytes.length := by
  rw [decode?_eq] at read
  obtain ⟨units, isUnits, rfl⟩ := Option.map_eq_some_iff.1 read
  have few := length_decodeUnits? isUnits
  have fewer := length_utf16Decode units
  have bound := size_le (String.ofList (Utf16.decode units)).toList
  rw [String.toList_ofList] at bound ⊢
  omega

section
variable {m : Type → Type} [Monad m] [MonadExceptOf Fault m]

/-- The text from an offset on. -/
def textFrom : List Char → Nat → m (List Char)
  | text, 0 => pure text
  | [], _ + 1 => throwThe Fault .outOfRange
  | c :: text, n + 1 =>
    if n + 1 < c.utf8Size then throwThe Fault .insideCharacter
    else textFrom text (n + 1 - c.utf8Size)

/-- The text before an offset. -/
def textTo : List Char → Nat → m (List Char)
  | _, 0 => pure []
  | [], _ + 1 => throwThe Fault .outOfRange
  | c :: text, n + 1 =>
    if n + 1 < c.utf8Size then throwThe Fault .insideCharacter
    else return c :: (← textTo text (n + 1 - c.utf8Size))

/-- The text from an offset to before another. -/
def textRange (text : List Char) (start stop : Nat) : m (List Char) :=
  if start ≤ stop then do textTo (← textFrom text start) (stop - start)
  else throwThe Fault .outOfRange

theorem textFrom_append (front back : List Char) :
    (textFrom (front ++ back) (size front) : m (List Char)) = pure back := by
  induction front with
  | nil => cases back <;> rfl
  | cons c front ih =>
    obtain ⟨n, width⟩ := Nat.exists_eq_add_of_le' c.utf8Size_pos
    have split : size (c :: front) = n + size front + 1 := by
      rw [size_cons, width]
      omega
    rw [split, List.cons_append, textFrom, if_neg (by omega)]
    have left : n + size front + 1 - c.utf8Size = size front := by omega
    rw [left, ih]

theorem textTo_append [LawfulMonad m] (front back : List Char) :
    (textTo (front ++ back) (size front) : m (List Char)) = pure front := by
  induction front with
  | nil => cases back <;> rfl
  | cons c front ih =>
    obtain ⟨n, width⟩ := Nat.exists_eq_add_of_le' c.utf8Size_pos
    have split : size (c :: front) = n + size front + 1 := by
      rw [size_cons, width]
      omega
    rw [split, List.cons_append, textTo, if_neg (by omega)]
    have left : n + size front + 1 - c.utf8Size = size front := by omega
    rw [left, ih, pure_bind]

theorem textRange_append [LawfulMonad m] (front middle back : List Char) :
    (textRange (front ++ (middle ++ back)) (size front) (size front + size middle) :
      m (List Char)) = pure middle := by
  rw [textRange, if_pos (Nat.le_add_right _ _), textFrom_append, pure_bind,
    Nat.add_sub_cancel_left, textTo_append]

end

/-- The offset of the first mark. -/
def find? (mark : Char) : List Char → Option Nat
  | [] => none
  | c :: text => if c = mark then some 0 else (find? mark text).map (c.utf8Size + ·)

theorem find?_eq (mark : Char) (text : List Char) :
    find? mark text = (Text.splitFirst? mark text).map fun p => size p.1 := by
  induction text with
  | nil => rfl
  | cons c text ih =>
    rw [find?, Text.splitFirst?]
    split
    · rfl
    · rw [ih]
      cases Text.splitFirst? mark text with
      | none => rfl
      | some p =>
        show some (c.utf8Size + size p.1) = some (size (c :: p.1))
        rw [size_cons]

theorem utf8EncodeChar_of_ne {c : Char} (other : c ≠ '[') :
    ∃ b bs, String.utf8EncodeChar c = b :: bs ∧ b ≠ 0x5B := by
  have apart {n : Nat} (different : n % 256 ≠ 0x5B) : UInt8.ofNat n ≠ 0x5B := by
    intro same
    have number := congrArg UInt8.toNat same
    rw [UInt8.toNat_ofNat'] at number
    exact different number
  unfold String.utf8EncodeChar
  dsimp only
  split
  · rename_i ascii
    refine ⟨_, _, rfl, apart fun same => other ?_⟩
    exact Char.toNat_inj.1 (show c.val.toNat = 0x5B by omega)
  · split
    · exact ⟨_, _, rfl, apart (by omega)⟩
    · split
      · exact ⟨_, _, rfl, apart (by omega)⟩
      · exact ⟨_, _, rfl, apart (by omega)⟩

/-- Brackets are counted among the bytes: no other character begins with the byte of one. -/
theorem takeWhile_utf8 (n : Nat) {bare : List Char} (other : bare.head? ≠ some '[') :
    ((utf8 (List.replicate n '[' ++ bare)).takeWhile (· = 0x5B)).length = n := by
  induction n with
  | zero =>
    cases bare with
    | nil => rfl
    | cons c bare =>
      obtain ⟨b, bs, bytes, apart⟩ := utf8EncodeChar_of_ne fun same => other (congrArg some same)
      show ((String.utf8EncodeChar c ++ utf8 bare).takeWhile (· = 0x5B)).length = 0
      rw [bytes, List.cons_append, List.takeWhile_cons_of_neg (by simpa using apart)]
      rfl
  | succ n ih =>
    show ((0x5B :: utf8 (List.replicate n '[' ++ bare)).takeWhile (· = 0x5B)).length = n + 1
    rw [List.takeWhile_cons_of_pos (by decide), List.length_cons, ih]

theorem size_brackets (n : Nat) : size (List.replicate n '[') = n := by
  induction n with
  | zero => rfl
  | succ n ih =>
    rw [List.replicate_succ, size_cons, ih]
    exact Nat.add_comm 1 n

/-! ### Descriptors -/

/-- A computation that gives something or nothing, unless it faults. -/
abbrev Attempt := OptionT (Except Fault)

/-- An attempt that has ended. -/
def attempted {α : Type} (x : Option α) : Attempt α := OptionT.mk (.ok x)

theorem bind_of_attempted {α β : Type} {run : Attempt α} {x : Option α} {f : α → Attempt β}
    {g : α → Option β} (here : run = attempted x)
    (next : ∀ a, x = some a → f a = attempted (g a)) : run >>= f = attempted (x >>= g) := by
  subst here
  cases x with
  | none => rfl
  | some a => exact next a rfl

theorem some_bind {α β : Type} (a : α) (f : α → Attempt β) : attempted (some a) >>= f = f a := rfl

/-- The type without brackets at the front of a text. -/
def splitInnermost (allowVoid : Bool) (text : List Char) :
    Attempt (TypeDescriptor × List Char) := do
  let tag ← attempted text.head?
  if tag = 'V' ∧ allowVoid then return (.void, ← textFrom text 1)
  else if tag = 'L' then
    let stop ← attempted (find? ';' text)
    let name ← textRange text 1 stop
    let c ← attempted (ClassName.ofName (String.ofList name)).toOption
    return (.element (.reference c), ← textFrom text (← word 64 (stop + 1)))
  else
    let p ← attempted (Primitive.ofLetter? tag)
    return (.element (.primitive p), ← textFrom text tag.utf8Size)

/-- The type at the front of a text, of which void only where it is allowed. -/
def splitType (allowVoid : Bool) (text : List Char) : Attempt (TypeDescriptor × List Char) := do
  let dimensions := ((utf8 text).takeWhile (· = 0x5B)).length
  let rest ← textFrom text dimensions
  let (innermost, rest) ← splitInnermost (allowVoid && dimensions == 0) rest
  if dimensions = 0 then return (innermost, rest)
  else
    let dimensions ← attempted (if dimensions < 2 ^ 8 then some dimensions else none)
    let a ← attempted (ArrayType.of innermost dimensions).toOption
    return (.array a, rest)

/-- A class name up to its semicolon. -/
theorem splitName_eq {rest : List Char} (fits : size rest < 2 ^ 63) :
    (do
      let stop ← attempted (find? ';' ('L' :: rest))
      let name ← textRange ('L' :: rest) 1 stop
      let c ← attempted (ClassName.ofName (String.ofList name)).toOption
      return (.element (.reference c), ← textFrom ('L' :: rest) (← word 64 (stop + 1))) :
        Attempt (TypeDescriptor × List Char)) =
      attempted
        ((TypeDescriptor.splitElement? ('L' :: rest)).map fun p => (.element p.1, p.2)) := by
  have first : find? ';' ('L' :: rest) = (find? ';' rest).map (1 + ·) := rfl
  have element : TypeDescriptor.splitElement? ('L' :: rest) = (do
      let cut ← Text.splitFirst? ';' rest
      let c ← (ClassName.ofName (String.ofList cut.1)).toOption
      return (.reference c, cut.2)) := rfl
  rw [first, find?_eq, element]
  cases cut : Text.splitFirst? ';' rest with
  | none => rfl
  | some p =>
    obtain ⟨name, after⟩ := p
    obtain ⟨rfl, -⟩ := Text.splitFirst?_eq_some_iff.1 cut
    rw [size_append, size_cons] at fits
    have range : (textRange ('L' :: (name ++ ';' :: after)) 1 (1 + size name) :
        Attempt (List Char)) = pure name := textRange_append ['L'] name (';' :: after)
    have left : (textFrom ('L' :: (name ++ ';' :: after)) (1 + size name + 1) :
        Attempt (List Char)) = pure after := by
      have cutOff := textFrom_append (m := Attempt) ('L' :: (name ++ [';'])) after
      have total : size ('L' :: (name ++ [';'])) = 1 + size name + 1 := by
        rw [size_cons, size_append, Nat.add_assoc]
        rfl
      rwa [total, List.cons_append, List.append_assoc] at cutOff
    have beyond : 1 + size name + 1 < 2 ^ 64 := by omega
    simp only [Option.map_some, some_bind, range, word_of_lt beyond, left, pure_bind,
      Option.bind_eq_bind, Option.bind_some]
    cases (ClassName.ofName (String.ofList name)).toOption <;> rfl

theorem splitInnermost_eq (allowVoid : Bool) {text : List Char} (fits : size text < 2 ^ 63) :
    splitInnermost allowVoid text = attempted (
      if allowVoid && text.head? == some 'V' then some (.void, text.tail)
      else (TypeDescriptor.splitElement? text).map fun p => (.element p.1, p.2)) := by
  cases text with
  | nil => cases allowVoid <;> rfl
  | cons tag rest =>
    show (if tag = 'V' ∧ allowVoid = true then _ else _) = _
    by_cases void : tag = 'V' ∧ allowVoid = true
    · rw [if_pos void]
      obtain ⟨rfl, rfl⟩ := void
      have left : (textFrom ('V' :: rest) 1 : Attempt (List Char)) = pure rest :=
        textFrom_append ['V'] rest
      rw [left]
      rfl
    · have other : ¬ (allowVoid && (tag :: rest).head? == some 'V') = true := by
        simpa [and_comm] using void
      rw [if_neg void, if_neg other]
      by_cases name : tag = 'L'
      · subst name
        rw [size_cons] at fits
        rw [if_pos rfl]
        exact splitName_eq (by omega)
      · rw [if_neg name]
        have letter : TypeDescriptor.splitElement? (tag :: rest) =
            (Primitive.ofLetter? tag).map fun p => (.primitive p, rest) := by
          unfold TypeDescriptor.splitElement?
          split
          · rename_i same
            cases same
            exact absurd rfl name
          · rename_i same
            cases same
            cases Primitive.ofLetter? tag <;> rfl
          · rename_i same
            cases same
        rw [letter]
        have left : (textFrom (tag :: rest) tag.utf8Size : Attempt (List Char)) = pure rest := by
          have cutOff := textFrom_append (m := Attempt) [tag] rest
          rwa [size_cons, size_nil] at cutOff
        rw [left]
        cases Primitive.ofLetter? tag <;> rfl

theorem splitType_eq (allowVoid : Bool) {text : List Char} (fits : size text < 2 ^ 63) :
    splitType allowVoid text = attempted (TypeDescriptor.split? allowVoid text) := by
  obtain ⟨n, bare, rfl, other⟩ := Descriptor.exists_brackets text
  rw [size_append] at fits
  have rest : (textFrom (List.replicate n '[' ++ bare) n : Attempt (List Char)) = pure bare := by
    have cutOff := textFrom_append (m := Attempt) (List.replicate n '[') bare
    rwa [size_brackets] at cutOff
  rw [splitType, takeWhile_utf8 n other, Descriptor.split?_brackets allowVoid n other]
  dsimp only
  rw [rest, pure_bind, splitInnermost_eq _ (by omega)]
  by_cases plain : n = 0
  · subst plain
    split
    · rfl
    · cases TypeDescriptor.splitElement? bare <;> rfl
  · have noVoid : (n == 0) = false := by simpa using plain
    rw [noVoid, Bool.and_false, Bool.false_and]
    cases TypeDescriptor.splitElement? bare with
    | none => rfl
    | some p =>
      obtain ⟨e, after⟩ := p
      show (if n = 0 then _ else _) = attempted (if n = 0 then _ else _)
      rw [if_neg plain, if_neg plain]
      by_cases few : n < 2 ^ 8
      · rw [if_pos few]
        have array : (ArrayType.of (.element e) n).toOption = TypeDescriptor.arrayOf? e n := by
          unfold ArrayType.of
          dsimp only
          cases TypeDescriptor.arrayOf? e n <;> rfl
        rw [some_bind, array]
        exact bind_of_attempted rfl fun a _ => rfl
      · have none : TypeDescriptor.arrayOf? e n = none := dif_neg (by omega)
        rw [if_neg few, none]
        rfl

/-- The parameter types and what follows their closing parenthesis, in so many turns at most. -/
def splitParameters (text : List Char) : Nat → Attempt (List TypeDescriptor × List Char)
  | 0 => throwThe Fault .endless
  | turns + 1 =>
    if text.head? = some ')' then return ([], text.tail)
    else do
      let (t, rest) ← splitType false text
      let (types, after) ← splitParameters rest turns
      return (t :: types, after)

/-- The parameter types and the return type. -/
def signature : List Char → Attempt (List TypeDescriptor × TypeDescriptor)
  | '(' :: text => do
    let (parameters, rest) ← splitParameters text (text.length + 1)
    let (returnType, after) ← splitType true rest
    attempted (guard after.isEmpty)
    return (parameters, returnType)
  | _ => attempted none

theorem splitParameters_eq {text : List Char} (fits : size text < 2 ^ 63) {turns : Nat}
    (enough : text.length < turns) :
    splitParameters text turns = attempted (MethodDescriptor.splitParameters? text) := by
  induction turns generalizing text with
  | zero => omega
  | succ turns ih =>
    rw [splitParameters, Descriptor.splitParameters?_eq]
    split
    · rfl
    · refine bind_of_attempted (splitType_eq false fits) fun p cut => ?_
      obtain ⟨t, rest⟩ := p
      have shorter := TypeDescriptor.length_of_split? cut
      obtain ⟨w, rfl, -, -⟩ := Descriptor.split?_eq_some_iff.1 cut
      rw [size_append] at fits
      dsimp only
      rw [ih (by omega) (by omega)]
      cases MethodDescriptor.splitParameters? rest <;> rfl

theorem signature_eq {text : List Char} (fits : size text < 2 ^ 63) :
    signature text = attempted (MethodDescriptor.signature? text) := by
  unfold signature
  split
  · rename_i text
    rw [size_cons] at fits
    unfold MethodDescriptor.signature?
    refine bind_of_attempted (splitParameters_eq (by omega) (Nat.lt_succ_self _)) fun p cut => ?_
    obtain ⟨parameters, rest⟩ := p
    obtain ⟨ws, rfl, -⟩ := Descriptor.splitParameters?_eq_some_iff.1 cut
    rw [size_append, size_cons] at fits
    refine bind_of_attempted (splitType_eq true (by omega)) fun q _ => ?_
    exact bind_of_attempted rfl fun _ _ => rfl
  · rename_i other
    unfold MethodDescriptor.signature?
    split
    · rename_i text
      exact absurd rfl (other text)
    · rfl

/-- The type that a compact form denotes. -/
def typeOf (raw : String) : Guarded TypeDescriptor := do
  match ← (splitType true raw.toList).run with
  | some (t, []) => return t
  | _ => throw (.symbol (.malformedDescriptor raw))

/-- The field of a given name whose type is written in compact form. -/
def fieldOf (raw name : String) : Guarded FieldDescriptor := return ⟨name, ← typeOf raw⟩

/-- The method of a given name whose types are written in compact form. -/
def methodOf (raw name : String) : Guarded MethodDescriptor := do
  match ← (signature raw.toList).run with
  | some (parameters, returnType) => return ⟨name, parameters, returnType⟩
  | none => throw (.symbol (.malformedDescriptor raw))

theorem typeOf_eq {raw : String} (fits : size raw.toList < 2 ^ 63) :
    typeOf raw = ended (ClassFileError.ofSymbol (TypeDescriptor.ofRaw raw)) := by
  rw [typeOf, splitType_eq true fits, TypeDescriptor.ofRaw]
  match TypeDescriptor.split? true raw.toList with
  | none => rfl
  | some (t, []) => rfl
  | some (t, c :: rest) => rfl

theorem fieldOf_eq {raw name : String} (fits : size raw.toList < 2 ^ 63) :
    fieldOf raw name = ended (ClassFileError.ofSymbol (FieldDescriptor.ofRaw raw name)) := by
  rw [fieldOf, typeOf_eq fits, FieldDescriptor.ofRaw]
  cases TypeDescriptor.ofRaw raw <;> rfl

theorem methodOf_eq {raw name : String} (fits : size raw.toList < 2 ^ 63) :
    methodOf raw name = ended (ClassFileError.ofSymbol (MethodDescriptor.ofRaw raw name)) := by
  rw [methodOf, signature_eq fits, MethodDescriptor.ofRaw]
  cases MethodDescriptor.signature? raw.toList <;> rfl

end Linkage.Addressed
