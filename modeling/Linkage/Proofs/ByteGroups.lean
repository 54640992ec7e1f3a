import Linkage.Proofs.AddressedText
import Linkage.Proofs.Surrogates

/-!
Which byte strings are encoded texts. They are those that split into groups of one to three bytes,
told apart by their first byte (`IsGroup`), and a byte string splits in one way at most
(`Splits.unique`). Each group holds the bits of one code unit (`groupUnit`), and the text is that of
the code units, also where plain bytes are not read in groups (`decode?_iff_splits`).
-/
namespace Linkage.ModifiedUtf8

/-- A byte from one value to another. -/
def Within (low high b : UInt8) : Prop := low ≤ b ∧ b ≤ high

/-- The bytes of one code unit. -/
inductive IsGroup : Bytes → Prop
  | one {a : UInt8} : Within 0x01 0x7F a → IsGroup [a]
  | two {a b : UInt8} : Within 0xC0 0xDF a → Within 0x80 0xBF b → IsGroup [a, b]
  | three {a b c : UInt8} :
    Within 0xE0 0xEF a → Within 0x80 0xBF b → Within 0x80 0xBF c → IsGroup [a, b, c]

/-- The code unit of a group: of the first byte the bits behind its mark, of the others six each. -/
def groupUnit : Bytes → UInt16
  | [a] => a.toUInt16
  | [a, b] => (a &&& 0x1F).toUInt16 <<< 6 ||| (b &&& 0x3F).toUInt16
  | [a, b, c] =>
    (a &&& 0x0F).toUInt16 <<< 12 ||| (b &&& 0x3F).toUInt16 <<< 6 ||| (c &&& 0x3F).toUInt16
  | _ => 0

/-- A byte string is a row of groups. -/
structure Splits (bytes : Bytes) (groups : List Bytes) : Prop where
  whole : groups.flatten = bytes
  each : ∀ g ∈ groups, IsGroup g

/-- The text of a byte string that is read group by group, be it plain or not. -/
def decodeGroups? (bytes : Bytes) : Option String :=
  (decodeUnits? bytes).map fun units => String.ofList (Utf16.decode units)

/-! ### One group -/

theorem within_iff {low high b : UInt8} :
    Within low high b ↔ low.toNat ≤ b.toNat ∧ b.toNat < high.toNat + 1 := by
  rw [Within, UInt8.le_iff_toNat_le, UInt8.le_iff_toNat_le, Nat.lt_succ_iff]

theorem continuation?_eq_some_iff {b : UInt8} {n : Nat} :
    continuation? b = some n ↔ Within 0x80 0xBF b ∧ b.toNat - 0x80 = n := by
  rw [within_iff]
  exact Option.ite_none_right_eq_some.trans (and_congr_right fun _ => Option.some_inj)

/-- Bits that are shifted within a word. -/
theorem toNat_shiftLeft {u k : UInt16} {n : Nat} (same : u.toNat = n) (short : k.toNat < 16)
    (fits : n * 2 ^ k.toNat < 2 ^ 16) : (u <<< k).toNat = n <<< k.toNat := by
  rw [UInt16.toNat_shiftLeft, same, Nat.mod_eq_of_lt short, Nat.mod_eq_of_lt]
  rwa [Nat.shiftLeft_eq]

theorem toNat_six {b : UInt8} (bounds : 0x80 ≤ b.toNat ∧ b.toNat < 0xC0) :
    (b &&& 0x3F).toUInt16.toNat = b.toNat - 0x80 := by
  obtain ⟨-, six, -⟩ := Addressed.and_six b
  rw [UInt8.toNat_toUInt16, six]
  omega

theorem groupUnit_one {a : UInt8} : groupUnit [a] = UInt16.ofNat a.toNat := by
  have small : a.toNat < 2 ^ 8 := a.toNat_lt
  apply UInt16.toNat_inj.1
  rw [groupUnit, UInt8.toNat_toUInt16, UInt16.toNat_ofNat']
  omega

theorem groupUnit_two {a b : UInt8} (lead : 0xC0 ≤ a.toNat ∧ a.toNat < 0xE0)
    (tail : 0x80 ≤ b.toNat ∧ b.toNat < 0xC0) :
    groupUnit [a, b] = UInt16.ofNat ((a.toNat - 0xC0) * 0x40 + (b.toNat - 0x80)) := by
  obtain ⟨-, -, five, -⟩ := Addressed.and_six a
  have high : (a &&& 0x1F).toUInt16.toNat = a.toNat - 0xC0 := by
    rw [UInt8.toNat_toUInt16, five]
    omega
  have fits : (a.toNat - 0xC0) * 2 ^ 6 < 2 ^ 16 := by omega
  have shifted : ((a &&& 0x1F).toUInt16 <<< 6).toNat = (a.toNat - 0xC0) <<< 6 :=
    toNat_shiftLeft high (by decide) fits
  apply UInt16.toNat_inj.1
  rw [groupUnit, UInt16.toNat_or, shifted, toNat_six tail, Addressed.shiftLeft_or (by omega),
    UInt16.toNat_ofNat']
  omega

theorem groupUnit_three {a b c : UInt8} (lead : 0xE0 ≤ a.toNat ∧ a.toNat < 0xF0)
    (middle : 0x80 ≤ b.toNat ∧ b.toNat < 0xC0) (last : 0x80 ≤ c.toNat ∧ c.toNat < 0xC0) :
    groupUnit [a, b, c] =
      UInt16.ofNat ((a.toNat - 0xE0) * 0x1000 + (b.toNat - 0x80) * 0x40 + (c.toNat - 0x80)) := by
  obtain ⟨-, -, -, four⟩ := Addressed.and_six a
  have high : (a &&& 0x0F).toUInt16.toNat = a.toNat - 0xE0 := by
    rw [UInt8.toNat_toUInt16, four]
    omega
  have fits : (a.toNat - 0xE0) * 2 ^ 12 < 2 ^ 16 := by omega
  have fitsMiddle : (b.toNat - 0x80) * 2 ^ 6 < 2 ^ 16 := by omega
  have shifted : ((a &&& 0x0F).toUInt16 <<< 12).toNat = (a.toNat - 0xE0) <<< 12 :=
    toNat_shiftLeft high (by decide) fits
  have shiftedMiddle : ((b &&& 0x3F).toUInt16 <<< 6).toNat = (b.toNat - 0x80) <<< 6 :=
    toNat_shiftLeft (toNat_six middle) (by decide) fitsMiddle
  apply UInt16.toNat_inj.1
  rw [groupUnit, UInt16.toNat_or, UInt16.toNat_or, shifted, shiftedMiddle, toNat_six last,
    Addressed.shiftLeft_or_or (by omega) (by omega), UInt16.toNat_ofNat']
  omega

/-- A group in front is read as its code unit. -/
theorem IsGroup.decodeUnits? {g : Bytes} (group : IsGroup g) (rest : Bytes) :
    decodeUnits? (g ++ rest) = (decodeUnits? rest).map (groupUnit g :: ·) := by
  cases group with
  | one lead =>
    rw [groupUnit_one]
    exact decodeUnits?_one (within_iff.1 lead) rest
  | two lead tail =>
    rw [groupUnit_two (within_iff.1 lead) (within_iff.1 tail)]
    exact decodeUnits?_two (within_iff.1 lead) (continuation?_eq_some_iff.2 ⟨tail, rfl⟩) rest
  | three lead middle last =>
    rw [groupUnit_three (within_iff.1 lead) (within_iff.1 middle) (within_iff.1 last)]
    exact decodeUnits?_three (within_iff.1 lead) (continuation?_eq_some_iff.2 ⟨middle, rfl⟩)
      (continuation?_eq_some_iff.2 ⟨last, rfl⟩) rest

/-- Where a code unit is read in front, a group stands there. -/
theorem exists_group_of_unit? {lead : UInt8} {rest : Bytes} {unit width : Nat}
    (read : Addressed.unit? (lead :: rest) = some (unit, width)) :
    ∃ g, IsGroup g ∧ lead :: rest = g ++ rest.drop (width - 1) := by
  rw [Addressed.unit?] at read
  split at read
  · rename_i bounds
    cases read
    exact ⟨[lead], .one (within_iff.2 bounds), rfl⟩
  · split at read
    · rename_i bounds
      obtain ⟨low, second, same⟩ := Option.bind_eq_some_iff.1 read
      obtain ⟨b, there, isTail⟩ := Option.bind_eq_some_iff.1 second
      cases rest with
      | nil => cases there
      | cons b rest =>
        cases there
        cases same
        have tail := (continuation?_eq_some_iff.1 isTail).1
        exact ⟨[lead, b], .two (within_iff.2 bounds) tail, rfl⟩
    · split at read
      · rename_i bounds
        obtain ⟨middle, second, third⟩ := Option.bind_eq_some_iff.1 read
        obtain ⟨low, third, same⟩ := Option.bind_eq_some_iff.1 third
        obtain ⟨b, there, isTail⟩ := Option.bind_eq_some_iff.1 second
        obtain ⟨c, behind, isLast⟩ := Option.bind_eq_some_iff.1 third
        cases rest with
        | nil => cases there
        | cons b rest =>
          cases rest with
          | nil => cases behind
          | cons c rest =>
            cases there
            cases behind
            cases same
            have tail := (continuation?_eq_some_iff.1 isTail).1
            have last := (continuation?_eq_some_iff.1 isLast).1
            exact ⟨[lead, b, c], .three (within_iff.2 bounds) tail last, rfl⟩
      · cases read

/-- The number of bytes of the group that starts with a byte. -/
def groupWidth (lead : UInt8) : Nat :=
  if lead.toNat < 0x80 then 1 else if lead.toNat < 0xE0 then 2 else 3

/-- The first byte of a group tells its width. -/
theorem IsGroup.exists_lead {g : Bytes} (group : IsGroup g) :
    ∃ lead tail, g = lead :: tail ∧ g.length = groupWidth lead := by
  cases group with
  | @one a lead =>
    obtain ⟨-, high⟩ : _ ∧ a.toNat < 0x80 := within_iff.1 lead
    exact ⟨a, [], rfl, by rw [groupWidth, if_pos high]; rfl⟩
  | @two a b lead tail =>
    obtain ⟨low, high⟩ : 0xC0 ≤ a.toNat ∧ a.toNat < 0xE0 := within_iff.1 lead
    exact ⟨a, [b], rfl, by rw [groupWidth, if_neg (by omega), if_pos high]; rfl⟩
  | @three a b c lead middle last =>
    obtain ⟨low, -⟩ : 0xE0 ≤ a.toNat ∧ _ := within_iff.1 lead
    exact ⟨a, [b, c], rfl, by rw [groupWidth, if_neg (by omega), if_neg (by omega)]; rfl⟩

/-- Groups that start alike are one. -/
theorem IsGroup.append_inj {g h rest others : Bytes} (group : IsGroup g) (other : IsGroup h)
    (same : g ++ rest = h ++ others) : g = h ∧ rest = others := by
  obtain ⟨a, s, rfl, width⟩ := group.exists_lead
  obtain ⟨b, t, rfl, otherWidth⟩ := other.exists_lead
  have lead : a = b := (List.cons.inj same).1
  exact List.append_inj same (by rw [width, otherWidth, lead])

/-! ### All groups -/

namespace Splits

theorem nil : Splits [] [] := ⟨rfl, by simp⟩

theorem cons {g rest : Bytes} {groups : List Bytes} (group : IsGroup g)
    (splits : Splits rest groups) : Splits (g ++ rest) (g :: groups) :=
  ⟨by rw [List.flatten_cons, splits.whole], List.forall_mem_cons.2 ⟨group, splits.each⟩⟩

theorem decodeUnits? {bytes : Bytes} {groups : List Bytes} (splits : Splits bytes groups) :
    decodeUnits? bytes = some (groups.map groupUnit) := by
  obtain ⟨rfl, each⟩ := splits
  induction groups with
  | nil => rfl
  | cons g groups ih =>
    have others := ih fun h member => each h (List.mem_cons_of_mem _ member)
    rw [List.flatten_cons, (each g List.mem_cons_self).decodeUnits?, others]
    rfl

theorem unique {bytes : Bytes} {groups others : List Bytes} (splits : Splits bytes groups)
    (again : Splits bytes others) : groups = others := by
  obtain ⟨rfl, each⟩ := splits
  obtain ⟨same, eachOther⟩ := again
  induction groups generalizing others with
  | nil =>
    cases others with
    | nil => rfl
    | cons h others =>
      obtain ⟨b, t, rfl, -⟩ := (eachOther h List.mem_cons_self).exists_lead
      cases same
  | cons g groups ih =>
    cases others with
    | nil =>
      obtain ⟨a, s, rfl, -⟩ := (each g List.mem_cons_self).exists_lead
      cases same
    | cons h others =>
      rw [List.flatten_cons, List.flatten_cons] at same
      obtain ⟨rfl, rest⟩ :=
        (eachOther h List.mem_cons_self).append_inj (each g List.mem_cons_self) same
      rw [ih (fun k member => each k (List.mem_cons_of_mem _ member)) rest
        fun k member => eachOther k (List.mem_cons_of_mem _ member)]

end Splits

/-- What can be read is a row of groups. Each code unit takes one off the front. -/
theorem exists_splits {bytes : Bytes} {units : List UInt16}
    (read : decodeUnits? bytes = some units) : ∃ groups, Splits bytes groups := by
  induction length : bytes.length using Nat.strongRecOn generalizing bytes units with
  | ind n ih =>
    cases bytes with
    | nil => exact ⟨[], .nil⟩
    | cons lead rest =>
      rw [Addressed.decodeUnits?_cons] at read
      obtain ⟨⟨unit, width⟩, first, others⟩ := Option.bind_eq_some_iff.1 read
      obtain ⟨units, readRest, -⟩ := Option.bind_eq_some_iff.1 others
      obtain ⟨g, group, same⟩ := exists_group_of_unit? first
      have shorter : (rest.drop (width - 1)).length < n := by
        rw [← length, List.length_drop, List.length_cons]
        omega
      obtain ⟨groups, splits⟩ := ih _ shorter readRest rfl
      exact ⟨g :: groups, same ▸ splits.cons group⟩

theorem decode?_eq_some_iff {bytes : Bytes} {text : String} :
    decode? bytes = some text ↔ ∃ groups, Splits bytes groups ∧
      text.toList = Utf16.decode (groups.map groupUnit) := by
  rw [decode?_eq, Option.map_eq_some_iff]
  constructor
  · rintro ⟨units, read, rfl⟩
    obtain ⟨groups, splits⟩ := exists_splits read
    refine ⟨groups, splits, ?_⟩
    rw [String.toList_ofList, Option.some.inj (read.symm.trans splits.decodeUnits?)]
  · rintro ⟨groups, splits, same⟩
    exact ⟨_, splits.decodeUnits?, by rw [← same, String.ofList_toList]⟩

theorem isSome_decode?_iff {bytes : Bytes} :
    (decode? bytes).isSome ↔ ∃ groups, Splits bytes groups := by
  rw [Option.isSome_iff_exists]
  constructor
  · rintro ⟨text, read⟩
    obtain ⟨groups, splits, -⟩ := decode?_eq_some_iff.1 read
    exact ⟨groups, splits⟩
  · rintro ⟨groups, splits⟩
    exact ⟨_, decode?_eq_some_iff.2 ⟨groups, splits, String.toList_ofList⟩⟩

/-- A byte string is an encoded text exactly if it is a row of groups. It is so in one way at most,
and the text is that of the code units of the groups: its own code units are the same but for lone
surrogates, each of which has become U+FFFD. Reading plain bytes group by group as well makes no
difference. -/
theorem decode?_iff_splits (bytes : Bytes) :
    ((decode? bytes).isSome ↔ ∃ groups, Splits bytes groups) ∧
    (∀ groups others, Splits bytes groups → Splits bytes others → groups = others) ∧
    (∀ text, decode? bytes = some text ↔ ∃ groups, Splits bytes groups ∧
      text.toList = Utf16.decode (groups.map groupUnit)) ∧
    (∀ text groups, decode? bytes = some text → Splits bytes groups →
      Utf16.encode text.toList = Utf16.repaired none (groups.map groupUnit)) ∧
    decodeGroups? bytes = decode? bytes := by
  refine ⟨isSome_decode?_iff, fun _ _ => Splits.unique, fun _ => decode?_eq_some_iff, ?_,
    (decode?_eq bytes).symm⟩
  intro text groups read splits
  obtain ⟨others, again, same⟩ := decode?_eq_some_iff.1 read
  rw [same, Utf16.encode_decode, splits.unique again]

end Linkage.ModifiedUtf8
