/-!
Decompression of deflated data: blocks of bytes, of lengths and of distances, most of them in codes
whose lengths in bits the block itself gives. The rules are those of the DEFLATE format.
-/
namespace Linkage.Inflate

/-- How far the data have been read, in bits, and what they have given. -/
structure Progress where
  position : Nat
  output : Array UInt8

/-- A step of the decompression. -/
abbrev Step := ReaderT (Array UInt8) (StateT Progress Option)

/-- Reads a bit. -/
def bit : Step Nat := do
  let p ← get
  match (← read)[p.position / 8]? with
  | none => failure
  | some byte =>
    set { p with position := p.position + 1 }
    return (byte.toNat >>> (p.position % 8)) % 2

/-- Reads a number of `count` bits, the lowest first. -/
def bits : Nat → Step Nat
  | 0 => return 0
  | count + 1 => do
    let low ← bit
    return low + 2 * (← bits count)

/-- Writes a byte. -/
def emit (byte : UInt8) : Step Unit := modify fun p => { p with output := p.output.push byte }

/-- A code: how many of its words have each length, and the symbols in the order of their words. -/
structure Code where
  counts : List Nat
  symbols : Array Nat

/-- The greatest length of a word of a code. -/
def longestWord : Nat := 15

/-- The code in which the symbols have words of the given lengths; a symbol of length zero has no
word. -/
def Code.ofLengths (lengths : List Nat) : Code :=
  let ofLength (length : Nat) : List Nat :=
    lengths.zipIdx.filterMap fun (l, symbol) => if l = length then some symbol else none
  let groups := (List.range' 1 longestWord).map ofLength
  ⟨groups.map List.length, groups.flatten.toArray⟩

/-- Reads a word of a code, one bit at a time. `word` is what has been read, `first` the first word
of this length, and `index` the number of shorter words. -/
def symbolFrom (code : Code) (word first index : Nat) : List Nat → Step Nat
  | [] => failure
  | count :: counts => do
    let word := 2 * word + (← bit)
    let first := 2 * first
    if word < first + count then
      match code.symbols[index + (word - first)]? with
      | some symbol => return symbol
      | none => failure
    else symbolFrom code word (first + count) (index + count) counts

/-- Reads a symbol of a code. -/
def symbol (code : Code) : Step Nat := symbolFrom code 0 0 0 code.counts

/-- The lengths that the symbols from 257 on stand for, with the number of further bits. -/
def lengthTable : List (Nat × Nat) :=
  [(3, 0), (4, 0), (5, 0), (6, 0), (7, 0), (8, 0), (9, 0), (10, 0), (11, 1), (13, 1), (15, 1),
    (17, 1), (19, 2), (23, 2), (27, 2), (31, 2), (35, 3), (43, 3), (51, 3), (59, 3), (67, 4),
    (83, 4), (99, 4), (115, 4), (131, 5), (163, 5), (195, 5), (227, 5), (258, 0)]

/-- The distances that symbols stand for, with the number of further bits. -/
def distanceTable : List (Nat × Nat) :=
  [(1, 0), (2, 0), (3, 0), (4, 0), (5, 1), (7, 1), (9, 2), (13, 2), (17, 3), (25, 3), (33, 4),
    (49, 4), (65, 5), (97, 5), (129, 6), (193, 6), (257, 7), (385, 7), (513, 8), (769, 8),
    (1025, 9), (1537, 9), (2049, 10), (3073, 10), (4097, 11), (6145, 11), (8193, 12), (12289, 12),
    (16385, 13), (24577, 13)]

/-- Reads the further bits of an entry of a table. -/
def tableValue (table : List (Nat × Nat)) (index : Nat) : Step Nat :=
  match table[index]? with
  | some (base, extra) => return base + (← bits extra)
  | none => failure

/-- Writes bytes again that were written at a distance. -/
def copy (distance : Nat) : Nat → Step Unit
  | 0 => return ()
  | length + 1 => do
    let output := (← get).output
    if distance = 0 ∨ output.size < distance then failure
    match output[output.size - distance]? with
    | some byte => emit byte; copy distance length
    | none => failure

/-- Reads the symbols of a block up to its end, at most `limit` of them. -/
def symbols (literals distances : Code) : Nat → Step Unit
  | 0 => failure
  | limit + 1 => do
    let s ← symbol literals
    if s < 256 then
      emit (UInt8.ofNat s)
      symbols literals distances limit
    else if s = 256 then return ()
    else
      let length ← tableValue lengthTable (s - 257)
      let distance ← tableValue distanceTable (← symbol distances)
      copy distance length
      symbols literals distances limit

/-- The codes of blocks that give none. -/
def fixedCodes : Code × Code :=
  (.ofLengths (List.replicate 144 8 ++ List.replicate 112 9 ++ List.replicate 24 7 ++
      List.replicate 8 8),
    .ofLengths (List.replicate 30 5))

/-- The order in which the lengths of the code for lengths are given. -/
def lengthOrder : List Nat := [16, 17, 18, 0, 8, 7, 9, 6, 10, 5, 11, 4, 12, 3, 13, 2, 14, 1, 15]

/-- Reads the lengths of the words of two codes until there are `wanted`, in at most `limit`
symbols; the lengths read are kept with the last one first. -/
def lengths (code : Code) (wanted : Nat) (read : List Nat) : Nat → Step (List Nat)
  | 0 => failure
  | limit + 1 => do
    if wanted ≤ read.length then return (read.reverse.take wanted)
    let s ← symbol code
    if s < 16 then lengths code wanted (s :: read) limit
    else if s = 16 then
      let count := 3 + (← bits 2)
      match read with
      | last :: _ => lengths code wanted (List.replicate count last ++ read) limit
      | [] => failure
    else
      let count ← if s = 17 then (3 + ·) <$> bits 3 else (11 + ·) <$> bits 7
      lengths code wanted (List.replicate count 0 ++ read) limit

/-- Reads the codes of a block. -/
def dynamicCodes : Step (Code × Code) := do
  let literalCount := 257 + (← bits 5)
  let distanceCount := 1 + (← bits 5)
  let lengthCount := 4 + (← bits 4)
  let given ← (lengthOrder.take lengthCount).mapM fun s => do return (s, ← bits 3)
  let code := Code.ofLengths ((List.range 19).map fun s => (given.lookup s).getD 0)
  let total := literalCount + distanceCount
  let all ← lengths code total [] (total + 1)
  return (.ofLengths (all.take literalCount), .ofLengths (all.drop literalCount))

/-- Copies a number of whole bytes. -/
def stored : Nat → Step Unit
  | 0 => return ()
  | count + 1 => do
    emit (UInt8.ofNat (← bits 8))
    stored count

/-- Reads a block and tells whether it is the last. -/
def block (limit : Nat) : Step Bool := do
  let isLast := (← bit) = 1
  match ← bits 2 with
  | 0 =>
    modify fun p => { p with position := (p.position + 7) / 8 * 8 }
    let length ← bits 16
    discard (bits 16)
    stored length
  | 1 => symbols fixedCodes.1 fixedCodes.2 limit
  | 2 =>
    let (literals, distances) ← dynamicCodes
    symbols literals distances limit
  | _ => failure
  return isLast

/-- Reads blocks up to the last one. -/
def blocks (limit : Nat) : Nat → Step Unit
  | 0 => failure
  | count + 1 => do
    if ← block limit then return ()
    blocks limit count

/-- The data that deflated data stand for. Every symbol and every block takes a bit at least, which
bounds their number. -/
def inflate? (data : Array UInt8) : Option (Array UInt8) := do
  let limit := 8 * data.size + 1
  let (_, p) ← ((blocks limit limit).run data).run ⟨0, #[]⟩
  return p.output

end Linkage.Inflate
