import SheetInspector.Zip.Piece

set_option autoImplicit false

/-! # Inflating

The DEFLATE format: a sequence of blocks of bits, each of which gives bytes as they are, or
literals and references to earlier output in prefix codes that are fixed or described in the
block itself. Bits are taken from the low end of every byte.

Reading ends in one of three ways: after the last block, where the bits run out, or at bits
that mean nothing. The output is handed on when a window of it is full and more is to come, and
when further input has to be fetched. What has been handed on by the time of a failure is kept.
-/

namespace SheetInspector.Zip

/-- Why inflating stops before the last block ends. -/
inductive Stop where
  /-- The bits run out. -/
  | short
  /-- The bits mean nothing. -/
  | corrupt
  deriving DecidableEq, Repr

/-- The bits not yet read and the output so far. -/
structure Inflater where
  /-- The bytes of which no bit has been read. -/
  rest : Bytes
  /-- The unread bits of the byte before those, as a number. -/
  bits : Nat
  /-- How many bits that number has. -/
  left : Nat
  /-- How many bytes have been begun. -/
  taken : Nat
  output : Array UInt8
  /-- How much output there was whenever further input had to be fetched, the latest first. -/
  fetches : List Nat

/-- Input is fetched in portions of this size. -/
def portionSize : Nat := 8192

/-- A computation that reads bits and appends output. -/
abbrev Inflating := ExceptT Stop (StateM Inflater)

namespace Inflating

/-- The next bit. -/
def bit : Inflating Nat := do
  let s ← get
  if s.left = 0 then
    match s.rest with
    | [] => throw .short
    | b :: rest =>
      let fetched := s.taken ≠ 0 && s.taken % portionSize == 0
      set { s with
        rest
        bits := b.toNat / 2
        left := 7
        taken := s.taken + 1
        fetches := if fetched then s.output.size :: s.fetches else s.fetches }
      return b.toNat % 2
  else
    set { s with bits := s.bits / 2, left := s.left - 1 }
    return s.bits % 2

/-- A number of `n` bits, the lowest bit first. -/
def number : Nat → Inflating Nat
  | 0 => return 0
  | n + 1 => do
    let b ← bit
    return b + 2 * (← number n)

/-- Appends a byte to the output. -/
def emit (b : UInt8) : Inflating Unit := modify fun s => { s with output := s.output.push b }

/-- The byte that stands `distance` bytes before the end of the output; in front of the output
there are zeros. -/
def byteBack (distance : Nat) (output : Array UInt8) : UInt8 :=
  if distance ≤ output.size then output.getD (output.size - distance) 0 else 0

/-- Appends `length` bytes that each stand `distance` bytes before the end of the output. -/
def copy (distance : Nat) (output : Array UInt8) : Nat → Array UInt8
  | 0 => output
  | length + 1 => copy distance (output.push (byteBack distance output)) length

/-- Skips the unread bits of a byte. -/
def align : Inflating Unit := modify fun s => { s with bits := 0, left := 0 }

end Inflating

/-! ## Prefix codes -/

/-- A canonical prefix code: how many symbols have a codeword of one bit, two bits and so on,
and all symbols in the order of their codewords. -/
structure PrefixCode where
  counts : List Nat
  symbols : Array Nat

namespace PrefixCode

/-- The longest codeword. -/
def maxLength : Nat := 15

/-- The symbols among `lengths` whose codeword has the given length, in order. -/
def symbolsOfLength (lengths : List Nat) (length : Nat) : List Nat :=
  lengths.zipIdx.filterMap fun (l, symbol) => if l = length then some symbol else none

/-- The canonical code in which symbol `i` has a codeword of `lengths[i]` bits, or none if that
is zero. -/
def ofLengths (lengths : List Nat) : PrefixCode :=
  let groups := (List.range' 1 maxLength).map (symbolsOfLength lengths)
  ⟨groups.map List.length, groups.flatten.toArray⟩

/-- Whether every sequence of bits begins with a codeword, and with no more than one. -/
def isComplete (c : PrefixCode) : Bool :=
  c.counts.zipIdx.foldl (fun total (n, i) => total + n * Nat.pow 2 (maxLength - 1 - i)) 0 ==
    Nat.pow 2 maxLength

/-- Whether there is no codeword, or only one, and that of one bit. -/
def isTrivial (c : PrefixCode) : Bool :=
  c.symbols.size = 0 || (c.symbols.size = 1 && c.counts.head? = some 1)

/-- Whether the code can be that of a block. -/
def isUsable (c : PrefixCode) : Bool := c.isTrivial || c.isComplete

/-- Reads a codeword bit by bit. Before each bit, `code` is the number read so far, `first` the
first codeword of this length and `index` the number of shorter ones. -/
def readFrom (c : PrefixCode) (code first index : Nat) : List Nat → Inflating Nat
  | [] => throw .corrupt
  | count :: counts => do
    let code := code + (← Inflating.bit)
    if code < first + count then return c.symbols.getD (index + (code - first)) 0
    else if c.isTrivial && c.symbols.size ≤ code then throw .corrupt
    else c.readFrom (2 * code) (2 * (first + count)) (index + count) counts

/-- Reads the symbol of the next codeword. -/
def read (c : PrefixCode) : Inflating Nat := c.readFrom 0 0 0 c.counts

end PrefixCode

/-- The fixed code of literals and lengths. -/
def fixedLiterals : PrefixCode :=
  .ofLengths (List.replicate 144 8 ++ List.replicate 112 9 ++ List.replicate 24 7 ++
    List.replicate 8 8)

/-- The fixed code of distances. -/
def fixedDistances : PrefixCode := .ofLengths (List.replicate 32 5)

/-! ## References -/

/-- The least length and the number of further bits, for each length symbol from 257 on. -/
def lengthTable : Array (Nat × Nat) := #[
    (3, 0), (4, 0), (5, 0), (6, 0), (7, 0), (8, 0), (9, 0), (10, 0), (11, 1), (13, 1), (15, 1),
    (17, 1), (19, 2), (23, 2), (27, 2), (31, 2), (35, 3), (43, 3), (51, 3), (59, 3), (67, 4),
    (83, 4), (99, 4), (115, 4), (131, 5), (163, 5), (195, 5), (227, 5), (258, 0)]

/-- The least distance and the number of further bits, for each distance symbol. -/
def distanceTable : Array (Nat × Nat) := #[
    (1, 0), (2, 0), (3, 0), (4, 0), (5, 1), (7, 1), (9, 2), (13, 2), (17, 3), (25, 3), (33, 4),
    (49, 4), (65, 5), (97, 5), (129, 6), (193, 6), (257, 7), (385, 7), (513, 8), (769, 8),
    (1025, 9), (1537, 9), (2049, 10), (3073, 10), (4097, 11), (6145, 11), (8193, 12),
    (12289, 12), (16385, 13), (24577, 13)]

/-- The number that entry `symbol` of a table and its further bits stand for. -/
def tableNumber (table : Array (Nat × Nat)) (symbol : Nat) : Inflating Nat :=
  match table[symbol]? with
  | none => throw .corrupt
  | some (least, further) => return least + (← Inflating.number further)

/-- Copies from the output: the length is given by its symbol, the distance follows. A distance
may reach beyond the beginning of the output. -/
def reference (distances : PrefixCode) (lengthSymbol : Nat) : Inflating Unit := do
  let length ← tableNumber lengthTable (lengthSymbol - 257)
  let distance ← tableNumber distanceTable (← distances.read)
  modify fun s => { s with output := Inflating.copy distance s.output length }

/-! ## Blocks -/

/-- Reads literals and references up to the end of a block. Every symbol takes at least one
bit, so the number of unread bits is enough fuel. -/
def readSymbols (literals distances : PrefixCode) : Nat → Inflating Unit
  | 0 => throw .short
  | fuel + 1 => do
    let symbol ← literals.read
    if symbol < 256 then
      Inflating.emit symbol.toUInt8
      readSymbols literals distances fuel
    else if symbol = 256 then return
    else
      reference distances symbol
      readSymbols literals distances fuel

/-- Appends bytes as they are. -/
def readStored : Nat → Inflating Unit
  | 0 => return
  | n + 1 => do
    Inflating.emit (← Inflating.number 8).toUInt8
    readStored n

/-- The order in which the lengths of the code of code lengths are given. -/
def codeLengthOrder : List Nat :=
  [16, 17, 18, 0, 8, 7, 9, 6, 10, 5, 11, 4, 12, 3, 13, 2, 14, 1, 15]

/-- Reads further code lengths, up to `total` of them, behind those in `done`, which are in
reverse order. A run may repeat the length before it or zero. -/
def readLengths (code : PrefixCode) (total : Nat) : Nat → List Nat → Inflating (List Nat)
  | 0, _ => throw .corrupt
  | fuel + 1, done => do
    if total ≤ done.length then
      if total < done.length then throw .corrupt
      return done.reverse
    let symbol ← code.read
    if symbol < 16 then readLengths code total fuel (symbol :: done)
    else if symbol = 16 then
      match done with
      | [] => throw .corrupt
      | last :: _ =>
        let n ← Inflating.number 2
        readLengths code total fuel (List.replicate (n + 3) last ++ done)
    else if symbol = 17 then
      let n ← Inflating.number 3
      readLengths code total fuel (List.replicate (n + 3) 0 ++ done)
    else
      let n ← Inflating.number 7
      readLengths code total fuel (List.replicate (n + 11) 0 ++ done)

/-- Reads so many numbers of three bits. -/
def readThrees : Nat → Inflating (List Nat)
  | 0 => return []
  | n + 1 => do
    let k ← Inflating.number 3
    return k :: (← readThrees n)

/-- Reads the two codes that a block describes. -/
def readCodes : Inflating (PrefixCode × PrefixCode) := do
  let literalCount := (← Inflating.number 5) + 257
  let distanceCount := (← Inflating.number 5) + 1
  let givenCount := (← Inflating.number 4) + 4
  if 286 < literalCount || 30 < distanceCount then throw .corrupt
  let given ← readThrees givenCount
  let pairs := codeLengthOrder.zip given
  let code := PrefixCode.ofLengths ((List.range 19).map fun i => (pairs.lookup i).getD 0)
  if !code.isComplete then throw .corrupt
  let total := literalCount + distanceCount
  let lengths ← readLengths code total (total + 1) []
  let literals := PrefixCode.ofLengths (lengths.take literalCount)
  let distances := PrefixCode.ofLengths (lengths.drop literalCount)
  if !literals.isUsable || !distances.isUsable then throw .corrupt
  return (literals, distances)

/-- The number of unread bits. -/
def unread : Inflating Nat := return (← get).left + 8 * (← get).rest.length

/-- Reads a block behind its header of three bits; `kind` is the upper two of these. -/
def readBlock (kind : Nat) : Inflating Unit := do
  if kind = 0 then
    Inflating.align
    let length ← Inflating.number 16
    let complement ← Inflating.number 16
    if length + complement ≠ 0xFFFF then throw .corrupt
    readStored length
  else if kind = 1 then
    readSymbols fixedLiterals fixedDistances ((← unread) + 1)
  else if kind = 2 then
    let (literals, distances) ← readCodes
    readSymbols literals distances ((← unread) + 1)
  else throw .corrupt

/-- Reads blocks up to the last one. A block takes at least three bits. -/
def readBlocks : Nat → Inflating Unit
  | 0 => throw .short
  | fuel + 1 => do
    let last ← Inflating.bit
    let kind ← Inflating.number 2
    readBlock kind
    if last = 1 then return
    else readBlocks fuel

/-! ## Output -/

/-- Output is handed on when so much of it has gathered. -/
def windowSize : Nat := 32768

/-- Where the output pauses: a window ends wherever more output follows a multiple of its size, and
the source pauses where further input was fetched. The places are in ascending order. -/
def stretchEnds (size : Nat) (fetches : List Nat) : List (Nat × Bool) :=
  let windows := (List.range' 1 ((size - 1) / windowSize)).map fun i => (i * windowSize, false)
  (windows ++ fetches.map fun place => (place, true)).mergeSort fun a b => a.1 ≤ b.1

/-- The output from a place on, cut at further places. -/
def stretchesFrom (place : Nat) (s : Bytes) : List (Nat × Bool) → List Stretch
  | [] => [⟨s, true⟩]
  | (stop, pauses) :: rest =>
    ⟨s.take (stop - place), pauses⟩ :: stretchesFrom stop (s.drop (stop - place)) rest

/-- The output of inflating. -/
structure Inflated where
  /-- The output in the pieces in which it is handed on. -/
  pieces : List Bytes
  /-- Why it ends before the last block does, if so. -/
  stop : Option Stop
  deriving DecidableEq, Repr

/-- The output of a finished computation. -/
def Inflater.finish (s : Inflater) (stop : Option Stop) : Inflated :=
  let stretches := stretchesFrom 0 s.output.toList (stretchEnds s.output.size s.fetches.reverse)
  match stop with
  | some .corrupt => ⟨piecesOf false [] stretches.dropLast, stop⟩
  | _ => ⟨piecesOf true [] stretches, stop⟩

/-- Inflates bytes. -/
def inflate (s : Bytes) : Inflated :=
  match (readBlocks (8 * s.length + 1)).run.run ⟨s, 0, 0, 0, #[], []⟩ with
  | (.ok (), state) => state.finish none
  | (.error stop, state) => state.finish (some stop)

end SheetInspector.Zip
