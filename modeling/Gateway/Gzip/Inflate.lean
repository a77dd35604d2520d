import Gateway.Gzip.Huffman

namespace Gateway.Gzip

abbrev Output := Array UInt8

-- The byte at a distance from the end. In front of the first byte lie zeros.
def Output.back (out : Output) (distance : Nat) : UInt8 :=
  if distance ≤ out.size then out.getD (out.size - distance) 0 else 0

def copyBack : (length distance : Nat) → Output → Output
  | 0, _, out => out
  | length + 1, distance, out => copyBack length distance (out.push (out.back distance))

def lengthBases : List (Nat × Nat) := [
  (3, 0), (4, 0), (5, 0), (6, 0), (7, 0), (8, 0), (9, 0), (10, 0), (11, 1), (13, 1), (15, 1),
  (17, 1), (19, 2), (23, 2), (27, 2), (31, 2), (35, 3), (43, 3), (51, 3), (59, 3), (67, 4),
  (83, 4), (99, 4), (115, 4), (131, 5), (163, 5), (195, 5), (227, 5), (258, 0)]

def distanceBases : List (Nat × Nat) := [
  (1, 0), (2, 0), (3, 0), (4, 0), (5, 1), (7, 1), (9, 2), (13, 2), (17, 3), (25, 3), (33, 4),
  (49, 4), (65, 5), (97, 5), (129, 6), (193, 6), (257, 7), (385, 7), (513, 8), (769, 8),
  (1025, 9), (1537, 9), (2049, 10), (3073, 10), (4097, 11), (6145, 11), (8193, 12), (12289, 12),
  (16385, 13), (24577, 13)]

def readBase? (bases : List (Nat × Nat)) (symbol : Nat) (s : BitStream) :
    Option (Nat × BitStream) := do
  let (base, extra) ← bases[symbol]?
  let (more, s) ← s.bits? extra
  return (base + more, s)

def endOfBlock : Nat :=
  256

def inflateSymbols (literals distances : Tree) :
    (fuel : Nat) → BitStream → Output → Option (BitStream × Output)
  | 0, _, _ => none
  | fuel + 1, s, out => do
      let (symbol, s) ← literals.symbol? s
      if symbol < endOfBlock then
        inflateSymbols literals distances fuel s (out.push (UInt8.ofNat symbol))
      else if symbol = endOfBlock then return (s, out)
      else
        let (length, s) ← readBase? lengthBases (symbol - 257) s
        let (symbol, s) ← distances.symbol? s
        let (distance, s) ← readBase? distanceBases symbol s
        inflateSymbols literals distances fuel s (copyBack length distance out)

def fixedLiterals : List Nat :=
  List.replicate 144 8 ++ List.replicate 112 9 ++ List.replicate 24 7 ++ List.replicate 8 8

def fixedDistances : List Nat :=
  List.replicate 32 5

def lengthOrder : List Nat :=
  [16, 17, 18, 0, 8, 7, 9, 6, 10, 5, 11, 4, 12, 3, 13, 2, 14, 1, 15]

def readEach? : Nat → BitStream → Option (List Nat × BitStream)
  | 0, s => some ([], s)
  | n + 1, s => do
      let (x, s) ← s.bits? 3
      let (xs, s) ← readEach? n s
      return (x :: xs, s)

def extendLengths? (symbol : Nat) (lengths : List Nat) (s : BitStream) :
    Option (List Nat × BitStream) :=
  match symbol with
  | 16 => do
      let last ← lengths.head?
      let (n, s) ← s.bits? 2
      return (List.replicate (n + 3) last ++ lengths, s)
  | 17 => do
      let (n, s) ← s.bits? 3
      return (List.replicate (n + 3) 0 ++ lengths, s)
  | 18 => do
      let (n, s) ← s.bits? 7
      return (List.replicate (n + 11) 0 ++ lengths, s)
  | length => some (length :: lengths, s)

def readLengths? (tree : Tree) (total : Nat) :
    (fuel : Nat) → List Nat → BitStream → Option (List Nat × BitStream)
  | 0, lengths, s => if lengths.length = total then some (lengths.reverse, s) else none
  | fuel + 1, lengths, s =>
      if lengths.length = total then some (lengths.reverse, s)
      else if total < lengths.length then none
      else do
        let (symbol, s) ← tree.symbol? s
        let (lengths, s) ← extendLengths? symbol lengths s
        readLengths? tree total fuel lengths s

def readCodes? (s : BitStream) : Option ((Tree × Tree) × BitStream) := do
  let (literalCount, s) ← s.bits? 5
  let (distanceCount, s) ← s.bits? 5
  let (lengthCount, s) ← s.bits? 4
  let literalCount := literalCount + 257
  let distanceCount := distanceCount + 1
  if 286 < literalCount || 30 < distanceCount then none
  else
    let (given, s) ← readEach? (lengthCount + 4) s
    let lengths := (List.range 19).map fun symbol =>
      ((lengthOrder.zip given).lookup symbol).getD 0
    let tree ← Tree.ofLengths? lengths
    if !tree.isFull then none
    else
      let total := literalCount + distanceCount
      let (lengths, s) ← readLengths? tree total total [] s
      let literals ← Tree.ofLengths? (lengths.take literalCount)
      let distances ← Tree.ofLengths? (lengths.drop literalCount)
      return ((literals, distances), s)

def inflateStored (s : BitStream) (out : Output) : Option (BitStream × Output) := do
  let (length, bs) ← readNumber? 2 s.rest
  let (complement, bs) ← readNumber? 2 bs
  if length + complement ≠ 0xFFFF then none
  else
    let (stored, bs) ← splitBytes? length bs
    return (.ofBytes bs, out ++ stored)

def inflateBlock (kind : Nat) (s : BitStream) (out : Output) : Option (BitStream × Output) :=
  match kind with
  | 0 => inflateStored s out
  | 1 => do
      let literals ← Tree.ofLengths? fixedLiterals
      let distances ← Tree.ofLengths? fixedDistances
      inflateSymbols literals distances s.size s out
  | 2 => do
      let ((literals, distances), s) ← readCodes? s
      inflateSymbols literals distances s.size s out
  | _ => none

def inflateBlocks : (fuel : Nat) → BitStream → Output → Option (BitStream × Output)
  | 0, _, _ => none
  | fuel + 1, s, out => do
      let (last, s) ← s.bit?
      let (kind, s) ← s.bits? 2
      let (s, out) ← inflateBlock kind s out
      if last then return (s, out) else inflateBlocks fuel s out

def inflate? (bs : Bytes) : Option (Bytes × Bytes) := do
  let s := BitStream.ofBytes bs
  let (s, out) ← inflateBlocks s.size s #[]
  return (out.toList, s.rest)

end Gateway.Gzip
