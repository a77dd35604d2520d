import Gateway.Gzip.Bytes

namespace Gateway.Gzip

inductive Tree where
  | none
  | leaf (symbol : Nat)
  | node (zero one : Tree)

namespace Tree

def isFull : Tree → Bool
  | .none => false
  | .leaf _ => true
  | .node zero one => zero.isFull && one.isFull

def symbol? : Tree → BitStream → Option (Nat × BitStream)
  | .none, _ => Option.none
  | .leaf symbol, s => some (symbol, s)
  | .node zero one, s => do
      let (bit, s) ← s.bit?
      if bit then one.symbol? s else zero.symbol? s

def build : (levels depth : Nat) → List (Nat × Nat) → Tree × List (Nat × Nat)
  | _, _, [] => (.none, [])
  | 0, depth, (length, symbol) :: symbols =>
      if length = depth then (.leaf symbol, symbols) else (.none, (length, symbol) :: symbols)
  | levels + 1, depth, (length, symbol) :: symbols =>
      if length = depth then (.leaf symbol, symbols)
      else
        let (zero, symbols) := build levels (depth + 1) ((length, symbol) :: symbols)
        let (one, symbols) := build levels (depth + 1) symbols
        (.node zero one, symbols)

def maxLength : Nat :=
  15

def byLength (lengths : List Nat) : List (Nat × Nat) :=
  (List.range maxLength).flatMap fun l =>
    lengths.zipIdx.filter (·.1 = l + 1)

def ofLengths? (lengths : List Nat) : Option Tree :=
  let symbols := byLength lengths
  let (tree, surplus) := build maxLength 0 symbols
  if surplus.isEmpty && (tree.isFull || symbols.all (·.1 = 1)) then some tree else Option.none

end Tree

end Gateway.Gzip
