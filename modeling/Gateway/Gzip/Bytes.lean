import Gateway.Text.Basic

namespace Gateway.Gzip

def crcBit (state : UInt32) : UInt32 :=
  if state &&& 1 = 1 then (state >>> 1) ^^^ 0xEDB88320 else state >>> 1

def crcByte (state : UInt32) (b : UInt8) : UInt32 :=
  Nat.repeat crcBit 8 (state ^^^ b.toUInt32)

def crc32 (bs : Bytes) : UInt32 :=
  bs.foldl crcByte 0xFFFFFFFF ^^^ 0xFFFFFFFF

def littleEndian (width n : Nat) : Bytes :=
  (List.range width).map fun i => UInt8.ofNat (n >>> (8 * i))

def ofLittleEndian : Bytes → Nat
  | [] => 0
  | b :: bs => b.toNat + 256 * ofLittleEndian bs

def splitBytes? (n : Nat) (bs : Bytes) : Option (Bytes × Bytes) :=
  if n ≤ bs.length then some (bs.splitAt n) else none

def readNumber? (width : Nat) (bs : Bytes) : Option (Nat × Bytes) :=
  (splitBytes? width bs).map fun (head, rest) => (ofLittleEndian head, rest)

structure BitStream where
  bytes : Bytes
  used : Nat

namespace BitStream

def ofBytes (bs : Bytes) : BitStream :=
  ⟨bs, 0⟩

def size (s : BitStream) : Nat :=
  8 * s.bytes.length - s.used

def bit? (s : BitStream) : Option (Bool × BitStream) :=
  match s.bytes with
  | [] => none
  | b :: bs =>
      let bit := b.toNat.testBit s.used
      some (bit, if s.used < 7 then ⟨b :: bs, s.used + 1⟩ else ⟨bs, 0⟩)

def bits? : Nat → BitStream → Option (Nat × BitStream)
  | 0, s => some (0, s)
  | n + 1, s => do
      let (low, s) ← s.bit?
      let (high, s) ← bits? n s
      return (low.toNat + 2 * high, s)

def rest (s : BitStream) : Bytes :=
  if s.used = 0 then s.bytes else s.bytes.tail

end BitStream

end Gateway.Gzip
