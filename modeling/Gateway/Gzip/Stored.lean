import Gateway.Gzip.Member

namespace Gateway.Gzip

def header : Bytes :=
  [0x1F, 0x8B, 8, 0, 0, 0, 0, 0, 2, 255]

def blockLimit : Nat :=
  65535

def storedBlock (last : Bool) (bs : Bytes) : Bytes :=
  (if last then 1 else 0) :: littleEndian 2 bs.length ++ littleEndian 2 (65535 - bs.length) ++ bs

def storedBlocks (bs : Bytes) : Bytes :=
  if bs.length ≤ blockLimit then storedBlock true bs
  else storedBlock false (bs.take blockLimit) ++ storedBlocks (bs.drop blockLimit)
termination_by bs.length
decreasing_by simp only [List.length_drop, blockLimit] at *; omega

def store (bs : Bytes) : Bytes :=
  header ++ storedBlocks bs ++ littleEndian 4 (crc32 bs).toNat ++ littleEndian 4 bs.length

end Gateway.Gzip
