import Gateway.Gzip.Inflate

namespace Gateway.Gzip

def fieldLimit : Nat :=
  65535

def hasFlag (flags bit : Nat) : Bool :=
  flags.testBit bit

def skipExtra? (bs : Bytes) : Option Bytes := do
  let (length, bs) ← readNumber? 2 bs
  let (_, bs) ← splitBytes? length bs
  return bs

def skipText? (bs : Bytes) : Option Bytes :=
  let text := bs.takeWhile (· ≠ 0)
  if text.length ≤ fieldLimit then
    match bs.dropWhile (· ≠ 0) with
    | _ :: rest => some rest
    | [] => none
  else none

def skipChecksum? (whole bs : Bytes) : Option Bytes := do
  let header := whole.take (whole.length - bs.length)
  let (sum, bs) ← readNumber? 2 bs
  if sum = (crc32 header).toNat % 65536 then return bs else none

def skipWhen? (flag : Bool) (skip? : Bytes → Option Bytes) (bs : Bytes) : Option Bytes :=
  if flag then skip? bs else some bs

def skipHeader? (whole : Bytes) : Option Bytes := do
  let (head, bs) ← splitBytes? 10 whole
  match head with
  | 0x1F :: 0x8B :: 8 :: flags :: _ =>
      let flags := flags.toNat
      if 32 ≤ flags then none
      else
        let bs ← skipWhen? (hasFlag flags 2) skipExtra? bs
        let bs ← skipWhen? (hasFlag flags 3) skipText? bs
        let bs ← skipWhen? (hasFlag flags 4) skipText? bs
        skipWhen? (hasFlag flags 1) (skipChecksum? whole) bs
  | _ => none

def member? (bs : Bytes) : Option (Bytes × Bytes) := do
  let bs ← skipHeader? bs
  let (data, bs) ← inflate? bs
  let (sum, bs) ← readNumber? 4 bs
  let (length, bs) ← readNumber? 4 bs
  if sum = (crc32 data).toNat && length = data.length % UInt32.size then return (data, bs) else none

def unpack? (bs : Bytes) : Option Bytes :=
  (member? bs).map (·.1)

def Packs (pack : Bytes → Bytes) : Prop :=
  ∀ bs, unpack? (pack bs) = some bs

def PacksMember (pack : Bytes → Bytes) : Prop :=
  ∀ bs, member? (pack bs) = some (bs, [])

end Gateway.Gzip
