import Gateway.Gzip.Stored
import Mathlib.Algebra.Group.Nat.Defs

namespace Gateway.Gzip

theorem length_littleEndian (width n : Nat) : (littleEndian width n).length = width := by
  simp [littleEndian]

theorem littleEndian_succ (width n : Nat) :
    littleEndian (width + 1) n = UInt8.ofNat n :: littleEndian width (n / 256) := by
  simp only [littleEndian, List.range_succ_eq_map, List.map_cons, List.map_map, Nat.mul_zero,
    Nat.shiftRight_zero]
  congr 1
  refine List.map_congr_left fun i _ => ?_
  rw [Function.comp_apply, Nat.mul_succ, Nat.add_comm, Nat.shiftRight_add,
    Nat.shiftRight_eq_div_pow n 8]

theorem ofLittleEndian_littleEndian (width n : Nat) :
    ofLittleEndian (littleEndian width n) = n % 256 ^ width := by
  induction width generalizing n with
  | zero =>
      rw [Nat.pow_zero, Nat.mod_one]
      rfl
  | succ width ih =>
      have hlow : (UInt8.ofNat n).toNat = n % 256 := UInt8.toNat_ofNat'
      rw [littleEndian_succ, ofLittleEndian, ih, hlow, Nat.pow_succ', Nat.mod_mul]

theorem splitBytes?_append (bs rest : Bytes) :
    splitBytes? bs.length (bs ++ rest) = some (bs, rest) := by
  rw [splitBytes?, if_pos (by simp), List.splitAt_eq, List.take_left, List.drop_left]

theorem readNumber?_littleEndian (width n : Nat) (rest : Bytes) :
    readNumber? width (littleEndian width n ++ rest) = some (n % 256 ^ width, rest) := by
  have hsplit := splitBytes?_append (littleEndian width n) rest
  rw [length_littleEndian] at hsplit
  rw [readNumber?, hsplit, Option.map_some]
  simp only [ofLittleEndian_littleEndian]

theorem inflateStored_append {bs : Bytes} (hbs : bs.length ≤ blockLimit) {s : BitStream}
    {rest : Bytes} (hs : s.rest = littleEndian 2 bs.length ++ littleEndian 2 (65535 - bs.length) ++
      bs ++ rest) (out : Output) :
    inflateStored s out = some (.ofBytes rest, out ++ bs) := by
  rw [blockLimit] at hbs
  have hlength : bs.length % 256 ^ 2 = bs.length := Nat.mod_eq_of_lt (by omega)
  have hcomplement : (65535 - bs.length) % 256 ^ 2 = 65535 - bs.length :=
    Nat.mod_eq_of_lt (by omega)
  have hsum : ¬ bs.length + (65535 - bs.length) ≠ 0xFFFF := by omega
  rw [inflateStored, hs]
  simp only [List.append_assoc, readNumber?_littleEndian, hlength, hcomplement,
    Option.bind_eq_bind, Option.bind_some, if_neg hsum, splitBytes?_append]
  rfl

def blockStart (last : Bool) : UInt8 :=
  if last then 1 else 0

theorem testBit_blockStart (last : Bool) :
    (blockStart last).toNat.testBit 0 = last ∧ (blockStart last).toNat.testBit 1 = false ∧
      (blockStart last).toNat.testBit 2 = false := by
  revert last
  decide

theorem bit?_blockStart (last : Bool) (bs : Bytes) :
    (BitStream.ofBytes (blockStart last :: bs)).bit? =
      some (last, ⟨blockStart last :: bs, 1⟩) := by
  simp [BitStream.bit?, BitStream.ofBytes, (testBit_blockStart last).1]

theorem bits?_blockStart (last : Bool) (bs : Bytes) :
    BitStream.bits? 2 ⟨blockStart last :: bs, 1⟩ = some (0, ⟨blockStart last :: bs, 3⟩) := by
  obtain ⟨-, hone, htwo⟩ := testBit_blockStart last
  simp [BitStream.bits?, BitStream.bit?, hone, htwo]

theorem inflateBlocks_storedBlock (fuel : Nat) (last : Bool) {bs : Bytes}
    (hbs : bs.length ≤ blockLimit) (rest : Bytes) (out : Output) :
    inflateBlocks (fuel + 1) (.ofBytes (storedBlock last bs ++ rest)) out =
      if last then some (.ofBytes rest, out ++ bs)
      else inflateBlocks fuel (.ofBytes rest) (out ++ bs) := by
  have hblock : storedBlock last bs ++ rest = blockStart last ::
      (littleEndian 2 bs.length ++ littleEndian 2 (65535 - bs.length) ++ bs ++ rest) := rfl
  rw [inflateBlocks, hblock]
  simp only [Option.bind_eq_bind, Option.bind_some, bit?_blockStart, bits?_blockStart]
  rw [inflateBlock, inflateStored_append hbs rfl]
  rfl

theorem length_lt_length_storedBlocks (bs : Bytes) : bs.length < (storedBlocks bs).length := by
  fun_induction storedBlocks bs with
  | case1 bs h =>
      simp only [storedBlock, List.length_append, List.length_cons]
      omega
  | case2 bs h ih =>
      simp only [List.length_append, storedBlock, List.length_cons, List.length_take,
        List.length_drop, length_littleEndian] at *
      omega

theorem inflateBlocks_storedBlocks (bs rest : Bytes) (out : Output) {fuel : Nat}
    (hfuel : bs.length < fuel) :
    inflateBlocks fuel (.ofBytes (storedBlocks bs ++ rest)) out =
      some (.ofBytes rest, out ++ bs) := by
  fun_induction storedBlocks bs generalizing fuel out with
  | case1 bs h =>
      obtain ⟨fuel, rfl⟩ : ∃ n, fuel = n + 1 := ⟨fuel - 1, by omega⟩
      rw [inflateBlocks_storedBlock fuel true h]
      rfl
  | case2 bs h ih =>
      obtain ⟨fuel, rfl⟩ : ∃ n, fuel = n + 1 := ⟨fuel - 1, by omega⟩
      have htake : (bs.take blockLimit).length ≤ blockLimit := List.length_take_le _ _
      have hdrop : (bs.drop blockLimit).length < fuel := by
        simp only [List.length_drop, blockLimit] at *
        omega
      rw [List.append_assoc, inflateBlocks_storedBlock fuel false htake]
      simp only [Bool.false_eq_true, if_false]
      have hout : out ++ bs.take blockLimit ++ bs.drop blockLimit = out ++ bs :=
        Array.ext' (by simp)
      rw [ih _ hdrop, hout]

theorem inflate?_storedBlocks (bs rest : Bytes) :
    inflate? (storedBlocks bs ++ rest) = some (bs, rest) := by
  have hlength := length_lt_length_storedBlocks bs
  have hfuel : bs.length < (BitStream.ofBytes (storedBlocks bs ++ rest)).size := by
    simp only [BitStream.size, BitStream.ofBytes, List.length_append]
    omega
  simp only [inflate?, inflateBlocks_storedBlocks bs rest #[] hfuel]
  simp [BitStream.rest, BitStream.ofBytes]

theorem skipHeader?_header (rest : Bytes) : skipHeader? (header ++ rest) = some rest := by
  have hsplit : splitBytes? 10 (header ++ rest) = some (header, rest) :=
    splitBytes?_append header rest
  rw [skipHeader?, hsplit]
  rfl

theorem member?_store (bs rest : Bytes) : member? (store bs ++ rest) = some (bs, rest) := by
  have hsum : (crc32 bs).toNat % 256 ^ 4 = (crc32 bs).toNat :=
    Nat.mod_eq_of_lt (crc32 bs).toNat_lt
  rw [member?, store]
  simp only [List.append_assoc, skipHeader?_header, Option.bind_eq_bind, Option.bind_some,
    inflate?_storedBlocks, readNumber?_littleEndian, hsum]
  simp

theorem packsMember_store : PacksMember store := by
  intro bs
  have h := member?_store bs []
  rwa [List.append_nil] at h

theorem PacksMember.packs {pack : Bytes → Bytes} (h : PacksMember pack) : Packs pack := by
  intro bs
  rw [unpack?, h bs]
  rfl

def recorded (text stream bs : Bytes) : Bytes :=
  if bs = text then stream else store bs

theorem packsMember_recorded {text stream : Bytes} (h : member? stream = some (text, [])) :
    PacksMember (recorded text stream) := by
  intro bs
  rw [recorded]
  split
  · next heq =>
      rw [heq]
      exact h
  · exact packsMember_store bs

end Gateway.Gzip
