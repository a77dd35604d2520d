import Gateway.Bits
import Mathlib.Algebra.Group.Int.Defs
import Mathlib.Algebra.Group.Nat.Defs
import Mathlib.Data.List.Basic

namespace Gateway.Bits

theorem toNat_ofList_lt {bits : List Nat} {n : Nat} (h : ∀ b ∈ bits, b < n) (hn : n ≤ 64) :
    (ofList bits).toBitVec.toNat < 2 ^ n := by
  refine Nat.lt_pow_two_of_testBit _ fun i hi => ?_
  rw [BitVec.testBit_toNat]
  by_cases hlt : i < 64
  · have hbits : ∀ b ∈ bits, b < 64 := fun b hb => Nat.lt_of_lt_of_le (h b hb) hn
    rw [← hasBit_eq_getLsbD _ hlt, hasBit_ofList hbits hlt, decide_eq_false_iff_not]
    exact fun hmem => Nat.not_lt.mpr hi (h i hmem)
  · exact BitVec.getLsbD_of_ge _ _ (Nat.not_lt.mp hlt)

theorem toInt_ofList_bounds {bits : List Nat} {n : Nat} (h : ∀ b ∈ bits, b < n) (hn : n < 64) :
    0 ≤ (ofList bits).toInt ∧ (ofList bits).toInt < 2 ^ n := by
  have hlt := toNat_ofList_lt h (Nat.le_of_lt hn)
  have hhalf : 2 ^ n ≤ 2 ^ 63 := Nat.pow_le_pow_right (by decide) (Nat.le_of_lt_succ hn)
  have hsmall : 2 * (ofList bits).toBitVec.toNat < 2 ^ 64 := by omega
  rw [← Int64.toInt_toBitVec, BitVec.toInt_eq_toNat_of_lt hsmall]
  exact ⟨Int.natCast_nonneg _, by exact_mod_cast hlt⟩

theorem toInt_ofConditions_bounds {conditions : List (Bool × Nat)} {n : Nat}
    (h : ∀ c ∈ conditions, c.2 < n) (hn : n < 64) :
    0 ≤ (ofConditions conditions).toInt ∧ (ofConditions conditions).toInt < 2 ^ n :=
  toInt_ofList_bounds (lt_of_mem_conditions h) hn

section Positions

variable (bits others : List (Fin 64))

theorem lt_of_mem_map_val : ∀ b ∈ bits.map Fin.val, b < 64 :=
  List.forall_mem_map.mpr fun b _ => b.isLt

theorem hasBit_ofList_iff (bit : Fin 64) :
    hasBit (ofList (bits.map Fin.val)) bit = true ↔ bit ∈ bits := by
  rw [hasBit_ofList (lt_of_mem_map_val bits) bit.isLt, decide_eq_true_eq,
    List.mem_map_of_injective fun _ _ => Fin.ext]

theorem ofList_eq_iff :
    ofList (bits.map Fin.val) = ofList (others.map Fin.val) ↔ ∀ b, b ∈ bits ↔ b ∈ others := by
  constructor
  · intro h b
    rw [← hasBit_ofList_iff, h, hasBit_ofList_iff]
  · intro h
    refine eq_of_hasBit fun n hn => ?_
    rw [Bool.eq_iff_iff]
    exact (hasBit_ofList_iff bits ⟨n, hn⟩).trans
      ((h ⟨n, hn⟩).trans (hasBit_ofList_iff others ⟨n, hn⟩).symm)

end Positions

theorem hasBit_withBit_iff (word : Int64) (bit other : Fin 64) :
    hasBit (withBit word bit) other = true ↔ bit = other ∨ hasBit word other = true := by
  rw [hasBit_withBit word bit.isLt other.isLt, Bool.or_eq_true, decide_eq_true_eq, Fin.val_inj,
    or_comm, eq_comm]

theorem positions_independent (word : Int64) (bit other : Fin 64) (bits others : List (Fin 64)) :
    (hasBit (withBit word bit) other = true ↔ bit = other ∨ hasBit word other = true) ∧
      (hasBit (ofList (bits.map Fin.val)) bit = true ↔ bit ∈ bits) ∧
      (ofList (bits.map Fin.val) = ofList (others.map Fin.val) ↔ ∀ b, b ∈ bits ↔ b ∈ others) :=
  ⟨hasBit_withBit_iff word bit other, hasBit_ofList_iff bits bit, ofList_eq_iff bits others⟩

end Gateway.Bits
