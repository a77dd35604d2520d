namespace Gateway.Bits

def withBit (word : Int64) (bit : Nat) : Int64 :=
  word ||| (1 <<< Int64.ofNat bit)

def hasBit (word : Int64) (bit : Nat) : Bool :=
  (word >>> Int64.ofNat bit) &&& 1 == 1

def ofList (bits : List Nat) : Int64 :=
  bits.foldl withBit 0

def ofConditions (conditions : List (Bool × Nat)) : Int64 :=
  ofList ((conditions.filter (·.1)).map (·.2))

theorem withBit_withBit (word : Int64) (bit other : Nat) :
    withBit (withBit word bit) other = withBit (withBit word other) bit := by
  simp only [withBit, Int64.or_assoc, Int64.or_comm (1 <<< Int64.ofNat bit)]

theorem ofList_perm {bits others : List Nat} (h : bits.Perm others) :
    ofList bits = ofList others :=
  h.foldl_eq' (fun b _ c _ word => withBit_withBit word b c) 0

theorem smod_of_lt {bit : Nat} (h : bit < 64) :
    (Int64.ofNat bit).toBitVec.smod 64 = BitVec.ofNat 64 bit := by
  revert bit
  decide

theorem toNat_ofNat_of_lt {bit : Nat} (h : bit < 64) : (BitVec.ofNat 64 bit).toNat = bit :=
  Nat.mod_eq_of_lt (Nat.lt_trans h (by decide))

theorem and_one_eq_one_iff (x : BitVec 64) : x &&& 1 = 1 ↔ x.getLsbD 0 = true := by
  constructor
  · intro h
    have := congrArg (·.getLsbD 0) h
    simpa using this
  · intro h
    apply BitVec.eq_of_getLsbD_eq
    intro i hi
    cases i with
    | zero => simpa using h
    | succ i => simp

theorem hasBit_eq_getLsbD (word : Int64) {bit : Nat} (h : bit < 64) :
    hasBit word bit = word.toBitVec.getLsbD bit := by
  rw [hasBit, Bool.eq_iff_iff, beq_iff_eq, ← Int64.toBitVec_inj, Int64.toBitVec_and,
    Int64.toBitVec_shiftRight, smod_of_lt h, show (1 : Int64).toBitVec = 1 from rfl,
    and_one_eq_one_iff, BitVec.sshiftRight', toNat_ofNat_of_lt h, BitVec.getLsbD_sshiftRight]
  simp [h]

theorem getLsbD_withBit (word : Int64) {bit : Nat} (h : bit < 64) (i : Nat) :
    (withBit word bit).toBitVec.getLsbD i = (word.toBitVec.getLsbD i || decide (i = bit)) := by
  rw [withBit, Int64.toBitVec_or, Int64.toBitVec_shiftLeft, smod_of_lt h, BitVec.getLsbD_or,
    show (1 : Int64).toBitVec = 1 from rfl, BitVec.shiftLeft_eq', toNat_ofNat_of_lt h,
    BitVec.getLsbD_shiftLeft]
  congr 1
  by_cases hi : i < 64
  · by_cases hb : i < bit
    · simp [hb, Nat.ne_of_lt hb]
    · simp only [hi, hb, decide_true, decide_false, Bool.true_and, Bool.not_false]
      rw [show (1 : BitVec 64) = 1#64 from rfl, BitVec.getLsbD_one]
      simp
      omega
  · simp [hi]
    omega

theorem hasBit_withBit (word : Int64) {bit other : Nat} (h : bit < 64) (h' : other < 64) :
    hasBit (withBit word bit) other = (hasBit word other || decide (other = bit)) := by
  rw [hasBit_eq_getLsbD _ h', hasBit_eq_getLsbD _ h', getLsbD_withBit _ h]

theorem hasBit_zero {bit : Nat} (h : bit < 64) : hasBit 0 bit = false := by
  rw [hasBit_eq_getLsbD _ h, show (0 : Int64).toBitVec = 0 from rfl]
  simp

theorem hasBit_foldl_withBit {bits : List Nat} (hbits : ∀ b ∈ bits, b < 64) (word : Int64)
    {bit : Nat} (h : bit < 64) :
    hasBit (bits.foldl withBit word) bit = (hasBit word bit || decide (bit ∈ bits)) := by
  induction bits generalizing word with
  | nil => simp
  | cons b bits ih =>
      rw [List.foldl_cons, ih (fun c hc => hbits c (List.mem_cons_of_mem _ hc)),
        hasBit_withBit _ (hbits b List.mem_cons_self) h]
      simp [Bool.or_assoc]

theorem hasBit_ofList {bits : List Nat} (hbits : ∀ b ∈ bits, b < 64) {bit : Nat}
    (h : bit < 64) : hasBit (ofList bits) bit = decide (bit ∈ bits) := by
  rw [ofList, hasBit_foldl_withBit hbits _ h, hasBit_zero h, Bool.false_or]

theorem eq_of_hasBit {word other : Int64}
    (h : ∀ bit < 64, hasBit word bit = hasBit other bit) : word = other := by
  rw [← Int64.toBitVec_inj]
  refine BitVec.eq_of_getLsbD_eq fun bit hbit => ?_
  rw [← hasBit_eq_getLsbD _ hbit, ← hasBit_eq_getLsbD _ hbit, h bit hbit]

theorem hasBit_first_iff (word : Int64) : hasBit word 0 = true ↔ word.toInt % 2 = 1 := by
  rw [hasBit_eq_getLsbD word (by decide), ← BitVec.testBit_toNat, Nat.testBit_zero,
    decide_eq_true_eq, ← Int64.toInt_toBitVec, BitVec.toInt_eq_toNat_cond]
  split <;> omega

section Conditions

variable {conditions : List (Bool × Nat)} {n : Nat}

theorem lt_of_mem_conditions (h : ∀ c ∈ conditions, c.2 < n) :
    ∀ b ∈ (conditions.filter (·.1)).map (·.2), b < n := by
  intro b hb
  obtain ⟨c, hc, rfl⟩ := List.mem_map.mp hb
  exact h c (List.mem_filter.mp hc).1

theorem hasBit_ofConditions (h : ∀ c ∈ conditions, c.2 < 64) {bit : Nat} (hbit : bit < 64) :
    hasBit (ofConditions conditions) bit = conditions.any fun c => c.1 && c.2 == bit := by
  rw [ofConditions, hasBit_ofList (lt_of_mem_conditions h) hbit, Bool.eq_iff_iff]
  simp only [decide_eq_true_eq, List.mem_map, List.mem_filter, List.any_eq_true, Bool.and_eq_true,
    beq_iff_eq, and_assoc]

theorem any_eq_false_of_ne {α : Type} {cs : List α} {p : α → Bool} {f : α → Nat} {bit : Nat}
    (h : ∀ c ∈ cs, f c ≠ bit) : (cs.any fun c => p c && f c == bit) = false := by
  rw [List.any_eq_false]
  intro c hc
  simp [h c hc]

end Conditions

end Gateway.Bits
