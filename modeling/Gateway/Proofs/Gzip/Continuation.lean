import Gateway.Proofs.Gzip.Stored

namespace Gateway.Gzip

namespace BitStream

def append (s : BitStream) (t : Bytes) : BitStream :=
  ⟨s.bytes ++ t, s.used⟩

def Sound (s : BitStream) : Prop :=
  s.used = 0 ∨ s.bytes ≠ []

theorem sound_ofBytes (bs : Bytes) : (ofBytes bs).Sound :=
  .inl rfl

theorem rest_append {s : BitStream} (hs : s.Sound) (t : Bytes) :
    (s.append t).rest = s.rest ++ t := by
  rw [rest, rest, append]
  split
  · rfl
  · next hused => exact List.tail_append_of_ne_nil (hs.resolve_left hused)

theorem size_le_size_append (s : BitStream) (t : Bytes) : s.size ≤ (s.append t).size := by
  simp only [size, append, List.length_append]
  omega

end BitStream

section Readers

variable {α β : Type}

def Steady (read : BitStream → Option (α × BitStream)) : Prop :=
  ∀ ⦃s x s'⦄, s.Sound → read s = some (x, s') →
    s'.Sound ∧ ∀ t, read (s.append t) = some (x, s'.append t)

theorem steady_some (x : α) : Steady fun s => some (x, s) := by
  intro s y s' hs h
  obtain ⟨rfl, rfl⟩ := Prod.mk.inj (Option.some.inj h)
  exact ⟨hs, fun _ => rfl⟩

theorem steady_none : Steady fun _ => (none : Option (α × BitStream)) := by
  intro s x s' _ h
  cases h

theorem Steady.bind {read : BitStream → Option (α × BitStream)}
    {next : α × BitStream → Option (β × BitStream)} (hread : Steady read)
    (hnext : ∀ x, Steady fun s => next (x, s)) : Steady fun s => (read s).bind next := by
  intro s y s' hs h
  obtain ⟨⟨x, r⟩, hx, hy⟩ := Option.bind_eq_some_iff.mp h
  obtain ⟨hr, hread⟩ := hread hs hx
  obtain ⟨hs', hnext⟩ := hnext x hr hy
  exact ⟨hs', fun t => by simp only [hread t, Option.bind_some, hnext t]⟩

theorem Steady.ite {c : Prop} [Decidable c] {read read' : BitStream → Option (α × BitStream)}
    (h : Steady read) (h' : Steady read') : Steady fun s => if c then read s else read' s := by
  by_cases hc : c
  · simpa only [if_pos hc] using h
  · simpa only [if_neg hc] using h'

theorem Steady.of_option {o : Option β} {read : β → BitStream → Option (α × BitStream)}
    (h : ∀ x, Steady (read x)) : Steady fun s => o.bind fun x => read x s := by
  cases o with
  | none => exact steady_none
  | some x => exact h x

theorem steady_bit? : Steady BitStream.bit? := by
  rintro ⟨bytes, used⟩ x s' - h
  cases bytes with
  | nil => cases h
  | cons b bs =>
      obtain ⟨rfl, rfl⟩ := Prod.mk.inj (Option.some.inj h)
      split
      · next hused =>
          exact ⟨.inr (by simp), fun t => by simp [BitStream.append, BitStream.bit?, hused]⟩
      · next hused =>
          exact ⟨.inl rfl, fun t => by simp [BitStream.append, BitStream.bit?, hused]⟩

theorem steady_bits? (n : Nat) : Steady (BitStream.bits? n) := by
  induction n with
  | zero => exact steady_some 0
  | succ n ih =>
      exact steady_bit?.bind fun low => ih.bind fun high => steady_some (low.toNat + 2 * high)

theorem steady_symbol? (tree : Tree) : Steady tree.symbol? := by
  induction tree with
  | none => exact steady_none
  | leaf symbol => exact steady_some symbol
  | node zero one hzero hone =>
      exact steady_bit?.bind fun bit => hone.ite hzero

theorem steady_readBase? (bases : List (Nat × Nat)) (symbol : Nat) :
    Steady (readBase? bases symbol) :=
  .of_option fun base => (steady_bits? base.2).bind fun more => steady_some (base.1 + more)

theorem steady_readEach? (n : Nat) : Steady (readEach? n) := by
  induction n with
  | zero => exact steady_some []
  | succ n ih => exact (steady_bits? 3).bind fun x => ih.bind fun xs => steady_some (x :: xs)

theorem steady_extendLengths? (symbol : Nat) (lengths : List Nat) :
    Steady (extendLengths? symbol lengths) := by
  unfold extendLengths?
  split
  · exact .of_option fun last =>
      (steady_bits? 2).bind fun n => steady_some (List.replicate (n + 3) last ++ lengths)
  · exact (steady_bits? 3).bind fun n => steady_some (List.replicate (n + 3) 0 ++ lengths)
  · exact (steady_bits? 7).bind fun n => steady_some (List.replicate (n + 11) 0 ++ lengths)
  · exact steady_some (_ :: lengths)

theorem steady_readLengths? (tree : Tree) (total fuel : Nat) (lengths : List Nat) :
    Steady (readLengths? tree total fuel lengths) := by
  induction fuel generalizing lengths with
  | zero => exact (steady_some lengths.reverse).ite steady_none
  | succ fuel ih =>
      refine (steady_some lengths.reverse).ite (steady_none.ite ?_)
      refine (steady_symbol? tree).bind fun symbol => ?_
      exact (steady_extendLengths? symbol lengths).bind fun lengths => ih lengths

theorem steady_readCodes? : Steady readCodes? := by
  refine (steady_bits? 5).bind fun literalCount => ?_
  refine (steady_bits? 5).bind fun distanceCount => ?_
  refine (steady_bits? 4).bind fun lengthCount => ?_
  refine steady_none.ite ?_
  refine (steady_readEach? (lengthCount + 4)).bind fun given => ?_
  refine .of_option fun tree => steady_none.ite ?_
  refine (steady_readLengths? tree _ _ []).bind fun lengths => ?_
  exact .of_option fun literals => .of_option fun distances => steady_some (literals, distances)

end Readers

section Bytes

variable {n x : Nat} {bs head rest : Bytes}

theorem of_splitBytes? (h : splitBytes? n bs = some (head, rest)) :
    head.length = n ∧ bs = head ++ rest := by
  rw [splitBytes?] at h
  split at h
  · next hn =>
      simp only [List.splitAt_eq, Option.some.injEq, Prod.mk.injEq] at h
      obtain ⟨rfl, rfl⟩ := h
      exact ⟨List.length_take_of_le hn, (List.take_append_drop n bs).symm⟩
  · cases h

theorem splitBytes?_append_right (h : splitBytes? n bs = some (head, rest)) (t : Bytes) :
    splitBytes? n (bs ++ t) = some (head, rest ++ t) := by
  obtain ⟨rfl, rfl⟩ := of_splitBytes? h
  rw [List.append_assoc]
  exact splitBytes?_append head (rest ++ t)

theorem length_le_of_splitBytes? (h : splitBytes? n bs = some (head, rest)) :
    rest.length ≤ bs.length := by
  rw [(of_splitBytes? h).2, List.length_append]
  omega

theorem exists_splitBytes?_of_readNumber? (h : readNumber? n bs = some (x, rest)) :
    ∃ head, splitBytes? n bs = some (head, rest) ∧ ofLittleEndian head = x := by
  obtain ⟨⟨head, rest'⟩, hsplit, heq⟩ := Option.map_eq_some_iff.mp h
  obtain ⟨rfl, rfl⟩ := Prod.mk.inj heq
  exact ⟨head, hsplit, rfl⟩

theorem readNumber?_append_right (h : readNumber? n bs = some (x, rest)) (t : Bytes) :
    readNumber? n (bs ++ t) = some (x, rest ++ t) := by
  obtain ⟨head, hsplit, rfl⟩ := exists_splitBytes?_of_readNumber? h
  rw [readNumber?, splitBytes?_append_right hsplit t]
  rfl

theorem length_le_of_readNumber? (h : readNumber? n bs = some (x, rest)) :
    rest.length ≤ bs.length := by
  obtain ⟨head, hsplit, -⟩ := exists_splitBytes?_of_readNumber? h
  exact length_le_of_splitBytes? hsplit

end Bytes

section Blocks

variable {s s' : BitStream} {out out' : Output}

theorem inflateStored_append_right (hs : s.Sound) (h : inflateStored s out = some (s', out')) :
    s'.Sound ∧ ∀ t, inflateStored (s.append t) out = some (s'.append t, out') := by
  obtain ⟨⟨length, bs⟩, hlength, h⟩ := Option.bind_eq_some_iff.mp h
  obtain ⟨⟨complement, bs'⟩, hcomplement, h⟩ := Option.bind_eq_some_iff.mp h
  dsimp only at h
  split at h
  · cases h
  · next hsum =>
      obtain ⟨⟨stored, rest⟩, hstored, h⟩ := Option.bind_eq_some_iff.mp h
      obtain ⟨rfl, rfl⟩ := Prod.mk.inj (Option.some.inj h)
      refine ⟨BitStream.sound_ofBytes rest, fun t => ?_⟩
      rw [inflateStored, BitStream.rest_append hs, readNumber?_append_right hlength t]
      simp only [Option.bind_eq_bind, Option.bind_some, readNumber?_append_right hcomplement t,
        if_neg hsum, splitBytes?_append_right hstored t]
      rfl

-- More bytes give more fuel as well, and a run that came to its end does not need it.
theorem inflateSymbols_append_right {literals distances : Tree} {fuel fuel' : Nat}
    (hfuel : fuel ≤ fuel') (hs : s.Sound)
    (h : inflateSymbols literals distances fuel s out = some (s', out')) :
    s'.Sound ∧
      ∀ t, inflateSymbols literals distances fuel' (s.append t) out = some (s'.append t, out') := by
  induction fuel generalizing fuel' s out with
  | zero => cases h
  | succ fuel ih =>
      obtain ⟨fuel', rfl⟩ : ∃ n, fuel' = n + 1 := ⟨fuel' - 1, by omega⟩
      have hle : fuel ≤ fuel' := by omega
      obtain ⟨⟨symbol, s₁⟩, hsymbol, h⟩ := Option.bind_eq_some_iff.mp h
      obtain ⟨hs₁, hsymbol⟩ := steady_symbol? literals hs hsymbol
      simp only [inflateSymbols, Option.bind_eq_bind, hsymbol, Option.bind_some]
      dsimp only at h
      split at h
      · next hliteral =>
          simp only [if_pos hliteral]
          exact ih hle hs₁ h
      · next hliteral =>
          simp only [if_neg hliteral]
          split at h
          · next hend =>
              simp only [if_pos hend]
              obtain ⟨rfl, rfl⟩ := Prod.mk.inj (Option.some.inj h)
              exact ⟨hs₁, fun _ => rfl⟩
          · next hend =>
              simp only [if_neg hend]
              obtain ⟨⟨length, s₂⟩, hlength, h⟩ := Option.bind_eq_some_iff.mp h
              obtain ⟨hs₂, hlength⟩ := steady_readBase? lengthBases _ hs₁ hlength
              obtain ⟨⟨code, s₃⟩, hcode, h⟩ := Option.bind_eq_some_iff.mp h
              obtain ⟨hs₃, hcode⟩ := steady_symbol? distances hs₂ hcode
              obtain ⟨⟨distance, s₄⟩, hdistance, h⟩ := Option.bind_eq_some_iff.mp h
              obtain ⟨hs₄, hdistance⟩ := steady_readBase? distanceBases _ hs₃ hdistance
              simp only [hlength, hcode, hdistance, Option.bind_some]
              exact ih hle hs₄ h

theorem inflateSymbols_size_append_right {literals distances : Tree} (hs : s.Sound)
    (h : inflateSymbols literals distances s.size s out = some (s', out')) :
    s'.Sound ∧ ∀ t, inflateSymbols literals distances (s.append t).size (s.append t) out =
      some (s'.append t, out') :=
  ⟨(inflateSymbols_append_right (Nat.le_refl _) hs h).1, fun t =>
    (inflateSymbols_append_right (s.size_le_size_append t) hs h).2 t⟩

theorem inflateBlock_append_right {kind : Nat} (hs : s.Sound)
    (h : inflateBlock kind s out = some (s', out')) :
    s'.Sound ∧ ∀ t, inflateBlock kind (s.append t) out = some (s'.append t, out') := by
  unfold inflateBlock at h ⊢
  split at h
  · exact inflateStored_append_right hs h
  · obtain ⟨literals, hliterals, h⟩ := Option.bind_eq_some_iff.mp h
    obtain ⟨distances, hdistances, h⟩ := Option.bind_eq_some_iff.mp h
    simp only [hliterals, hdistances, Option.bind_eq_bind, Option.bind_some]
    exact inflateSymbols_size_append_right hs h
  · obtain ⟨⟨⟨literals, distances⟩, s₁⟩, hcodes, h⟩ := Option.bind_eq_some_iff.mp h
    obtain ⟨hs₁, hcodes⟩ := steady_readCodes? hs hcodes
    simp only [hcodes, Option.bind_eq_bind, Option.bind_some]
    exact inflateSymbols_size_append_right hs₁ h
  · cases h

theorem inflateBlocks_append_right {fuel fuel' : Nat} (hfuel : fuel ≤ fuel') (hs : s.Sound)
    (h : inflateBlocks fuel s out = some (s', out')) :
    s'.Sound ∧ ∀ t, inflateBlocks fuel' (s.append t) out = some (s'.append t, out') := by
  induction fuel generalizing fuel' s out with
  | zero => cases h
  | succ fuel ih =>
      obtain ⟨fuel', rfl⟩ : ∃ n, fuel' = n + 1 := ⟨fuel' - 1, by omega⟩
      have hle : fuel ≤ fuel' := by omega
      obtain ⟨⟨last, s₁⟩, hlast, h⟩ := Option.bind_eq_some_iff.mp h
      obtain ⟨hs₁, hlast⟩ := steady_bit? hs hlast
      obtain ⟨⟨kind, s₂⟩, hkind, h⟩ := Option.bind_eq_some_iff.mp h
      obtain ⟨hs₂, hkind⟩ := steady_bits? 2 hs₁ hkind
      obtain ⟨⟨s₃, out₁⟩, hblock, h⟩ := Option.bind_eq_some_iff.mp h
      obtain ⟨hs₃, hblock⟩ := inflateBlock_append_right hs₂ hblock
      simp only [inflateBlocks, Option.bind_eq_bind, hlast, hkind, hblock, Option.bind_some]
      cases last with
      | true =>
          obtain ⟨rfl, rfl⟩ := Prod.mk.inj (Option.some.inj h)
          exact ⟨hs₃, fun _ => rfl⟩
      | false => exact ih hle hs₃ h

end Blocks

section Member

variable {bs data rest : Bytes}

theorem inflate?_append_right (h : inflate? bs = some (data, rest)) (t : Bytes) :
    inflate? (bs ++ t) = some (data, rest ++ t) := by
  obtain ⟨⟨s, out⟩, hblocks, h⟩ := Option.bind_eq_some_iff.mp h
  obtain ⟨rfl, rfl⟩ := Prod.mk.inj (Option.some.inj h)
  have hsize := (BitStream.ofBytes bs).size_le_size_append t
  obtain ⟨hs, hblocks⟩ := inflateBlocks_append_right hsize (BitStream.sound_ofBytes bs) hblocks
  have happend : (BitStream.ofBytes bs).append t = BitStream.ofBytes (bs ++ t) := rfl
  have hblocks := hblocks t
  rw [happend] at hblocks
  simp only [inflate?, Option.bind_eq_bind, hblocks, Option.bind_some,
    BitStream.rest_append hs]
  rfl

def Skips (skip : Bytes → Option Bytes) : Prop :=
  ∀ ⦃bs rest⦄, skip bs = some rest →
    rest.length ≤ bs.length ∧ ∀ t, skip (bs ++ t) = some (rest ++ t)

theorem Skips.when {skip : Bytes → Option Bytes} (h : Skips skip) (flag : Bool) :
    Skips (skipWhen? flag skip) := by
  intro bs rest hrest
  cases flag with
  | true => exact h hrest
  | false =>
      obtain rfl := Option.some.inj hrest
      exact ⟨Nat.le_refl _, fun _ => rfl⟩

theorem skips_skipExtra? : Skips skipExtra? := by
  intro bs rest h
  obtain ⟨⟨length, bs'⟩, hlength, h⟩ := Option.bind_eq_some_iff.mp h
  obtain ⟨⟨extra, rest'⟩, hextra, h⟩ := Option.bind_eq_some_iff.mp h
  obtain rfl := Option.some.inj h
  refine ⟨Nat.le_trans (length_le_of_splitBytes? hextra) (length_le_of_readNumber? hlength),
    fun t => ?_⟩
  simp only [skipExtra?, Option.bind_eq_bind, readNumber?_append_right hlength t,
    splitBytes?_append_right hextra t, Option.bind_some]
  rfl

theorem skips_skipText? : Skips skipText? := by
  intro bs rest h
  rw [skipText?] at h
  split at h
  · next hlimit =>
      split at h
      · next zero rest' hdrop =>
          obtain rfl := Option.some.inj h
          have hlength : (bs.takeWhile (· ≠ 0)).length + (rest'.length + 1) = bs.length := by
            rw [← List.length_cons, ← hdrop, ← List.length_append, List.takeWhile_append_dropWhile]
          refine ⟨by omega, fun t => ?_⟩
          have hdropped : (bs ++ t).dropWhile (· ≠ 0) = zero :: (rest' ++ t) := by
            rw [List.dropWhile_append, hdrop]
            rfl
          have htaken : (bs ++ t).takeWhile (· ≠ 0) = bs.takeWhile (· ≠ 0) := by
            rw [List.takeWhile_append, if_neg (by omega)]
          rw [skipText?, htaken, hdropped]
          exact if_pos hlimit
      · cases h
  · cases h

theorem skipChecksum?_append_right {whole : Bytes} (hle : bs.length ≤ whole.length)
    (h : skipChecksum? whole bs = some rest) (t : Bytes) :
    skipChecksum? (whole ++ t) (bs ++ t) = some (rest ++ t) := by
  obtain ⟨⟨sum, rest'⟩, hsum, h⟩ := Option.bind_eq_some_iff.mp h
  have hheader : (whole ++ t).take ((whole ++ t).length - (bs ++ t).length) =
      whole.take (whole.length - bs.length) := by
    have hlength : (whole ++ t).length - (bs ++ t).length = whole.length - bs.length := by
      simp only [List.length_append]
      omega
    rw [hlength, List.take_append_of_le_length (Nat.sub_le _ _)]
  dsimp only at h
  split at h
  · next hright =>
      obtain rfl := Option.some.inj h
      simp only [skipChecksum?, hheader, Option.bind_eq_bind, readNumber?_append_right hsum t,
        Option.bind_some, if_pos hright]
      rfl
  · cases h

theorem skipHeader?_append_right (h : skipHeader? bs = some rest) (t : Bytes) :
    skipHeader? (bs ++ t) = some (rest ++ t) := by
  obtain ⟨⟨head, bs₁⟩, hhead, h⟩ := Option.bind_eq_some_iff.mp h
  have hle₁ := length_le_of_splitBytes? hhead
  dsimp only at h
  rw [skipHeader?, splitBytes?_append_right hhead t]
  simp only [Option.bind_eq_bind, Option.bind_some]
  split at h
  · split at h
    · cases h
    · next flags _ hflags =>
        obtain ⟨bs₂, hextra, h⟩ := Option.bind_eq_some_iff.mp h
        obtain ⟨hle₂, hextra⟩ := skips_skipExtra?.when _ hextra
        obtain ⟨bs₃, hname, h⟩ := Option.bind_eq_some_iff.mp h
        obtain ⟨hle₃, hname⟩ := skips_skipText?.when _ hname
        obtain ⟨bs₄, hcomment, h⟩ := Option.bind_eq_some_iff.mp h
        obtain ⟨hle₄, hcomment⟩ := skips_skipText?.when _ hcomment
        have hle : bs₄.length ≤ bs.length := by omega
        simp only [if_neg hflags, hextra, hname, hcomment, Option.bind_some]
        cases hchecked : hasFlag flags.toNat 1 with
        | true =>
            rw [hchecked] at h
            exact skipChecksum?_append_right hle h t
        | false =>
            rw [hchecked] at h
            obtain rfl := Option.some.inj h
            rfl
  · cases h

theorem member?_append_right (h : member? bs = some (data, rest)) (t : Bytes) :
    member? (bs ++ t) = some (data, rest ++ t) := by
  obtain ⟨bs₁, hheader, h⟩ := Option.bind_eq_some_iff.mp h
  obtain ⟨⟨data', bs₂⟩, hdata, h⟩ := Option.bind_eq_some_iff.mp h
  obtain ⟨⟨sum, bs₃⟩, hsum, h⟩ := Option.bind_eq_some_iff.mp h
  obtain ⟨⟨length, bs₄⟩, hlength, h⟩ := Option.bind_eq_some_iff.mp h
  dsimp only at h
  split at h
  · next hright =>
      obtain ⟨rfl, rfl⟩ := Prod.mk.inj (Option.some.inj h)
      simp only [member?, Option.bind_eq_bind, skipHeader?_append_right hheader t,
        inflate?_append_right hdata t, readNumber?_append_right hsum t,
        readNumber?_append_right hlength t, Option.bind_some, if_pos hright]
      rfl
  · cases h

theorem unpack?_append_right (h : member? bs = some (data, rest)) (t : Bytes) :
    unpack? (bs ++ t) = some data := by
  rw [unpack?, member?_append_right h t]
  rfl

-- A member that ends before the last byte would end there with the rest behind it as well.
theorem unpack?_eq_none_of_prefix {p : Bytes} (h : member? bs = some (data, []))
    (hp : p <+: bs) (hne : p ≠ bs) : unpack? p = none := by
  obtain ⟨t, rfl⟩ := hp
  cases hmember : member? p with
  | none => rw [unpack?, hmember]; rfl
  | some r =>
      have hwhole := member?_append_right hmember t
      rw [h] at hwhole
      have hrest : r.2 ++ t = [] := (Prod.mk.inj (Option.some.inj hwhole)).2.symm
      rw [(List.append_eq_nil_iff.mp hrest).2, List.append_nil] at hne
      contradiction

end Member

end Gateway.Gzip
