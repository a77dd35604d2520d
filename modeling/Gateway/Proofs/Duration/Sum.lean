import Gateway.Proofs.Binary64.Whole
import Gateway.Proofs.Duration.Grammar
import Gateway.Proofs.Snapshot.Rearranged

namespace Gateway.Duration

open Binary64 Text

def unitNanoseconds : List Char → Nat
  | ['n', 's'] => 1
  | ['u', 's'] | ['µ', 's'] | ['μ', 's'] => 1000
  | ['m', 's'] => 1000000
  | ['s'] => 1000000000
  | ['m'] => 60 * 1000000000
  | ['h'] => 60 * 60 * 1000000000
  | _ => 0

namespace PartText

def amount (p : PartText) : Nat :=
  Nat.ofDigitChars 10 p.number 0

def nanoseconds (p : PartText) : Nat :=
  p.amount * unitNanoseconds p.unit

structure Same (p q : PartText) : Prop where
  number : p.number.dropWhile (· = '0') = q.number.dropWhile (· = '0')
  unit : p.unit = q.unit

end PartText

def nanoseconds (texts : List PartText) : Nat :=
  (texts.map PartText.nanoseconds).sum

inductive Spelled : List Char → List PartText → Prop
  | zero : Spelled ['0'] []
  | parts {texts : List PartText} : texts ≠ [] → Spelled (texts.flatMap PartText.chars) texts

def withSign (negative : Bool) (n : Int) : Int :=
  if negative then -n else n

def Undefined (a b : Magnitude) : Prop :=
  a = .infinite ∧ b.isZero = true ∨ a.isZero = true ∧ b = .infinite

def nearestInRange (parts : List Part) : Int :=
  min ((total parts).nearest?.getD (2 ^ 63 - 1)) (2 ^ 63 - 1)

structure Safe (parts : List Part) : Prop where
  products : ∀ p ∈ parts, ¬Undefined p.amount (.ofNat p.unit.nanoseconds)
  conversion : (saturate false (total parts).nearest?).toInt = nearestInRange parts
  division : (saturate false (total parts).nearest? / 1000000).toInt =
    nearestInRange parts / 1000000
  negation : (-(saturate false (total parts).nearest? / 1000000)).toInt =
    -(nearestInRange parts / 1000000)

theorem unitNanoseconds_eq {name : List Char} (h : name ∈ unitNames) :
    (TimeUnit.ofName? name).map TimeUnit.nanoseconds = some (unitNanoseconds name) := by
  have hall : ∀ name ∈ unitNames,
      (TimeUnit.ofName? name).map TimeUnit.nanoseconds = some (unitNanoseconds name) := by decide
  exact hall name h

theorem unitNanoseconds_bounds {name : List Char} (h : name ∈ unitNames) :
    0 < unitNanoseconds name ∧ unitNanoseconds name ≤ 2 ^ 53 := by
  have hall : ∀ name ∈ unitNames,
      0 < unitNanoseconds name ∧ unitNanoseconds name ≤ 2 ^ 53 := by decide
  exact hall name h

theorem ofDigitChars_dropWhile_zero (cs : List Char) :
    Nat.ofDigitChars 10 (cs.dropWhile (· = '0')) 0 = Nat.ofDigitChars 10 cs 0 := by
  induction cs with
  | nil => rfl
  | cons c cs ih =>
      by_cases h : c = '0'
      · subst h
        exact ih
      · rw [List.dropWhile_cons_of_neg (by simpa using h)]

namespace PartText

variable {p q : PartText}

theorem unit_part (p : PartText) : p.part.unit.nanoseconds = unitNanoseconds p.unit := by
  have h := unitNanoseconds_eq p.unit_mem
  rw [← Option.some_get (TimeUnit.ofName?_isSome_iff.mpr p.unit_mem), Option.map_some,
    Option.some.injEq] at h
  exact h

theorem isDigit_of_mem_number (h : '.' ∉ p.number) : ∀ c ∈ p.number, c.isDigit = true := by
  intro c hc
  refine (p.numeral.characters c hc).resolve_right ?_
  rintro rfl
  exact h hc

theorem amount_part (h : '.' ∉ p.number) : p.part.amount = .ofScientific p.amount 0 := by
  have hdigits := isDigit_of_mem_number h
  have hnumeral : numeral? p.number = some (.ofScientific p.amount 0) := by
    have htake := List.takeWhile_eq_self_iff.mpr hdigits
    have hdrop := List.dropWhile_eq_nil_iff.mpr hdigits
    simp only [numeral?, htake, hdrop, if_neg p.number_ne_nil]
    rfl
  exact Option.get_of_eq_some _ hnumeral

theorem nanoseconds_part (h : '.' ∉ p.number) (hle : p.nanoseconds ≤ 2 ^ 53) :
    p.part.nanoseconds = .whole p.nanoseconds := by
  obtain ⟨hpos, hunit⟩ := unitNanoseconds_bounds p.unit_mem
  have hamount : p.amount ≤ 2 ^ 53 := Nat.le_trans (Nat.le_mul_of_pos_right p.amount hpos) hle
  rw [Part.nanoseconds, amount_part h, unit_part, Magnitude.ofScientific_whole hamount,
    Magnitude.ofNat_of_le hunit, Magnitude.mul_whole hle]
  rfl

theorem Same.nanoseconds_eq (h : p.Same q) : p.nanoseconds = q.nanoseconds := by
  rw [nanoseconds, nanoseconds, amount, amount, h.unit, ← ofDigitChars_dropWhile_zero,
    h.number, ofDigitChars_dropWhile_zero]

theorem point_mem_dropWhile_iff (cs : List Char) :
    '.' ∈ cs.dropWhile (· = '0') ↔ '.' ∈ cs := by
  have hzeros : '.' ∉ cs.takeWhile (· = '0') := by
    intro h
    cases List.mem_takeWhile_imp h
  conv_rhs => rw [← List.takeWhile_append_dropWhile (p := fun c => decide (c = '0')) (l := cs)]
  rw [List.mem_append, or_iff_right hzeros]

theorem Same.point_iff (h : p.Same q) : '.' ∈ p.number ↔ '.' ∈ q.number := by
  rw [← point_mem_dropWhile_iff, h.number, point_mem_dropWhile_iff]

end PartText

theorem foldl_nanoseconds {texts : List PartText} (hwhole : ∀ p ∈ texts, '.' ∉ p.number)
    (sum : Nat) (hle : sum + nanoseconds texts ≤ 2 ^ 53) :
    (texts.map PartText.part).foldl (fun (sum : Magnitude) p => sum.add p.nanoseconds)
      (Magnitude.whole sum) = Magnitude.whole (sum + nanoseconds texts) := by
  induction texts generalizing sum with
  | nil => rfl
  | cons p texts ih =>
      obtain ⟨hp, htexts⟩ := List.forall_mem_cons.mp hwhole
      have hsum : nanoseconds (p :: texts) = p.nanoseconds + nanoseconds texts := List.sum_cons
      rw [hsum, ← Nat.add_assoc] at hle ⊢
      rw [List.map_cons, List.foldl_cons, PartText.nanoseconds_part hp (by omega),
        Magnitude.add_whole (by omega), ih htexts _ hle]

theorem total_whole {texts : List PartText} (hwhole : ∀ p ∈ texts, '.' ∉ p.number)
    (hle : nanoseconds texts ≤ 2 ^ 53) :
    total (texts.map PartText.part) = .whole (nanoseconds texts) := by
  have hzero : Magnitude.zero = .whole 0 := by rw [Magnitude.whole, Nat.zero_mul]; rfl
  have hfold := foldl_nanoseconds hwhole 0 ((Nat.zero_add _).symm ▸ hle)
  rwa [Nat.zero_add, ← hzero] at hfold

theorem unsigned?_of_spelled {r : List Char} {texts : List PartText} (h : Spelled r texts) :
    unsigned? r =
      some (saturate false (total (texts.map PartText.part)).nearest? / 1000000) := by
  cases h with
  | zero => decide +kernel
  | parts hne =>
      have hparts := parts?_flatMap texts
      have hzero : texts.flatMap PartText.chars ≠ ['0'] := by
        intro h
        have hlone : parts? ['0'] = none := by decide +kernel
        rw [h, hlone] at hparts
        cases hparts
      have hnil : texts.flatMap PartText.chars ≠ [] := Composed.ne_nil ⟨texts, hne, rfl⟩
      rw [unsigned?, if_neg hzero, if_neg hnil, hparts, Option.map_some]

theorem exists_spelled {r : List Char} (h : (unsigned? r).isSome = true) :
    ∃ texts, Spelled r texts := by
  rcases unsigned?_isSome_iff.mp h with rfl | ⟨texts, hne, rfl⟩
  · exact ⟨[], .zero⟩
  · exact ⟨texts, .parts hne⟩

section Steps

variable (parts : List Part)

theorem nearestInRange_bounds : 0 ≤ nearestInRange parts ∧ nearestInRange parts < 2 ^ 63 := by
  rw [nearestInRange]
  omega

theorem not_undefined (p : Part) : ¬Undefined p.amount (.ofNat p.unit.nanoseconds) := by
  have hunit : 0 < p.unit.nanoseconds ∧ p.unit.nanoseconds ≤ 2 ^ 53 := by
    cases p.unit <;> decide
  rw [Magnitude.ofNat_of_le hunit.2, Undefined]
  rintro (⟨-, hzero⟩ | ⟨-, hinfinite⟩)
  · exact absurd (beq_iff_eq.mp hzero) (Nat.mul_pos hunit.1 Magnitude.one_pos).ne'
  · cases hinfinite

theorem safe : Safe parts := by
  have hbounds := nearestInRange_bounds parts
  have hconversion := toInt_saturate (total parts).nearest?
  change _ = nearestInRange parts at hconversion
  have hdivision : (saturate false (total parts).nearest? / 1000000).toInt =
      nearestInRange parts / 1000000 := by
    rw [toInt_div_of_nonneg (hconversion ▸ hbounds.1) (by decide), hconversion]
    rfl
  refine ⟨fun p _ => not_undefined p, hconversion, hdivision, ?_⟩
  rw [toInt_neg_of_nonneg (by omega), hdivision]

end Steps

section Milliseconds

variable {s : String} {t r : List Char} {negative : Bool} {texts : List PartText}

theorem milliseconds?_of_spelled (ht : Trims s.toList t) (hr : Signed t negative r)
    (hspelled : Spelled r texts) :
    ∃ ms, milliseconds? s = some ms ∧
      ms.toInt = withSign negative (nearestInRange (texts.map PartText.part) / 1000000) := by
  have hsafe := safe (texts.map PartText.part)
  refine ⟨_, by rw [milliseconds?_of_signed ht hr, unsigned?_of_spelled hspelled]; rfl, ?_⟩
  cases negative with
  | false => exact hsafe.division
  | true => exact hsafe.negation

theorem exists_spelled_of_milliseconds? {ms : Int64} (h : milliseconds? s = some ms) :
    ∃ t r negative texts, Trims s.toList t ∧ Signed t negative r ∧ Spelled r texts := by
  have ht := trims_trimmed s.toList
  obtain ⟨negative, r, hr⟩ := exists_signed (trimmed s.toList)
  rw [milliseconds?_of_signed ht hr] at h
  obtain ⟨texts, hspelled⟩ := exists_spelled (by rw [← Option.isSome_map, h, Option.isSome_some])
  exact ⟨_, r, negative, texts, ht, hr, hspelled⟩

theorem milliseconds?_bounds {ms : Int64} (h : milliseconds? s = some ms) :
    -9223372036854 ≤ ms.toInt ∧ ms.toInt ≤ 9223372036854 := by
  obtain ⟨t, r, negative, texts, ht, hr, hspelled⟩ := exists_spelled_of_milliseconds? h
  obtain ⟨n, hn, hvalue⟩ := milliseconds?_of_spelled ht hr hspelled
  obtain rfl : ms = n := Option.some.inj (h.symm.trans hn)
  have hbounds := nearestInRange_bounds (texts.map PartText.part)
  rw [hvalue, withSign]
  split <;> omega

theorem milliseconds?_whole (ht : Trims s.toList t) (hr : Signed t negative r)
    (hspelled : Spelled r texts) (hwhole : ∀ p ∈ texts, '.' ∉ p.number)
    (hle : nanoseconds texts ≤ 2 ^ 53) :
    ∃ ms, milliseconds? s = some ms ∧
      ms.toInt = withSign negative (nanoseconds texts / 1000000) := by
  have hnearest : nearestInRange (texts.map PartText.part) = nanoseconds texts := by
    rw [nearestInRange, total_whole hwhole hle, Magnitude.nearest?_whole, Option.getD_some]
    omega
  rw [← hnearest]
  exact milliseconds?_of_spelled ht hr hspelled

end Milliseconds

section Shuffled

variable {texts texts' : List PartText} (h : Shuffled PartText.Same texts texts')
include h

theorem nanoseconds_eq_of_shuffled : nanoseconds texts' = nanoseconds texts :=
  ((h.perm_map fun _ _ => PartText.Same.nanoseconds_eq).sum_eq).symm

theorem point_not_mem_of_shuffled (hwhole : ∀ p ∈ texts, '.' ∉ p.number) :
    ∀ q ∈ texts', '.' ∉ q.number := by
  have hall := h.all_eq (p := fun p => '.' ∉ p.number) fun _ _ hpq =>
    decide_eq_decide.mpr (not_congr hpq.point_iff)
  rw [Bool.eq_iff_iff] at hall
  simp only [List.all_eq_true, decide_eq_true_eq] at hall
  exact hall.mp hwhole

end Shuffled

theorem milliseconds?_sum :
    (∀ (s : String) (t r : List Char) (negative : Bool) (texts : List PartText),
      Trims s.toList t → Signed t negative r → Spelled r texts →
      (∀ p ∈ texts, '.' ∉ p.number) → nanoseconds texts ≤ 2 ^ 53 →
      (∃ ms, milliseconds? s = some ms ∧
        ms.toInt = withSign negative (nanoseconds texts / 1000000)) ∧
      ∀ (s' : String) (t' r' : List Char) (texts' : List PartText),
        Trims s'.toList t' → Signed t' negative r' → Spelled r' texts' →
        Shuffled PartText.Same texts texts' → milliseconds? s' = milliseconds? s) ∧
    ∀ (s : String) (ms : Int64), milliseconds? s = some ms →
      (-9223372036854 ≤ ms.toInt ∧ ms.toInt ≤ 9223372036854) ∧
      ∃ t r negative texts, Trims s.toList t ∧ Signed t negative r ∧ Spelled r texts ∧
        Safe (texts.map PartText.part) ∧
        ms.toInt = withSign negative (nearestInRange (texts.map PartText.part) / 1000000) := by
  constructor
  · intro s t r negative texts ht hr hspelled hwhole hle
    obtain ⟨ms, hms, hvalue⟩ := milliseconds?_whole ht hr hspelled hwhole hle
    refine ⟨⟨ms, hms, hvalue⟩, fun s' t' r' texts' ht' hr' hspelled' hsame => ?_⟩
    have hsum := nanoseconds_eq_of_shuffled hsame
    obtain ⟨ms', hms', hvalue'⟩ := milliseconds?_whole ht' hr' hspelled'
      (point_not_mem_of_shuffled hsame hwhole) (hsum ▸ hle)
    rw [hsum, ← hvalue, Int64.toInt_inj] at hvalue'
    rw [hms, hms', hvalue']
  · intro s ms h
    obtain ⟨t, r, negative, texts, ht, hr, hspelled⟩ := exists_spelled_of_milliseconds? h
    obtain ⟨n, hn, hvalue⟩ := milliseconds?_of_spelled ht hr hspelled
    obtain rfl : ms = n := Option.some.inj (h.symm.trans hn)
    exact ⟨milliseconds?_bounds h, t, r, negative, texts, ht, hr, hspelled, safe _, hvalue⟩

def minuteAndSeconds : List PartText := [
  ⟨['1'], ['m'], numeral?_isSome_iff.mp rfl, by decide⟩,
  ⟨['3', '0'], ['s'], numeral?_isSome_iff.mp rfl, by decide⟩]

def secondsAndMinute : List PartText := [
  ⟨['0', '3', '0'], ['s'], numeral?_isSome_iff.mp rfl, by decide⟩,
  ⟨['0', '1'], ['m'], numeral?_isSome_iff.mp rfl, by decide⟩]

theorem minuteAndSeconds_same : Shuffled PartText.Same minuteAndSeconds secondsAndMinute :=
  ⟨_, List.Perm.swap _ _ [], .cons ⟨by decide, rfl⟩ (.cons ⟨by decide, rfl⟩ .nil)⟩

theorem milliseconds?_sum_swapped :
    (Trims " -1m30s".toList "-1m30s".toList ∧ Signed "-1m30s".toList true "1m30s".toList ∧
      Spelled "1m30s".toList minuteAndSeconds ∧ (∀ p ∈ minuteAndSeconds, '.' ∉ p.number) ∧
      nanoseconds minuteAndSeconds ≤ 2 ^ 53) ∧
    (∃ ms, milliseconds? " -1m30s" = some ms ∧ ms.toInt = -90000) ∧
    (Trims "-030s01m".toList "-030s01m".toList ∧ Signed "-030s01m".toList true "030s01m".toList ∧
      Spelled "030s01m".toList secondsAndMinute ∧
      Shuffled PartText.Same minuteAndSeconds secondsAndMinute) ∧
    milliseconds? "-030s01m" = milliseconds? " -1m30s" ∧
    milliseconds? "99999999999999999999h" = some 9223372036854 ∧
    (9223372036854 : Int64).toInt ≤ 9223372036854 := by
  have ht : Trims " -1m30s".toList "-1m30s".toList := trims_trimmed _
  have hr : Signed "-1m30s".toList true "1m30s".toList := .minus _
  have hspelled : Spelled "1m30s".toList minuteAndSeconds :=
    @Spelled.parts minuteAndSeconds (List.cons_ne_nil _ _)
  have hwhole : ∀ p ∈ minuteAndSeconds, '.' ∉ p.number := by decide
  have hle : nanoseconds minuteAndSeconds ≤ 2 ^ 53 := by decide
  have ht' : Trims "-030s01m".toList "-030s01m".toList := trims_trimmed _
  have hr' : Signed "-030s01m".toList true "030s01m".toList := .minus _
  have hspelled' : Spelled "030s01m".toList secondsAndMinute :=
    @Spelled.parts secondsAndMinute (List.cons_ne_nil _ _)
  obtain ⟨hvalue, hsame⟩ := milliseconds?_sum.1 _ _ _ _ _ ht hr hspelled hwhole hle
  have hlong : milliseconds? "99999999999999999999h" = some 9223372036854 := by decide +kernel
  exact ⟨⟨ht, hr, hspelled, hwhole, hle⟩, hvalue,
    ⟨ht', hr', hspelled', minuteAndSeconds_same⟩,
    hsame _ _ _ _ ht' hr' hspelled' minuteAndSeconds_same, hlong,
    (milliseconds?_sum.2 _ _ hlong).1.2⟩

end Gateway.Duration
