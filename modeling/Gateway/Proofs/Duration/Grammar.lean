import Gateway.Duration
import Gateway.Proofs.Binary64.Whole
import Gateway.Proofs.Text.Trimmed

namespace Gateway.Duration

open Text

structure Numeral (cs : List Char) : Prop where
  characters : ∀ c ∈ cs, c.isDigit = true ∨ c = '.'
  digit : ∃ c ∈ cs, c.isDigit = true
  point : cs.count '.' ≤ 1

def unitNames : List (List Char) :=
  [['n', 's'], ['u', 's'], ['µ', 's'], ['μ', 's'], ['m', 's'], ['s'], ['m'], ['h']]

structure PartText where
  number : List Char
  unit : List Char
  numeral : Numeral number
  unit_mem : unit ∈ unitNames

def PartText.chars (p : PartText) : List Char :=
  p.number ++ p.unit

inductive Signed : List Char → Bool → List Char → Prop
  | minus (r : List Char) : Signed ('-' :: r) true r
  | plus (r : List Char) : Signed ('+' :: r) false r
  | bare {r : List Char} : (∀ c ∈ r.head?, c ≠ '-' ∧ c ≠ '+') → Signed r false r

def Composed (cs : List Char) : Prop :=
  ∃ texts : List PartText, texts ≠ [] ∧ cs = texts.flatMap PartText.chars

section Numeral

variable {whole fraction : List Char} {point : Char}

theorem count_point_of_digits (h : ∀ c ∈ whole, c.isDigit = true) : whole.count '.' = 0 := by
  refine List.count_eq_zero.mpr fun hmem => ?_
  cases h '.' hmem

theorem numeral_of_digits_iff (h : ∀ c ∈ whole, c.isDigit = true) :
    Numeral whole ↔ whole ≠ [] := by
  constructor
  · rintro ⟨-, ⟨c, hc, -⟩, -⟩
    exact List.ne_nil_of_mem hc
  · intro hne
    obtain ⟨c, hc⟩ := List.exists_mem_of_ne_nil whole hne
    exact ⟨fun c hc => .inl (h c hc), ⟨c, hc, h c hc⟩, by simp [count_point_of_digits h]⟩

theorem numeral_of_point_iff (h : ∀ c ∈ whole, c.isDigit = true) (hpoint : point.isDigit = false) :
    Numeral (whole ++ point :: fraction) ↔
      point = '.' ∧ (∀ c ∈ fraction, c.isDigit = true) ∧ whole ++ fraction ≠ [] := by
  have hcount : (whole ++ '.' :: fraction).count '.' = fraction.count '.' + 1 := by
    rw [List.count_append, count_point_of_digits h, List.count_cons_self, Nat.zero_add]
  constructor
  · rintro ⟨hcharacters, ⟨d, hd, hdigit⟩, hone⟩
    have hdot : point = '.' :=
      (hcharacters point (by simp)).resolve_left (Bool.eq_false_iff.mp hpoint)
    subst hdot
    refine ⟨rfl, fun c hc => (hcharacters c (by simp [hc])).resolve_right ?_, ?_⟩
    · rintro rfl
      have := List.count_pos_iff.mpr hc
      omega
    · refine List.ne_nil_of_mem (a := d) ?_
      rcases List.mem_append.mp hd with hd | hd
      · exact List.mem_append_left fraction hd
      · refine List.mem_append_right whole ((List.mem_cons.mp hd).resolve_left ?_)
        rintro rfl
        cases hdigit
  · rintro ⟨rfl, hfraction, hne⟩
    obtain ⟨d, hd⟩ := List.exists_mem_of_ne_nil _ hne
    have hdigits : ∀ c ∈ whole ++ fraction, c.isDigit = true :=
      List.forall_mem_append.mpr ⟨h, hfraction⟩
    refine ⟨?_, ⟨d, ?_, hdigits d hd⟩, ?_⟩
    · intro c hc
      rcases List.mem_append.mp hc with hc | hc
      · exact .inl (h c hc)
      · rcases List.mem_cons.mp hc with rfl | hc
        · exact .inr rfl
        · exact .inl (hfraction c hc)
    · rcases List.mem_append.mp hd with hd | hd
      · exact List.mem_append_left _ hd
      · exact List.mem_append_right _ (List.mem_cons_of_mem _ hd)
    · rw [hcount, count_point_of_digits hfraction, Nat.zero_add]

theorem numeral?_isSome_iff {cs : List Char} : (numeral? cs).isSome = true ↔ Numeral cs := by
  have hwhole : ∀ c ∈ cs.takeWhile Char.isDigit, c.isDigit = true :=
    fun _ => List.mem_takeWhile_imp
  have hstop := List.head?_dropWhile_not Char.isDigit cs
  have hsplit := List.takeWhile_append_dropWhile (p := Char.isDigit) (l := cs)
  rw [numeral?]
  generalize cs.takeWhile Char.isDigit = whole at *
  generalize cs.dropWhile Char.isDigit = rest at *
  subst hsplit
  cases rest with
  | nil =>
      rw [List.append_nil, numeral_of_digits_iff hwhole]
      simp
  | cons point fraction =>
      rw [numeral_of_point_iff hwhole hstop]
      simp [and_assoc]

end Numeral

theorem isNumeral_iff {c : Char} : isNumeral c = true ↔ c.isDigit = true ∨ c = '.' := by
  rw [isNumeral, Bool.or_eq_true, beq_iff_eq]

theorem TimeUnit.ofName?_isSome_iff {name : List Char} :
    (TimeUnit.ofName? name).isSome = true ↔ name ∈ unitNames := by
  constructor
  · intro h
    rw [TimeUnit.ofName?.eq_def] at h
    split at h
    case h_9 => cases h
    all_goals decide
  · intro h
    have hall : ∀ name ∈ unitNames, (TimeUnit.ofName? name).isSome = true := by decide
    exact hall name h

namespace PartText

variable (p : PartText)

theorem number_ne_nil : p.number ≠ [] := by
  obtain ⟨c, hc, -⟩ := p.numeral.digit
  exact List.ne_nil_of_mem hc

theorem isNumeral_of_mem_number : ∀ c ∈ p.number, isNumeral c = true :=
  fun c hc => isNumeral_iff.mpr (p.numeral.characters c hc)

theorem letter_of_mem_unit {c : Char} (hc : c ∈ p.unit) :
    isNumeral c = false ∧ isBlank c = false := by
  have hall : (unitNames.all fun name => name.all fun c => !isNumeral c && !isBlank c) = true := by
    decide
  have hletter := List.all_eq_true.mp (List.all_eq_true.mp hall p.unit p.unit_mem) c hc
  rwa [Bool.and_eq_true, Bool.not_eq_true', Bool.not_eq_true'] at hletter

theorem not_isNumeral_of_mem_unit : ∀ c ∈ p.unit, isNumeral c = false :=
  fun _ hc => (p.letter_of_mem_unit hc).1

theorem unit_ne_nil : p.unit ≠ [] := by
  have hall : ∀ name ∈ unitNames, name ≠ [] := by decide
  exact hall p.unit p.unit_mem

def part : Part where
  amount := (numeral? p.number).get (numeral?_isSome_iff.mpr p.numeral)
  unit := (TimeUnit.ofName? p.unit).get (TimeUnit.ofName?_isSome_iff.mpr p.unit_mem)

section Append

variable {p} {rest : List Char} (hrest : ∀ c ∈ rest.head?, isNumeral c = true)

theorem not_isNumeral_head?_unit_append : ∀ c ∈ (p.unit ++ rest).head?, isNumeral c = false :=
  of_mem_head?_append p.unit_ne_nil fun c hc =>
    p.not_isNumeral_of_mem_unit c (List.mem_of_mem_head? hc)

theorem takeWhile_chars_append : (p.chars ++ rest).takeWhile isNumeral = p.number := by
  rw [chars, List.append_assoc]
  exact takeWhile_append_of_stop p.isNumeral_of_mem_number not_isNumeral_head?_unit_append

theorem dropWhile_chars_append : (p.chars ++ rest).dropWhile isNumeral = p.unit ++ rest := by
  rw [chars, List.append_assoc]
  exact dropWhile_append_of_stop p.isNumeral_of_mem_number not_isNumeral_head?_unit_append

include hrest

theorem takeWhile_unit_append : (p.unit ++ rest).takeWhile (fun c => !isNumeral c) = p.unit :=
  takeWhile_append_of_stop (fun c hc => congrArg not (p.not_isNumeral_of_mem_unit c hc))
    (fun c hc => congrArg not (hrest c hc))

theorem dropWhile_unit_append : (p.unit ++ rest).dropWhile (fun c => !isNumeral c) = rest :=
  dropWhile_append_of_stop (fun c hc => congrArg not (p.not_isNumeral_of_mem_unit c hc))
    (fun c hc => congrArg not (hrest c hc))

theorem parts?_chars_append : parts? (p.chars ++ rest) = (parts? rest).map (p.part :: ·) := by
  have hne : p.chars ++ rest ≠ [] := by simp [chars, p.number_ne_nil]
  rw [parts?, if_neg hne, dif_neg (takeWhile_chars_append (p := p) ▸ p.number_ne_nil)]
  simp only [takeWhile_chars_append, dropWhile_chars_append, takeWhile_unit_append hrest,
    dropWhile_unit_append hrest]
  rw [← Option.some_get (numeral?_isSome_iff.mpr p.numeral),
    ← Option.some_get (TimeUnit.ofName?_isSome_iff.mpr p.unit_mem)]
  cases parts? rest <;> rfl

end Append

end PartText

theorem isNumeral_head?_flatMap (texts : List PartText) :
    ∀ c ∈ (texts.flatMap PartText.chars).head?, isNumeral c = true := by
  cases texts with
  | nil => intro c hc; cases hc
  | cons p texts =>
      rw [List.flatMap_cons, PartText.chars, List.append_assoc]
      exact of_mem_head?_append p.number_ne_nil fun c hc =>
        p.isNumeral_of_mem_number c (List.mem_of_mem_head? hc)

theorem parts?_flatMap (texts : List PartText) :
    parts? (texts.flatMap PartText.chars) = some (texts.map PartText.part) := by
  induction texts with
  | nil => rw [List.flatMap_nil, parts?, if_pos rfl]; rfl
  | cons p texts ih =>
      rw [List.flatMap_cons, PartText.parts?_chars_append (isNumeral_head?_flatMap texts), ih]
      rfl

-- What the scanner takes off in one round is one part: a longest run of digits and points, and all
-- that follows up to the next of them.
theorem exists_texts_of_parts? {cs : List Char} {parts : List Part} (h : parts? cs = some parts) :
    ∃ texts : List PartText, cs = texts.flatMap PartText.chars := by
  induction cs using parts?.induct generalizing parts with
  | case1 => exact ⟨[], rfl⟩
  | case2 cs hne hnumber =>
      rw [parts?, if_neg hne, dif_pos hnumber] at h
      cases h
  | case3 cs hne hnumber rest =>
      rename_i ih
      rw [parts?, if_neg hne, dif_neg hnumber] at h
      obtain ⟨amount, hamount, h⟩ := Option.bind_eq_some_iff.mp h
      obtain ⟨unit, hunit, h⟩ := Option.bind_eq_some_iff.mp h
      obtain ⟨tail, htail, -⟩ := Option.bind_eq_some_iff.mp h
      obtain ⟨texts, htexts⟩ := ih htail
      have hnumeral := numeral?_isSome_iff.mp (Option.isSome_of_eq_some hamount)
      have hname := TimeUnit.ofName?_isSome_iff.mp (Option.isSome_of_eq_some hunit)
      refine ⟨⟨_, _, hnumeral, hname⟩ :: texts, ?_⟩
      rw [List.flatMap_cons, ← htexts, PartText.chars, List.append_assoc,
        List.takeWhile_append_dropWhile, List.takeWhile_append_dropWhile]

theorem parts?_eq_some_iff {cs : List Char} {parts : List Part} :
    parts? cs = some parts ↔
      ∃ texts : List PartText, cs = texts.flatMap PartText.chars ∧
        parts = texts.map PartText.part := by
  constructor
  · intro h
    obtain ⟨texts, rfl⟩ := exists_texts_of_parts? h
    rw [parts?_flatMap, Option.some.injEq] at h
    exact ⟨texts, rfl, h.symm⟩
  · rintro ⟨texts, rfl, rfl⟩
    exact parts?_flatMap texts

theorem Composed.ne_nil {cs : List Char} (h : Composed cs) : cs ≠ [] := by
  obtain ⟨texts, hne, rfl⟩ := h
  cases texts with
  | nil => exact absurd rfl hne
  | cons p texts => simp [PartText.chars, p.number_ne_nil]

theorem unsigned?_isSome_iff {cs : List Char} :
    (unsigned? cs).isSome = true ↔ cs = ['0'] ∨ Composed cs := by
  rw [unsigned?]
  split
  · next hzero => exact iff_of_true rfl (.inl hzero)
  · next hzero =>
      split
      · next hnil =>
          refine iff_of_false Bool.false_ne_true ?_
          rintro (h | h)
          · exact hzero h
          · exact h.ne_nil hnil
      · next hne =>
          rw [Option.isSome_map, Option.isSome_iff_exists, or_iff_right hzero]
          constructor
          · rintro ⟨parts, hparts⟩
            obtain ⟨texts, htexts, -⟩ := parts?_eq_some_iff.mp hparts
            refine ⟨texts, ?_, htexts⟩
            rintro rfl
            exact hne htexts
          · rintro ⟨texts, -, rfl⟩
            exact ⟨_, parts?_eq_some_iff.mpr ⟨texts, rfl, rfl⟩⟩

section Sign

variable {cs : List Char}

theorem isBlank_of_isDigit {c : Char} (h : c.isDigit = true) : isBlank c = false := by
  have hrange : 48 ≤ c.toNat ∧ c.toNat ≤ 57 := by
    simpa [Char.isDigit, UInt32.le_iff_toNat_le] using h
  simp only [isBlank, Bool.or_eq_false_iff, Bool.and_eq_false_imp, decide_eq_true_eq,
    decide_eq_false_iff_not, beq_eq_false_iff_ne]
  omega

theorem isBlank_of_isNumeral {c : Char} (h : isNumeral c = true) : isBlank c = false := by
  rcases isNumeral_iff.mp h with hdigit | rfl
  · exact isBlank_of_isDigit hdigit
  · decide

theorem PartText.isBlank_of_mem_chars (p : PartText) : ∀ c ∈ p.chars, isBlank c = false := by
  intro c hc
  rcases List.mem_append.mp hc with hc | hc
  · exact isBlank_of_isNumeral (p.isNumeral_of_mem_number c hc)
  · exact (p.letter_of_mem_unit hc).2

theorem isBlank_of_unsigned? (h : (unsigned? cs).isSome = true) : ∀ c ∈ cs, isBlank c = false := by
  rcases unsigned?_isSome_iff.mp h with rfl | ⟨texts, -, rfl⟩
  · exact List.forall_mem_singleton.mpr rfl
  · intro c hc
    obtain ⟨p, -, hp⟩ := List.mem_flatMap.mp hc
    exact p.isBlank_of_mem_chars c hp

theorem isNumeral_head?_of_unsigned? (h : (unsigned? cs).isSome = true) :
    ∀ c ∈ cs.head?, isNumeral c = true := by
  rcases unsigned?_isSome_iff.mp h with rfl | ⟨texts, -, rfl⟩
  · intro c hc
    cases hc
    rfl
  · exact isNumeral_head?_flatMap texts

theorem splitSign_of_signed {r : List Char} {negative : Bool} (h : Signed cs negative r) :
    splitSign cs = (negative, r) := by
  cases h with
  | minus r => rfl
  | plus r => rfl
  | bare hfirst =>
      cases cs with
      | nil => rfl
      | cons c cs =>
          obtain ⟨hminus, hplus⟩ := hfirst c rfl
          rw [splitSign, if_neg hminus, if_neg hplus]

theorem exists_signed (cs : List Char) : ∃ negative r, Signed cs negative r := by
  cases cs with
  | nil => exact ⟨false, [], .bare fun _ hc => by cases hc⟩
  | cons c cs =>
      by_cases hminus : c = '-'
      · exact ⟨true, cs, hminus ▸ .minus cs⟩
      · by_cases hplus : c = '+'
        · exact ⟨false, cs, hplus ▸ .plus cs⟩
        · refine ⟨false, c :: cs, .bare fun d hd => ?_⟩
          cases hd
          exact ⟨hminus, hplus⟩

theorem signed_of_isNumeral (h : ∀ c ∈ cs.head?, isNumeral c = true) : Signed cs false cs := by
  refine .bare fun c hc => ⟨?_, ?_⟩
  · rintro rfl
    cases h '-' hc
  · rintro rfl
    cases h '+' hc

theorem milliseconds?_of_signed {s : String} {t r : List Char} {negative : Bool}
    (ht : Trims s.toList t) (hr : Signed t negative r) :
    milliseconds? s = (unsigned? r).map fun ms => if negative then -ms else ms := by
  rw [milliseconds?, trimmed_of_trims ht, splitSign_of_signed hr]

-- An accepted text has neither blanks nor a sign of its own that a second reading could take off.
theorem milliseconds?_of_unsigned? (h : (unsigned? cs).isSome = true) :
    milliseconds? (String.ofList cs) = unsigned? cs := by
  have hblank := isBlank_of_unsigned? h
  have htrims : Trims (String.ofList cs).toList cs :=
    ⟨⟨[], [], by simp, List.forall_mem_nil _, List.forall_mem_nil _⟩,
      fun c hc => hblank c (List.mem_of_mem_head? hc),
      fun c hc => hblank c (List.mem_of_mem_getLast? hc)⟩
  rw [milliseconds?_of_signed htrims (signed_of_isNumeral (isNumeral_head?_of_unsigned? h))]
  exact Option.map_id'

theorem nonneg_of_unsigned? {ms : Int64} (h : unsigned? cs = some ms) : 0 ≤ ms := by
  rw [unsigned?] at h
  split at h
  · cases h
    decide
  · split at h
    · cases h
    · obtain ⟨parts, -, rfl⟩ := Option.map_eq_some_iff.mp h
      have hsum := Int64.le_iff_toInt_le.mp (saturate_nonneg (total parts).nearest?)
      rw [Int64.le_iff_toInt_le, Int64.toInt_div_of_ne_right _ _ (by decide)]
      exact Int.tdiv_nonneg hsum (by decide)

end Sign

theorem milliseconds?_exact :
    (∀ s : String, ∃ t negative r, Trims s.toList t ∧ Signed t negative r) ∧
    ∀ (s : String) (t : List Char) (negative : Bool) (r : List Char),
      Trims s.toList t → Signed t negative r →
      ((milliseconds? s).isSome = true ↔ r = ['0'] ∨ Composed r) ∧
      ∀ ms, milliseconds? s = some ms →
        ∃ n, milliseconds? (String.ofList r) = some n ∧ 0 ≤ n ∧
          ms = if negative then -n else n := by
  constructor
  · intro s
    obtain ⟨negative, r, hr⟩ := exists_signed (trimmed s.toList)
    exact ⟨_, negative, r, trims_trimmed s.toList, hr⟩
  · intro s t negative r ht hr
    rw [milliseconds?_of_signed ht hr, Option.isSome_map]
    refine ⟨unsigned?_isSome_iff, fun ms h => ?_⟩
    obtain ⟨n, hn, rfl⟩ := Option.map_eq_some_iff.mp h
    refine ⟨n, ?_, nonneg_of_unsigned? hn, rfl⟩
    rw [milliseconds?_of_unsigned? (Option.isSome_of_eq_some hn), hn]

theorem milliseconds?_exact_negative :
    (Trims " -1.5h.5µs\t".toList "-1.5h.5µs".toList ∧
      Signed "-1.5h.5µs".toList true "1.5h.5µs".toList ∧
      milliseconds? " -1.5h.5µs\t" = some (-5400000)) ∧
    ("1.5h.5µs".toList = ['0'] ∨ Composed "1.5h.5µs".toList) ∧
    ∃ n, milliseconds? (String.ofList "1.5h.5µs".toList) = some n ∧ 0 ≤ n ∧ -5400000 = -n := by
  have ht : Trims " -1.5h.5µs\t".toList "-1.5h.5µs".toList := by
    refine ⟨⟨[' '], ['\t'], rfl, ?_, ?_⟩, ?_, ?_⟩
    · exact List.forall_mem_singleton.mpr rfl
    · exact List.forall_mem_singleton.mpr rfl
    · intro c hc
      cases hc
      rfl
    · intro c hc
      cases hc
      rfl
  have hr : Signed "-1.5h.5µs".toList true "1.5h.5µs".toList := .minus _
  have hms : milliseconds? " -1.5h.5µs\t" = some (-5400000) := by decide +kernel
  obtain ⟨hgrammar, hvalue⟩ := milliseconds?_exact.2 _ _ _ _ ht hr
  exact ⟨⟨ht, hr, hms⟩, hgrammar.mp (Option.isSome_of_eq_some hms), hvalue _ hms⟩

end Gateway.Duration
