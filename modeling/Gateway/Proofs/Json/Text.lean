import Gateway.Datum.Value
import Gateway.Proofs.Json.Integer
import Gateway.Proofs.Json.Quoted

namespace Gateway.Json

open Ascii Datum

def Blank (bs : Bytes) : Prop :=
  ∀ b ∈ bs, isBlank b = true

theorem blank_nil : Blank [] := by
  simp [Blank]

theorem endsNumber_append {a rest : Bytes} (ha : Blank a) (hrest : EndsNumber rest) :
    EndsNumber (a ++ rest) := by
  cases a with
  | nil => exact hrest
  | cons b a => exact endsNumber_cons (.inl (ha b List.mem_cons_self)) _

theorem skipBlanks_append {a : Bytes} (ha : Blank a) (bs : Bytes) :
    skipBlanks (a ++ bs) = skipBlanks bs :=
  List.dropWhile_append_of_pos ha

theorem skipBlanks_cons {b : UInt8} (hb : isBlank b = false) (bs : Bytes) :
    skipBlanks (b :: bs) = b :: bs := by
  simp [skipBlanks, hb]

theorem skipBlanks_append_cons {a : Bytes} (ha : Blank a) {b : UInt8} (hb : isBlank b = false)
    (bs : Bytes) : skipBlanks (a ++ b :: bs) = b :: bs := by
  rw [skipBlanks_append ha, skipBlanks_cons hb]

section Steps

variable {fuel level : Nat} {a bs rest : Bytes}

theorem scanValue_append (ha : Blank a) (fuel level : Nat) (bs : Bytes) :
    scanValue fuel level (a ++ bs) = scanValue fuel level bs := by
  cases fuel with
  | zero => rw [scanValue, scanValue]
  | succ fuel => rw [scanValue, scanValue, skipBlanks_append ha]

theorem scanValue_scalar {b : UInt8} {d : Datum} (hb : isBlank b = false) (hl : b ≠ leftBracket)
    (ho : b ≠ leftBrace) (h : scanScalar (b :: bs) = some (d, rest)) :
    scanValue (fuel + 1) level (b :: bs) = (d, some rest) := by
  rw [scanValue, skipBlanks_cons hb]
  simp only [if_neg hl, if_neg ho, h]

theorem scanValue_array {items : List Datum} (hlevel : level < depthLimit)
    (h : scanItems fuel (level + 1) bs = (items, some rest)) :
    scanValue (fuel + 1) level (leftBracket :: bs) = (.list items .exact, some rest) := by
  rw [scanValue, skipBlanks_cons (by decide)]
  simp only [if_true, h, marked, hlevel]
  rfl

theorem scanValue_object {members : List (Option String × Datum)} (hlevel : level < depthLimit)
    (h : scanMembers fuel (level + 1) bs = (members, some rest)) :
    scanValue (fuel + 1) level (leftBrace :: bs) = (.record members true, some rest) := by
  have hne : leftBrace ≠ leftBracket := by decide
  rw [scanValue, skipBlanks_cons (by decide)]
  simp only [if_neg hne, if_true, h, marked, hlevel]
  rfl

theorem scanItems_nil (ha : Blank a) :
    scanItems (fuel + 1) level (a ++ rightBracket :: rest) = ([], some rest) := by
  rw [scanItems, skipBlanks_append_cons ha (by decide)]
  rfl

theorem scanItems_cons (ha : Blank a) {b : UInt8} (hb : isBlank b = false)
    (hr : b ≠ rightBracket) :
    scanItems (fuel + 1) level (a ++ b :: bs) = scanMoreItems fuel level (b :: bs) := by
  rw [scanItems, skipBlanks_append_cons ha hb]
  simp only [if_neg hr]

theorem scanMoreItems_last {d : Datum} (ha : Blank a)
    (h : scanValue fuel level bs = (d, some (a ++ rightBracket :: rest))) :
    scanMoreItems (fuel + 1) level bs = ([d], some rest) := by
  have hne : rightBracket ≠ comma := by decide
  rw [scanMoreItems, h]
  simp only [skipBlanks_append_cons ha (show isBlank rightBracket = false by decide), if_neg hne,
    if_true]

theorem scanMoreItems_comma {d : Datum} {ds : List Datum} {more : Bytes} (ha : Blank a)
    (h : scanValue fuel level bs = (d, some (a ++ comma :: more)))
    (hmore : scanMoreItems fuel level more = (ds, some rest)) :
    scanMoreItems (fuel + 1) level bs = (d :: ds, some rest) := by
  rw [scanMoreItems, h]
  simp only [skipBlanks_append_cons ha (show isBlank comma = false by decide), if_true, hmore]

theorem scanMembers_nil (ha : Blank a) :
    scanMembers (fuel + 1) level (a ++ rightBrace :: rest) = ([], some rest) := by
  rw [scanMembers, skipBlanks_append_cons ha (by decide)]
  rfl

theorem scanMembers_cons (ha : Blank a) {b : UInt8} (hb : isBlank b = false)
    (hr : b ≠ rightBrace) :
    scanMembers (fuel + 1) level (a ++ b :: bs) = scanMoreMembers fuel level (b :: bs) := by
  rw [scanMembers, skipBlanks_append_cons ha hb]
  simp only [if_neg hr]

theorem scanName_quoted (ha : Blank a) {b : Bytes} (hb : Blank b) (k : String) (rest : Bytes) :
    scanName (a ++ quoted k ++ b ++ colon :: rest) = some (some k, some rest) := by
  obtain ⟨tail, ps, htail, hscan, htext⟩ := Piece.scan_quoted k (b ++ colon :: rest)
  rw [htail, List.append_assoc, List.append_assoc, List.cons_append, scanName,
    skipBlanks_append_cons ha (by decide)]
  simp only [if_true, hscan, Option.map_some, htext,
    skipBlanks_append_cons hb (show isBlank colon = false by decide)]

theorem scanMoreMembers_last {k : Option String} {text : Bytes} {d : Datum} (ha : Blank a)
    (hname : scanName bs = some (k, some text))
    (h : scanValue fuel level text = (d, some (a ++ rightBrace :: rest))) :
    scanMoreMembers (fuel + 1) level bs = ([(k, d)], some rest) := by
  have hne : rightBrace ≠ comma := by decide
  rw [scanMoreMembers, hname]
  simp only [h, skipBlanks_append_cons ha (show isBlank rightBrace = false by decide),
    if_neg hne, if_true]

theorem scanMoreMembers_comma {k : Option String} {text more : Bytes} {d : Datum}
    {ms : List (Option String × Datum)} (ha : Blank a)
    (hname : scanName bs = some (k, some text))
    (h : scanValue fuel level text = (d, some (a ++ comma :: more)))
    (hmore : scanMoreMembers fuel level more = (ms, some rest)) :
    scanMoreMembers (fuel + 1) level bs = ((k, d) :: ms, some rest) := by
  rw [scanMoreMembers, hname]
  simp only [h, skipBlanks_append_cons ha (show isBlank comma = false by decide), if_true, hmore]

end Steps

mutual

def Spells : Value → Bytes → Prop
  | .null, bs => bs = Text.bytes "null"
  | .bool b, bs => bs = Text.bytes (if b then "true" else "false")
  | .number n, bs => bs = number n
  | .string s, bs => bs = quoted s
  | .array items, bs => ∃ t, SpellsItems items t ∧ bs = leftBracket :: t ++ [rightBracket]
  | .object members, bs => ∃ t, SpellsMembers members t ∧ bs = leftBrace :: t ++ [rightBrace]

def SpellsItems : List Value → Bytes → Prop
  | [], bs => Blank bs
  | [v], bs => ∃ a t b, Blank a ∧ Spells v t ∧ Blank b ∧ bs = a ++ t ++ b
  | v :: w :: vs, bs => ∃ a t b more, Blank a ∧ Spells v t ∧ Blank b ∧
      SpellsItems (w :: vs) more ∧ bs = a ++ t ++ b ++ comma :: more

def SpellsMembers : List (String × Value) → Bytes → Prop
  | [], bs => Blank bs
  | [(k, v)], bs => ∃ a a' c t b, Blank a ∧ Blank a' ∧ Blank c ∧ Spells v t ∧ Blank b ∧
      bs = a ++ quoted k ++ a' ++ colon :: (c ++ t ++ b)
  | (k, v) :: m :: ms, bs => ∃ a a' c t b more, Blank a ∧ Blank a' ∧ Blank c ∧ Spells v t ∧
      Blank b ∧ SpellsMembers (m :: ms) more ∧
      bs = a ++ quoted k ++ a' ++ colon :: (c ++ t ++ b ++ comma :: more)

end

mutual

theorem spells_compact (v : Value) : Spells v (compact v) := by
  cases v with
  | null | bool | number | string => rfl
  | array items => exact ⟨_, spellsItems_compactItems items, by rw [compact]⟩
  | object members => exact ⟨_, spellsMembers_compactMembers members, by rw [compact]⟩

theorem spellsItems_compactItems (vs : List Value) : SpellsItems vs (compactItems vs) := by
  match vs with
  | [] => exact blank_nil
  | [v] => exact ⟨[], _, [], blank_nil, spells_compact v, blank_nil, by simp [compactItems]⟩
  | v :: w :: vs =>
      exact ⟨[], _, [], _, blank_nil, spells_compact v, blank_nil,
        spellsItems_compactItems (w :: vs), by simp [compactItems]⟩

theorem spellsMembers_compactMembers (ms : List (String × Value)) :
    SpellsMembers ms (compactMembers ms) := by
  match ms with
  | [] => exact blank_nil
  | [(k, v)] =>
      exact ⟨[], [], [], _, [], blank_nil, blank_nil, blank_nil, spells_compact v, blank_nil,
        by simp [compactMembers]⟩
  | (k, v) :: m :: ms =>
      exact ⟨[], [], [], _, [], _, blank_nil, blank_nil, blank_nil, spells_compact v, blank_nil,
        spellsMembers_compactMembers (m :: ms), by simp [compactMembers]⟩

end

mutual

def Fits (level : Nat) : Value → Prop
  | .null | .bool _ | .string _ => True
  | .number (.integer i) => -2 ^ 63 ≤ i ∧ i < 2 ^ 64
  | .number (.double _) => False
  | .array items => level < depthLimit ∧ ItemsFit (level + 1) items
  | .object members => level < depthLimit ∧ MembersFit (level + 1) members

def ItemsFit (level : Nat) : List Value → Prop
  | [] => True
  | v :: vs => Fits level v ∧ ItemsFit level vs

def MembersFit (level : Nat) : List (String × Value) → Prop
  | [] => True
  | (_, v) :: ms => Fits level v ∧ MembersFit level ms

end

structure ScalarText (d : Datum) (t : Bytes) : Prop where
  starts : ∃ b bs, t = b :: bs ∧ isBlank b = false ∧ b ≠ leftBracket ∧ b ≠ leftBrace ∧
    b ≠ rightBracket
  scans : ∀ rest, EndsNumber rest → scanScalar (t ++ rest) = some (d, rest)

theorem scalarText_null : ScalarText .null (Text.bytes "null") where
  starts := ⟨0x6E, [0x75, 0x6C, 0x6C], rfl, by decide⟩
  scans _ _ := rfl

theorem scalarText_bool (b : Bool) :
    ScalarText (.bool b) (Text.bytes (if b then "true" else "false")) := by
  cases b with
  | false => exact ⟨⟨0x66, [0x61, 0x6C, 0x73, 0x65], rfl, by decide⟩, fun _ _ => rfl⟩
  | true => exact ⟨⟨0x74, [0x72, 0x75, 0x65], rfl, by decide⟩, fun _ _ => rfl⟩

theorem scalarText_quoted (s : String) : ScalarText (.text (some s)) (quoted s) where
  starts := ⟨quotationMark, _, rfl, by decide⟩
  scans rest _ := by
    obtain ⟨tail, ps, htail, hscan, htext⟩ := Piece.scan_quoted s rest
    rw [htail, List.cons_append, scanScalar]
    simp only [if_true, hscan, Option.map_some, htext]

theorem scalarText_integer {i : Int} (hlow : -2 ^ 63 ≤ i) (hhigh : i < 2 ^ 64) :
    ScalarText (.number (some (.integer i))) (integer i) := by
  obtain ⟨b, bs, hb, hdigit⟩ : ∃ b bs, integer i = b :: bs ∧ (b = minus ∨ isDigit b = true) := by
    rw [integer]
    split
    · exact ⟨minus, _, rfl, .inl rfl⟩
    · obtain ⟨b, bs, hdecimal⟩ := List.exists_cons_of_ne_nil (decimal_ne_nil i.natAbs)
      exact ⟨b, bs, hdecimal, .inr (isDigit_of_mem_decimal i.natAbs b (by rw [hdecimal]; simp))⟩
  have hne : ∀ c, isDigit c = false → c ≠ minus → b ≠ c := by
    rintro c hc hminus rfl
    rcases hdigit with h | h
    · exact hminus h
    · rw [hc] at h
      cases h
  refine ⟨⟨b, bs, hb, ?_, hne _ (by decide) (by decide), hne _ (by decide) (by decide),
    hne _ (by decide) (by decide)⟩, ?_⟩
  · simp only [isBlank, Bool.or_eq_false_iff, beq_eq_false_iff_ne]
    exact ⟨⟨⟨hne _ (by decide) (by decide), hne _ (by decide) (by decide)⟩,
      hne _ (by decide) (by decide)⟩, hne _ (by decide) (by decide)⟩
  · intro rest hrest
    have hscan := scanNumber_integer hlow hhigh hrest
    rw [hb, List.cons_append] at hscan ⊢
    have hquote : b ≠ quotationMark := hne _ (by decide) (by decide)
    rw [scanScalar, if_neg hquote, if_pos (by simpa using hdigit), hscan]

theorem scanValue_of_scalarText {d : Datum} {t rest : Bytes} (h : ScalarText d t)
    {fuel level : Nat} (hfuel : 3 * t.length ≤ fuel) (hrest : EndsNumber rest) :
    scanValue fuel level (t ++ rest) = (d, some rest) := by
  obtain ⟨b, bs, rfl, hb, hl, ho, -⟩ := h.starts
  obtain ⟨fuel, rfl⟩ : ∃ n, fuel = n + 1 := ⟨fuel - 1, by simp at hfuel; omega⟩
  exact scanValue_scalar hb hl ho (h.scans rest hrest)

theorem starts_of_spells {v : Value} {t : Bytes} (h : Spells v t) {level : Nat}
    (hv : Fits level v) : ∃ b bs, t = b :: bs ∧ isBlank b = false ∧ b ≠ rightBracket := by
  have scalar {d : Datum} (hd : ScalarText d t) :
      ∃ b bs, t = b :: bs ∧ isBlank b = false ∧ b ≠ rightBracket := by
    obtain ⟨b, bs, ht, hb, -, -, hr⟩ := hd.starts
    exact ⟨b, bs, ht, hb, hr⟩
  cases v with
  | null => subst h; exact scalar scalarText_null
  | bool b => subst h; exact scalar (scalarText_bool b)
  | string s => subst h; exact scalar (scalarText_quoted s)
  | number n =>
      cases n with
      | integer i => subst h; exact scalar (scalarText_integer hv.1 hv.2)
      | double d => exact absurd hv id
  | array items =>
      obtain ⟨t, -, rfl⟩ := h
      exact ⟨leftBracket, _, rfl, by decide, by decide⟩
  | object members =>
      obtain ⟨t, -, rfl⟩ := h
      exact ⟨leftBrace, _, rfl, by decide, by decide⟩

theorem scanItems_of_spells {vs : List Value} {t rest : Bytes} (h : SpellsItems vs t)
    {fuel level : Nat} (hvs : ItemsFit level vs)
    (hmore : ∀ t', vs ≠ [] → SpellsItems vs t' → t'.length ≤ t.length →
      scanMoreItems fuel level (t' ++ rightBracket :: rest) = (ofValues vs, some rest)) :
    scanItems (fuel + 1) level (t ++ rightBracket :: rest) = (ofValues vs, some rest) := by
  match vs with
  | [] => exact scanItems_nil h
  | [v] =>
      obtain ⟨a, t, b, ha, ht, hb, rfl⟩ := h
      obtain ⟨c, bs, rfl, hc, hr⟩ := starts_of_spells ht hvs.1
      have hspells : SpellsItems [v] (c :: bs ++ b) := ⟨[], _, b, blank_nil, ht, hb, rfl⟩
      rw [List.append_assoc a, List.append_assoc a]
      exact (scanItems_cons ha hc hr).trans (hmore _ (by simp) hspells (by simp))
  | v :: w :: vs =>
      obtain ⟨a, t, b, more, ha, ht, hb, hmore', rfl⟩ := h
      obtain ⟨c, bs, rfl, hc, hr⟩ := starts_of_spells ht hvs.1
      have hspells : SpellsItems (v :: w :: vs) (c :: bs ++ b ++ comma :: more) :=
        ⟨[], _, b, more, blank_nil, ht, hb, hmore', rfl⟩
      rw [List.append_assoc a, List.append_assoc a, List.append_assoc a]
      exact (scanItems_cons ha hc hr).trans (hmore _ (by simp) hspells (by simp))

theorem scanMembers_of_spells {ms : List (String × Value)} {t rest : Bytes}
    (h : SpellsMembers ms t) {fuel level : Nat}
    (hmore : ∀ t', ms ≠ [] → SpellsMembers ms t' → t'.length ≤ t.length →
      scanMoreMembers fuel level (t' ++ rightBrace :: rest) = (ofMembers ms, some rest)) :
    scanMembers (fuel + 1) level (t ++ rightBrace :: rest) = (ofMembers ms, some rest) := by
  match ms with
  | [] => exact scanMembers_nil h
  | [(k, v)] =>
      obtain ⟨a, a', c, t, b, ha, ha', hc, ht, hb, rfl⟩ := h
      have hspells : SpellsMembers [(k, v)] (quoted k ++ a' ++ colon :: (c ++ t ++ b)) :=
        ⟨[], a', c, t, b, blank_nil, ha', hc, ht, hb, rfl⟩
      rw [List.append_assoc a, List.append_assoc a, List.append_assoc a]
      exact (scanMembers_cons ha (by decide) (by decide)).trans
        (hmore _ (by simp) hspells (by simp))
  | (k, v) :: m :: ms =>
      obtain ⟨a, a', c, t, b, more, ha, ha', hc, ht, hb, hmore', rfl⟩ := h
      have hspells : SpellsMembers ((k, v) :: m :: ms)
          (quoted k ++ a' ++ colon :: (c ++ t ++ b ++ comma :: more)) :=
        ⟨[], a', c, t, b, more, blank_nil, ha', hc, ht, hb, hmore', rfl⟩
      rw [List.append_assoc a, List.append_assoc a, List.append_assoc a]
      exact (scanMembers_cons ha (by decide) (by decide)).trans
        (hmore _ (by simp) hspells (by simp))

mutual

-- Every byte of a value, a bracket included, pays for three calls.
theorem scanValue_of_spells (v : Value) {t rest : Bytes} (h : Spells v t) {fuel level : Nat}
    (hv : Fits level v) (hfuel : 3 * t.length ≤ fuel) (hrest : EndsNumber rest) :
    scanValue fuel level (t ++ rest) = (ofValue v, some rest) := by
  match v with
  | .null => subst h; exact scanValue_of_scalarText scalarText_null hfuel hrest
  | .bool b => subst h; exact scanValue_of_scalarText (scalarText_bool b) hfuel hrest
  | .string s => subst h; exact scanValue_of_scalarText (scalarText_quoted s) hfuel hrest
  | .number (.integer i) =>
      subst h
      exact scanValue_of_scalarText (scalarText_integer hv.1 hv.2) hfuel hrest
  | .array items =>
      obtain ⟨t, ht, rfl⟩ := h
      simp only [List.length_append, List.length_cons, List.length_nil] at hfuel
      obtain ⟨fuel, rfl⟩ : ∃ n, fuel = n + 1 + 1 := ⟨fuel - 2, by omega⟩
      rw [List.cons_append, List.cons_append, List.append_assoc, ofValue]
      refine scanValue_array hv.1 (scanItems_of_spells ht hv.2 fun t' hne ht' hlen => ?_)
      exact scanMoreItems_of_spells items hne ht' hv.2 (by omega)
  | .object members =>
      obtain ⟨t, ht, rfl⟩ := h
      simp only [List.length_append, List.length_cons, List.length_nil] at hfuel
      obtain ⟨fuel, rfl⟩ : ∃ n, fuel = n + 1 + 1 := ⟨fuel - 2, by omega⟩
      rw [List.cons_append, List.cons_append, List.append_assoc, ofValue]
      refine scanValue_object hv.1 (scanMembers_of_spells ht fun t' hne ht' hlen => ?_)
      exact scanMoreMembers_of_spells members hne ht' hv.2 (by omega)

theorem scanMoreItems_of_spells (vs : List Value) {t rest : Bytes} (hne : vs ≠ [])
    (h : SpellsItems vs t) {fuel level : Nat} (hvs : ItemsFit level vs)
    (hfuel : 3 * t.length < fuel) :
    scanMoreItems fuel level (t ++ rightBracket :: rest) = (ofValues vs, some rest) := by
  obtain ⟨fuel, rfl⟩ : ∃ n, fuel = n + 1 := ⟨fuel - 1, by omega⟩
  match vs with
  | [] => exact absurd rfl hne
  | [v] =>
      obtain ⟨a, t, b, ha, ht, hb, rfl⟩ := h
      simp only [List.length_append] at hfuel
      have hend : EndsNumber (b ++ rightBracket :: rest) :=
        endsNumber_append hb (endsNumber_cons (by decide) rest)
      have hlength : 3 * t.length ≤ fuel := by omega
      have hscan := scanValue_of_spells v ht hvs.1 hlength hend
      refine scanMoreItems_last hb ?_
      rw [List.append_assoc, List.append_assoc, scanValue_append ha]
      exact hscan
  | v :: w :: vs =>
      obtain ⟨a, t, b, more, ha, ht, hb, hmore, rfl⟩ := h
      simp only [List.length_append, List.length_cons] at hfuel
      have hend : EndsNumber (b ++ comma :: (more ++ rightBracket :: rest)) :=
        endsNumber_append hb (endsNumber_cons (by decide) _)
      have hlength : 3 * t.length ≤ fuel := by omega
      have hscan := scanValue_of_spells v ht hvs.1 hlength hend
      have hscanMore : scanMoreItems fuel level (more ++ rightBracket :: rest) =
          (ofValues (w :: vs), some rest) :=
        scanMoreItems_of_spells (w :: vs) (by simp) hmore hvs.2 (by omega)
      refine scanMoreItems_comma hb ?_ hscanMore
      simp only [List.append_assoc, List.cons_append]
      rw [scanValue_append ha]
      exact hscan

theorem scanMoreMembers_of_spells (ms : List (String × Value)) {t rest : Bytes} (hne : ms ≠ [])
    (h : SpellsMembers ms t) {fuel level : Nat} (hms : MembersFit level ms)
    (hfuel : 3 * t.length < fuel) :
    scanMoreMembers fuel level (t ++ rightBrace :: rest) = (ofMembers ms, some rest) := by
  obtain ⟨fuel, rfl⟩ : ∃ n, fuel = n + 1 := ⟨fuel - 1, by omega⟩
  match ms with
  | [] => exact absurd rfl hne
  | [(k, v)] =>
      obtain ⟨a, a', c, t, b, ha, ha', hc, ht, hb, rfl⟩ := h
      simp only [List.length_append, List.length_cons] at hfuel
      have hend : EndsNumber (b ++ rightBrace :: rest) :=
        endsNumber_append hb (endsNumber_cons (by decide) rest)
      have hlength : 3 * t.length ≤ fuel := by omega
      have hscan := scanValue_of_spells v ht hms.1 hlength hend
      have hname := scanName_quoted ha ha' k (c ++ t ++ b ++ rightBrace :: rest)
      refine scanMoreMembers_last hb (by simpa using hname) ?_
      rw [scanValue_append hc]
      exact hscan
  | (k, v) :: m :: ms =>
      obtain ⟨a, a', c, t, b, more, ha, ha', hc, ht, hb, hmore, rfl⟩ := h
      simp only [List.length_append, List.length_cons] at hfuel
      have hend : EndsNumber (b ++ comma :: (more ++ rightBrace :: rest)) :=
        endsNumber_append hb (endsNumber_cons (by decide) _)
      have hlength : 3 * t.length ≤ fuel := by omega
      have hscan := scanValue_of_spells v ht hms.1 hlength hend
      have hname := scanName_quoted ha ha' k (c ++ t ++ b ++ comma :: (more ++ rightBrace :: rest))
      have hscanMore : scanMoreMembers fuel level (more ++ rightBrace :: rest) =
          (ofMembers (m :: ms), some rest) :=
        scanMoreMembers_of_spells (m :: ms) (by simp) hmore hms.2 (by omega)
      refine scanMoreMembers_comma hb (by simpa using hname) ?_ hscanMore
      rw [scanValue_append hc]
      exact hscan

end

theorem parse_of_spells {v : Value} {t : Bytes} (h : Spells v t) (hv : Fits 0 v) {a b : Bytes}
    (ha : Blank a) (hb : Blank b) : parse (a ++ t ++ b) = ⟨ofValue v, true⟩ := by
  have hend : EndsNumber (b ++ []) := endsNumber_append hb endsNumber_nil
  rw [List.append_nil] at hend
  have hblank : skipBlanks b = [] := by
    have h := skipBlanks_append hb []
    rw [List.append_nil] at h
    exact h
  rw [parse, List.append_assoc, scanValue_append ha,
    scanValue_of_spells v h hv (by simp only [List.length_append]; omega) hend]
  simp only [hblank]
  rfl

theorem parse_compact {v : Value} (hv : Fits 0 v) : parse (compact v) = ⟨ofValue v, true⟩ := by
  simpa using parse_of_spells (spells_compact v) hv blank_nil blank_nil

end Gateway.Json
