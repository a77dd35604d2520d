import Gateway.Json.Parser
import Gateway.Proofs.Datum.Extent

namespace Gateway.Json

open Datum

variable {bs rest : Bytes}

theorem skipBlanks_suffix (bs : Bytes) : skipBlanks bs <:+ bs :=
  List.dropWhile_suffix isBlank

theorem suffix_of_skipBlanks {b : UInt8} (h : skipBlanks bs = b :: rest) : rest <:+ bs :=
  (List.suffix_cons b rest).trans (h ▸ skipBlanks_suffix bs)

theorem length_lt_of_skipBlanks {b : UInt8} (h : skipBlanks bs = b :: rest) :
    rest.length < bs.length := by
  have hlength := (skipBlanks_suffix bs).length_le
  rw [h, List.length_cons] at hlength
  exact hlength

namespace Piece

theorem exists_scan_of_cons {p : Piece} {ps : List Piece}
    (h : (do
      let (qs, rest) ← scan bs
      return (p :: qs, rest)) = some (ps, rest)) : ∃ qs, scan bs = some (qs, rest) := by
  obtain ⟨⟨qs, more⟩, hscan, h⟩ := Option.bind_eq_some_iff.mp h
  obtain ⟨-, rfl⟩ := Prod.mk.inj (Option.some.inj h)
  exact ⟨qs, hscan⟩

theorem suffix_of_scan {ps : List Piece} (h : scan bs = some (ps, rest)) : rest <:+ bs := by
  fun_induction scan bs generalizing ps with
  | case2 bs =>
      obtain ⟨-, rfl⟩ := Prod.mk.inj (Option.some.inj h)
      exact List.suffix_cons _ _
  | case4 a b c d bs _ ih =>
      obtain ⟨u, -, h⟩ := Option.bind_eq_some_iff.mp h
      obtain ⟨qs, hscan⟩ := exists_scan_of_cons h
      exact (ih hscan).trans (List.suffix_append [_, _, a, b, c, d] bs)
  | case6 e bs _ _ ih =>
      obtain ⟨c, -, h⟩ := Option.bind_eq_some_iff.mp h
      obtain ⟨qs, hscan⟩ := exists_scan_of_cons h
      exact (ih hscan).trans (List.suffix_append [_, e] bs)
  | case8 b bs _ _ _ ih =>
      obtain ⟨qs, hscan⟩ := exists_scan_of_cons h
      exact (ih hscan).trans (List.suffix_cons b bs)
  | _ => cases h

end Piece

namespace Literal

theorem scanDigits_suffix (bs : Bytes) : (scanDigits bs).2 <:+ bs :=
  List.dropWhile_suffix Ascii.isDigit

theorem suffix_of_scanFraction {ds : List Nat} (h : scanFraction bs = some (ds, rest)) :
    rest <:+ bs := by
  cases bs with
  | nil =>
      obtain ⟨-, rfl⟩ := Prod.mk.inj (Option.some.inj h)
      exact List.suffix_rfl
  | cons b bs =>
      rw [scanFraction] at h
      split at h
      · split at h
        · cases h
        · obtain h := Option.some.inj h
          have hdigits := scanDigits_suffix bs
          rw [h] at hdigits
          exact hdigits.trans (List.suffix_cons b bs)
      · obtain ⟨-, rfl⟩ := Prod.mk.inj (Option.some.inj h)
        exact List.suffix_rfl

theorem splitSign_suffix (bs : Bytes) : (splitSign bs).2 <:+ bs := by
  cases bs with
  | nil => exact List.suffix_rfl
  | cons s bs =>
      rw [splitSign]
      split
      · exact List.suffix_cons s bs
      · split
        · exact List.suffix_cons s bs
        · exact List.suffix_rfl

theorem suffix_of_scanExponent {e : Option (Bool × List Nat)}
    (h : scanExponent bs = some (e, rest)) : rest <:+ bs := by
  cases bs with
  | nil =>
      obtain ⟨-, rfl⟩ := Prod.mk.inj (Option.some.inj h)
      exact List.suffix_rfl
  | cons b bs =>
      rw [scanExponent] at h
      split at h
      · split at h
        · cases h
        · next hscan =>
            obtain ⟨-, rfl⟩ := Prod.mk.inj (Option.some.inj h)
            have hdigits := scanDigits_suffix (splitSign bs).2
            rw [hscan] at hdigits
            exact (hdigits.trans (splitSign_suffix bs)).trans (List.suffix_cons b bs)
      · obtain ⟨-, rfl⟩ := Prod.mk.inj (Option.some.inj h)
        exact List.suffix_rfl

theorem suffix_of_scan {negative : Bool} {l : Literal} (h : scan negative bs = some (l, rest)) :
    rest <:+ bs := by
  rw [scan] at h
  dsimp only at h
  split at h
  · cases h
  · cases h
  · obtain ⟨⟨fraction, more⟩, hfraction, h⟩ := Option.bind_eq_some_iff.mp h
    obtain ⟨⟨exponent, last⟩, hexponent, h⟩ := Option.bind_eq_some_iff.mp h
    obtain ⟨-, rfl⟩ := Prod.mk.inj (Option.some.inj h)
    exact ((suffix_of_scanExponent hexponent).trans (suffix_of_scanFraction hfraction)).trans
      (scanDigits_suffix bs)

end Literal

theorem of_scanNumber {d : Datum} (h : scanNumber bs = some (d, rest)) :
    rest <:+ bs ∧ ∀ n, d.Within n := by
  obtain ⟨⟨l, more⟩, hfound, h⟩ := Option.map_eq_some_iff.mp h
  obtain ⟨rfl, rfl⟩ := Prod.mk.inj h
  refine ⟨?_, fun n => trivial⟩
  cases bs with
  | nil => cases hfound
  | cons b bs =>
      dsimp only at hfound
      split at hfound
      · exact (Literal.suffix_of_scan hfound).trans (List.suffix_cons b bs)
      · exact Literal.suffix_of_scan hfound

theorem of_scanKeyword {d : Datum} (h : scanKeyword bs = some (d, rest)) :
    rest <:+ bs ∧ ∀ n, d.Within n := by
  unfold scanKeyword at h
  split at h
  · obtain ⟨rfl, rfl⟩ := Prod.mk.inj (Option.some.inj h)
    exact ⟨List.suffix_append [_, _, _, _] _, fun n => trivial⟩
  · obtain ⟨rfl, rfl⟩ := Prod.mk.inj (Option.some.inj h)
    exact ⟨List.suffix_append [_, _, _, _] _, fun n => trivial⟩
  · obtain ⟨rfl, rfl⟩ := Prod.mk.inj (Option.some.inj h)
    exact ⟨List.suffix_append [_, _, _, _, _] _, fun n => trivial⟩
  · cases h

theorem of_scanScalar {d : Datum} (h : scanScalar bs = some (d, rest)) :
    rest <:+ bs ∧ ∀ n, d.Within n := by
  cases bs with
  | nil => cases h
  | cons b bs =>
      rw [scanScalar] at h
      split at h
      · obtain ⟨⟨ps, more⟩, hscan, h⟩ := Option.map_eq_some_iff.mp h
        obtain ⟨rfl, rfl⟩ := Prod.mk.inj h
        exact ⟨(Piece.suffix_of_scan hscan).trans (List.suffix_cons b bs), fun n => trivial⟩
      · split at h
        · exact of_scanNumber h
        · exact of_scanKeyword h

theorem suffix_of_scanName {name : Option String} (h : scanName bs = some (name, some rest)) :
    rest <:+ bs := by
  rw [scanName] at h
  split at h
  · cases h
  · next b tail hblank =>
      split at h
      · obtain ⟨⟨ps, more⟩, hscan, h⟩ := Option.map_eq_some_iff.mp h
        obtain ⟨-, h⟩ := Prod.mk.inj h
        split at h
        · next c last hlast =>
            split at h
            · obtain rfl := Option.some.inj h
              exact ((suffix_of_skipBlanks hlast).trans (Piece.suffix_of_scan hscan)).trans
                (suffix_of_skipBlanks hblank)
            · cases h
        · cases h
      · cases h

def Remains (bs : Bytes) : Option Bytes → Prop
  | none => True
  | some rest => rest <:+ bs

theorem Remains.trans {cs : Bytes} {rest : Option Bytes} (h : Remains bs rest) (hbs : bs <:+ cs) :
    Remains cs rest := by
  cases rest with
  | none => trivial
  | some rest => exact List.IsSuffix.trans h hbs

theorem within_marked {n level : Nat} {d : Datum} (h : d.Within n) : (marked level d).Within n := by
  rw [marked]
  split
  · exact h
  · exact h

mutual

theorem scanValue_extent (fuel level : Nat) {n : Nat} {bs : Bytes} (hn : bs.length ≤ n) :
    (scanValue fuel level bs).1.Within n ∧ Remains bs (scanValue fuel level bs).2 := by
  match fuel with
  | 0 =>
      rw [scanValue]
      exact ⟨trivial, trivial⟩
  | fuel + 1 =>
      rw [scanValue]
      split
      · exact ⟨trivial, trivial⟩
      · next b tail hblank =>
          have htail : tail.length < n := by
            have hlength := length_lt_of_skipBlanks hblank
            omega
          split
          · obtain ⟨hlength, hitems, hrest⟩ := scanItems_extent fuel (level + 1) htail
            exact ⟨within_marked ⟨hlength, hitems⟩, hrest.trans (suffix_of_skipBlanks hblank)⟩
          · split
            · obtain ⟨hmembers, hrest⟩ := scanMembers_extent fuel (level + 1) htail
              exact ⟨within_marked hmembers, hrest.trans (suffix_of_skipBlanks hblank)⟩
            · split
              · next hscan =>
                  obtain ⟨hsuffix, hwithin⟩ := of_scanScalar hscan
                  exact ⟨hwithin n, hsuffix.trans (hblank ▸ skipBlanks_suffix bs)⟩
              · exact ⟨trivial, trivial⟩

theorem scanItems_extent (fuel level : Nat) {n : Nat} {bs : Bytes} (hn : bs.length < n) :
    (scanItems fuel level bs).1.length ≤ n ∧ ItemsWithin n (scanItems fuel level bs).1 ∧
      Remains bs (scanItems fuel level bs).2 := by
  match fuel with
  | 0 =>
      rw [scanItems]
      exact ⟨Nat.zero_le n, trivial, trivial⟩
  | fuel + 1 =>
      rw [scanItems]
      split
      · exact ⟨Nat.zero_le n, trivial, trivial⟩
      · next b tail hblank =>
          split
          · exact ⟨Nat.zero_le n, trivial, suffix_of_skipBlanks hblank⟩
          · have hsuffix := skipBlanks_suffix bs
            rw [hblank] at hsuffix
            have hlength := hsuffix.length_le
            obtain ⟨hcount, hitems, hrest⟩ :=
              scanMoreItems_extent fuel level (Nat.le_of_lt (Nat.lt_of_le_of_lt hlength hn))
            exact ⟨by omega, hitems, hrest.trans hsuffix⟩

theorem scanMoreItems_extent (fuel level : Nat) {n : Nat} {bs : Bytes} (hn : bs.length ≤ n) :
    (scanMoreItems fuel level bs).1.length ≤ bs.length + 1 ∧
      ItemsWithin n (scanMoreItems fuel level bs).1 ∧
      Remains bs (scanMoreItems fuel level bs).2 := by
  match fuel with
  | 0 =>
      rw [scanMoreItems]
      exact ⟨Nat.zero_le _, trivial, trivial⟩
  | fuel + 1 =>
      obtain ⟨hvalue, hleft⟩ := scanValue_extent fuel level hn
      have hone : 1 ≤ bs.length + 1 := Nat.le_add_left 1 _
      rw [scanMoreItems]
      split
      · next d hscan =>
          rw [hscan] at hvalue
          exact ⟨hone, ⟨hvalue, trivial⟩, trivial⟩
      · next d left hscan =>
          rw [hscan] at hvalue hleft
          split
          · exact ⟨hone, ⟨hvalue, trivial⟩, trivial⟩
          · next b tail hblank =>
              have htail := (suffix_of_skipBlanks hblank).trans hleft
              have hless := length_lt_of_skipBlanks hblank
              have hleftLength := List.IsSuffix.length_le hleft
              split
              · have hshort : tail.length ≤ n := by omega
                obtain ⟨hcount, hitems, hrest⟩ := scanMoreItems_extent fuel level hshort
                exact ⟨Nat.succ_le_succ (by omega), ⟨hvalue, hitems⟩, hrest.trans htail⟩
              · split
                · exact ⟨hone, ⟨hvalue, trivial⟩, htail⟩
                · exact ⟨hone, ⟨hvalue, trivial⟩, trivial⟩

theorem scanMembers_extent (fuel level : Nat) {n : Nat} {bs : Bytes} (hn : bs.length < n) :
    MembersWithin n (scanMembers fuel level bs).1 ∧ Remains bs (scanMembers fuel level bs).2 := by
  match fuel with
  | 0 =>
      rw [scanMembers]
      exact ⟨trivial, trivial⟩
  | fuel + 1 =>
      rw [scanMembers]
      split
      · exact ⟨trivial, trivial⟩
      · next b tail hblank =>
          split
          · exact ⟨trivial, suffix_of_skipBlanks hblank⟩
          · have hsuffix := skipBlanks_suffix bs
            rw [hblank] at hsuffix
            have hlength := hsuffix.length_le
            obtain ⟨hmembers, hrest⟩ :=
              scanMoreMembers_extent fuel level (Nat.le_of_lt (Nat.lt_of_le_of_lt hlength hn))
            exact ⟨hmembers, hrest.trans hsuffix⟩

theorem scanMoreMembers_extent (fuel level : Nat) {n : Nat} {bs : Bytes} (hn : bs.length ≤ n) :
    MembersWithin n (scanMoreMembers fuel level bs).1 ∧
      Remains bs (scanMoreMembers fuel level bs).2 := by
  match fuel with
  | 0 =>
      rw [scanMoreMembers]
      exact ⟨trivial, trivial⟩
  | fuel + 1 =>
      rw [scanMoreMembers]
      split
      · exact ⟨trivial, trivial⟩
      · exact ⟨⟨trivial, trivial⟩, trivial⟩
      · next name text hname =>
          have htext := suffix_of_scanName hname
          obtain ⟨hvalue, hleft⟩ := scanValue_extent fuel level (Nat.le_trans htext.length_le hn)
          split
          · next d hscan =>
              rw [hscan] at hvalue
              exact ⟨⟨hvalue, trivial⟩, trivial⟩
          · next d left hscan =>
              rw [hscan] at hvalue hleft
              split
              · exact ⟨⟨hvalue, trivial⟩, trivial⟩
              · next b tail hblank =>
                  have htail := ((suffix_of_skipBlanks hblank).trans hleft).trans htext
                  split
                  · obtain ⟨hmembers, hrest⟩ :=
                      scanMoreMembers_extent fuel level (Nat.le_trans htail.length_le hn)
                    exact ⟨⟨hvalue, hmembers⟩, hrest.trans htail⟩
                  · split
                    · exact ⟨⟨hvalue, trivial⟩, htail⟩
                    · exact ⟨⟨hvalue, trivial⟩, trivial⟩

end

theorem within_parse (bs : Bytes) : (parse bs).root.Within bs.length := by
  have hvalue := (scanValue_extent (3 * bs.length + 3) 0 (Nat.le_refl bs.length)).1
  rw [parse]
  split
  · next hscan => rwa [hscan] at hvalue
  · next hscan => rwa [hscan] at hvalue

end Gateway.Json
