import Gateway.CommandLine.Run
import Gateway.Proofs.Json.Pretty
import Gateway.Proofs.Snapshot.Document

namespace Gateway

open Datum Json

theorem Severity.ofLabel?_label (s : Severity) : ofLabel? s.label = some s := by
  cases s <;> decide +kernel

theorem Severity.read_label (s : Severity) : Severity.read (ofValue (.string s.label)) = .ok s := by
  have hlabel : readString (ofValue (.string s.label)) = .ok s.label := rfl
  rw [Severity.read, hlabel]
  simp only [bind, Except.bind, ofLabel?_label]
  rfl

namespace Recommendation

theorem read_toValue (r : Recommendation) : layout.read (ofValue r.toValue) = .ok r := by
  have hseverity : (Field.of "severity" Severity.read fun x s => { s with severity := x }).read
      (ofValue (.string r.severity.label)) ⟨r.rule, .critical, ""⟩ =
        .ok (⟨r.rule, r.severity, ""⟩ : Recommendation) := by
    simp only [Field.of, r.severity.read_label]
    rfl
  have hmembers : Layout.readMembers layout.fields (ofMembers [("rule", .string r.rule),
      ("severity", .string r.severity.label), ("message", .string r.message)]) [] layout.start =
        .ok (["message", "severity", "rule"], r) := by
    refine (Layout.readMembers_cons_field rfl (by simp) rfl).trans ?_
    refine (Layout.readMembers_cons_field rfl (by simp) hseverity).trans ?_
    exact (Layout.readMembers_cons_field rfl (by simp) rfl).trans rfl
  rw [toValue, ofValue]
  exact Layout.read_record_of_full hmembers rfl

theorem fits_toValue {level : Nat} (hlevel : level < depthLimit) (r : Recommendation) :
    Fits level r.toValue :=
  ⟨hlevel, trivial, trivial, trivial, trivial⟩

end Recommendation

namespace Report

theorem read_toValue (r : Report) : Report.read (ofValue r.toValue) = .ok r := by
  have hlist : readList Recommendation.layout.read
      (ofValue (.array (r.recommendations.map Recommendation.toValue))) = .ok r.recommendations :=
    readList_of_forall₂ (fun a _ h => h ▸ a.read_toValue)
      (forall₂_ofValues (fun _ => rfl) r.recommendations)
  have hrecommendations : (Field.of "recommendations" (readList Recommendation.layout.read)
      fun x s => { s with recommendations := x }).read (ofValue (.array
        (r.recommendations.map Recommendation.toValue))) ⟨[], {}⟩ =
          .ok (⟨r.recommendations, {}⟩ : Report) := by
    simp only [Field.of, hlist]
    rfl
  have hstats : (Field.of "stats" Snapshot.read fun x s => { s with stats := x }).read
      (ofValue r.stats.toValue) ⟨r.recommendations, {}⟩ = .ok r := by
    simp only [Field.of, r.stats.read_toValue]
    rfl
  have hmembers : Layout.readMembers layout.fields (ofMembers [("recommendations", .array
      (r.recommendations.map Recommendation.toValue)), ("stats", r.stats.toValue)]) []
        layout.start = .ok (["stats", "recommendations"], r) := by
    refine (Layout.readMembers_cons_field rfl (by simp) hrecommendations).trans ?_
    exact (Layout.readMembers_cons_field rfl (by simp) hstats).trans rfl
  rw [toValue, ofValue]
  exact Layout.read_record_of_full hmembers rfl

theorem fits_toValue (r : Report) : Fits 0 r.toValue := by
  have hrecommendations : Fits 1 (.array (r.recommendations.map Recommendation.toValue)) :=
    ⟨by decide, Snapshot.itemsFit_map (Recommendation.fits_toValue (by decide))⟩
  exact ⟨by decide, hrecommendations, r.stats.fits_toValue (by decide), trivial⟩

def ReadFrom (r : Report) (text : Bytes) : Prop :=
  ∃ t, (parse text).read read = .ok t ∧ t = r ∧ t.ruleIds = r.ruleIds

theorem readFrom_of_spells {r : Report} {t a b : Bytes} (h : Spells r.toValue t) (ha : Blank a)
    (hb : Blank b) : r.ReadFrom (a ++ t ++ b) := by
  refine ⟨r, ?_, rfl, rfl⟩
  rw [parse_of_spells h r.fits_toValue ha hb, Document.read, read_toValue]
  rfl

theorem readFrom_printed (r : Report) :
    r.ReadFrom (compact r.toValue) ∧ r.ReadFrom (pretty 0 r.toValue) ∧
      r.ReadFrom (CommandLine.line (pretty 0 r.toValue)) := by
  have hfeed : Blank [Ascii.lineFeed] := blank_newLine 0
  have hpretty := spells_pretty 0 r.toValue
  refine ⟨?_, ?_, ?_⟩
  · simpa using readFrom_of_spells (spells_compact r.toValue) blank_nil blank_nil
  · simpa using readFrom_of_spells hpretty blank_nil blank_nil
  · simpa [CommandLine.line] using readFrom_of_spells hpretty blank_nil hfeed

end Report

end Gateway
