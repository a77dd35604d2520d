import Gateway.Audit.Basic
import Gateway.Snapshot.Document

namespace Gateway

open Datum Json

def Recommendation.layout : Layout Recommendation where
  start := ⟨"", .critical, ""⟩
  required := true
  fields := [
    .of "rule" readString fun x s => { s with rule := x },
    .of "severity" Severity.read fun x s => { s with severity := x },
    .of "message" readString fun x s => { s with message := x }]

def Recommendation.toValue (r : Recommendation) : Value :=
  .object [("rule", .string r.rule), ("severity", .string r.severity.label),
    ("message", .string r.message)]

namespace Report

def layout : Layout Report where
  start := ⟨[], {}⟩
  required := true
  fields := [
    .of "recommendations" (readList Recommendation.layout.read) fun x s =>
      { s with recommendations := x },
    .of "stats" Snapshot.read fun x s => { s with stats := x }]

def read : Reader Report :=
  layout.read

def toValue (r : Report) : Value :=
  .object [("recommendations", .array (r.recommendations.map Recommendation.toValue)),
    ("stats", r.stats.toValue)]

end Report

end Gateway
