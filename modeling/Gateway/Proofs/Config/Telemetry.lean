import Gateway.Proofs.Audit.Footprint
import Gateway.Proofs.Snapshot.Projection
import Mathlib.Algebra.Group.Nat.Defs

namespace Gateway

open Json Snapshot

namespace Extensions

def member? (v : Option Value) (key : String) : Option Value :=
  (v.bind Value.object?).bind fun o => o.get? key

def exporters (x : Extensions) (kind : String) : List Object :=
  let kinds := member? (x.get? "telemetry/opentelemetry") "exporters"
  (((member? kinds kind).bind Value.array?).getD []).filterMap Value.object?

def setsTrue (key : String) (o : Object) : Bool :=
  match o.get? key with
  | some (.bool true) => true
  | _ => false

def enabledExporters (x : Extensions) (kind disabling : String) : Nat :=
  (x.exporters kind).countP fun e => !setsTrue disabling e

def metricsSections (x : Extensions) : Nat :=
  ["telemetry/opencensus", "telemetry/metrics", "telemetry/newrelic", "telemetry/ganalytics",
    "telemetry/instana"].countP x.contains

def metricsSources (x : Extensions) : Nat :=
  x.metricsSections + x.enabledExporters "otlp" "disable_metrics" +
    x.enabledExporters "prometheus" "disable_metrics"

def traceExporters (x : Extensions) : Nat :=
  x.enabledExporters "otlp" "disable_traces"

def traceSections : List String :=
  ["telemetry/opencensus", "telemetry/newrelic", "telemetry/instana"]

end Extensions

namespace Extension

theorem setsTrue_eq (key : String) (o : Object) : Extensions.setsTrue key o = isTrue o key := by
  rw [Extensions.setsTrue, isTrue]
  cases o.get? key with
  | none => rfl
  | some v =>
      cases v with
      | bool b => cases b <;> rfl
      | _ => rfl

section Section

variable {x : Extensions} {o : Object}

theorem exporters_of_object (h : x.get? Namespace.openTelemetry = some (.object o))
    (kind : String) : x.exporters kind =
      ((list? ((section? o "exporters").getD []) kind).getD []).filterMap Value.object? := by
  have hkinds : Extensions.member? (x.get? "telemetry/opentelemetry") "exporters" =
      o.get? "exporters" := congrArg (Extensions.member? · "exporters") h
  rw [Extensions.exporters, hkinds, Extensions.member?, ← section?]
  cases section? o "exporters" <;> rfl

theorem enabledExporters_of_object (h : x.get? Namespace.openTelemetry = some (.object o))
    (kind disabling : String) :
    enabledExporters ((section? o "exporters").getD []) kind disabling =
      Int64.ofNat (x.enabledExporters kind disabling) := by
  rw [enabledExporters, Extensions.enabledExporters, exporters_of_object h]
  simp only [setsTrue_eq]

theorem enabledExporters_of_no_object
    (h : (x.get? Namespace.openTelemetry).bind Value.object? = none) (kind disabling : String) :
    x.enabledExporters kind disabling = 0 := by
  have hkinds : Extensions.member? (x.get? "telemetry/opentelemetry") "exporters" = none :=
    congrArg (fun o? : Option Object => o?.bind fun o => o.get? "exporters") h
  rw [Extensions.enabledExporters, Extensions.exporters, hkinds]
  rfl

end Section

structure ReportsExporters (x : Extensions) (values : List Int64) : Prop where
  complete : OpenTelemetryEntry.prometheus.index < values.length
  otlpMetrics : entryAt values OpenTelemetryEntry.otlpMetrics.index =
    Int64.ofNat (x.enabledExporters "otlp" "disable_metrics")
  otlpTraces : entryAt values OpenTelemetryEntry.otlpTraces.index =
    Int64.ofNat x.traceExporters
  prometheus : entryAt values OpenTelemetryEntry.prometheus.index =
    Int64.ofNat (x.enabledExporters "prometheus" "disable_metrics")

theorem reportsExporters_of_object {x : Extensions} {o : Object}
    (h : x.get? Namespace.openTelemetry = some (.object o)) :
    ReportsExporters x (openTelemetry o) where
  complete := Nat.lt_succ_self 4
  otlpMetrics := enabledExporters_of_object h "otlp" "disable_metrics"
  otlpTraces := enabledExporters_of_object h "otlp" "disable_traces"
  prometheus := enabledExporters_of_object h "prometheus" "disable_metrics"

theorem telemetry_cases (x : Extensions) :
    (∃ values, (components x).get? Namespace.openTelemetry = some values ∧
      ReportsExporters x values) ∨
    ((components x).get? Namespace.openTelemetry = none ∨
      (components x).get? Namespace.openTelemetry = some []) ∧
      ∀ kind disabling, x.enabledExporters kind disabling = 0 := by
  rw [get?_components]
  cases hv : x.get? Namespace.openTelemetry with
  | none => exact .inr ⟨.inl rfl, enabledExporters_of_no_object (by rw [hv]; rfl)⟩
  | some v =>
      rw [Option.map_some, summary_eq rfl]
      cases v with
      | object o => exact .inl ⟨_, rfl, reportsExporters_of_object hv⟩
      | _ => exact .inr ⟨.inr rfl, enabledExporters_of_no_object (by rw [hv]; rfl)⟩

end Extension

namespace Config

section Telemetry

variable (c : Config)

theorem metricsExtensions_snapshot :
    Check.metricsExtensions c.snapshot = c.extensions.metricsSections := by
  simp only [Check.metricsExtensions, attached_snapshot]
  rfl

theorem telemetryExtensions_snapshot :
    Check.telemetryExtensions c.snapshot = Int64.ofNat c.extensions.metricsSources := by
  have hcomponents : c.snapshot.components = Extension.components c.extensions := rfl
  rw [Check.telemetryExtensions, metricsExtensions_snapshot, Check.openTelemetryExporters,
    hcomponents, Extensions.metricsSources]
  rcases Extension.telemetry_cases c.extensions with ⟨values, hvalues, h⟩ | ⟨hnone | hnil, h⟩
  · rw [hvalues]
    dsimp only
    rw [if_pos h.complete, h.otlpMetrics, h.prometheus, Int64.ofNat_add, Int64.ofNat_add,
      Int64.add_assoc]
  · rw [hnone, h, h]
    exact Int64.add_zero _
  · rw [hnil, h, h]
    exact Int64.add_zero _

theorem traced_eq (h : c.extensions.traceExporters < 2 ^ 63) :
    (c.snapshot.components.reading Namespace.openTelemetry).any (fun entry =>
      1 ≤ entry Snapshot.OpenTelemetryEntry.otlpTraces.index) =
        decide (1 ≤ c.extensions.traceExporters) := by
  have hcomponents : c.snapshot.components = Extension.components c.extensions := rfl
  rw [Components.reading, hcomponents]
  rcases Extension.telemetry_cases c.extensions with
    ⟨values, hvalues, hentries⟩ | ⟨hnone | hnil, hzero⟩
  · rw [hvalues, Option.map_some, Option.any_some, hentries.otlpTraces]
    exact decide_eq_decide.mpr (Int64.ofNat_le_iff_le (by decide) h)
  · rw [hnone, Extensions.traceExporters, hzero]
    rfl
  · rw [hnil, Extensions.traceExporters, hzero]
    rfl

theorem lacksTracing_snapshot_iff (h : c.extensions.traceExporters < 2 ^ 63) :
    Check.lacksTracing c.snapshot = true ↔ c.extensions.traceExporters = 0 ∧
      ∀ ns ∈ Extensions.traceSections, c.extensions.contains ns = false := by
  rw [Check.lacksTracing_eq_reading, traced_eq c h]
  simp only [attached_snapshot, Extensions.traceSections, Bool.not_eq_true', Bool.or_eq_false_iff,
    decide_eq_false_iff_not, Nat.not_le, Nat.lt_one_iff, and_assoc, List.forall_mem_cons,
    List.not_mem_nil, false_implies, implies_true, and_true]
  rfl

theorem telemetry_rules_fire_iff (hmetrics : c.extensions.metricsSources < 2 ^ 63)
    (htraces : c.extensions.traceExporters < 2 ^ 63) :
    (∃ r, Rule.find? "4.1.3" = some r ∧ (r.fires c.snapshot = true ↔
      1 < c.extensions.metricsSources)) ∧
    ∃ r, Rule.find? "4.2.1" = some r ∧ (r.fires c.snapshot = true ↔
      c.extensions.traceExporters = 0 ∧
        ∀ ns ∈ Extensions.traceSections, c.extensions.contains ns = false) := by
  refine ⟨⟨_, rfl, ?_⟩, _, rfl, c.lacksTracing_snapshot_iff htraces⟩
  show decide (1 < Check.telemetryExtensions c.snapshot) = true ↔ _
  rw [decide_eq_true_iff, telemetryExtensions_snapshot]
  exact Int64.ofNat_lt_iff_lt (by decide) hmetrics

end Telemetry

def observed : Config where
  version := 3
  extensions :=
    (KeyMap.empty.insert "telemetry/metrics" .null).insert "telemetry/opentelemetry"
      (.object [("exporters", .object [
        ("otlp", .array [
          .object [("disable_metrics", .bool true), ("disable_traces", .string "no")],
          .object [("disable_metrics", .null), ("disable_traces", .bool true)],
          .string "collector"]),
        ("prometheus", .object [("port", .ofInt64 9091)])])])

theorem telemetry_rules_fire_iff_observed :
    (observed.extensions.metricsSources < 2 ^ 63 ∧ observed.extensions.traceExporters < 2 ^ 63) ∧
    (∃ r, Rule.find? "4.1.3" = some r ∧ (r.fires observed.snapshot = true ↔
      1 < observed.extensions.metricsSources)) ∧
    ∃ r, Rule.find? "4.2.1" = some r ∧ (r.fires observed.snapshot = true ↔
      observed.extensions.traceExporters = 0 ∧
        ∀ ns ∈ Extensions.traceSections, observed.extensions.contains ns = false) := by
  have hmetrics : observed.extensions.metricsSources < 2 ^ 63 := by decide
  have htraces : observed.extensions.traceExporters < 2 ^ 63 := by decide
  exact ⟨⟨hmetrics, htraces⟩, telemetry_rules_fire_iff observed hmetrics htraces⟩

end Config

end Gateway
