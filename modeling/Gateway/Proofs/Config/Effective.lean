import Gateway.Proofs.Audit.Report
import Gateway.Proofs.Config.Reader
import Gateway.Proofs.Json.Text
import Gateway.Proofs.Text.Letters

namespace Gateway

namespace Config

def effectiveTimeout (c : Config) (e : Endpoint) : String :=
  (e.timeout.or c.timeout).getD "2s"

def effectiveEncoding (c : Config) (e : Endpoint) : String :=
  (e.outputEncoding.or c.outputEncoding).getD "json"

def effectiveMethod (e : Endpoint) (b : Backend) : String :=
  if b.method ≠ "" then b.method else if e.method ≠ "" then e.method else "GET"

def isWriting (method : String) : Bool :=
  method ≠ "" && !Text.sameLetters method "GET" && !Text.sameLetters method "HEAD"

def mayWrite (e : Endpoint) (b : Backend) : Bool :=
  b.extensions.contains "backend/grpc" || isWriting (Text.trim (effectiveMethod e b))

def TimesOutAfter (limit : Int64) (c : Config) : Prop :=
  ∃ e ∈ c.endpoints, ∃ ms, Duration.milliseconds? (c.effectiveTimeout e) = some ms ∧ limit < ms

def PassesThrough (c : Config) : Prop :=
  ∀ e ∈ c.endpoints, c.effectiveEncoding e = "no-op"

def WritesRepeatedly (c : Config) : Prop :=
  ∃ e ∈ c.endpoints, 2 ≤ e.backends.countP (mayWrite e)

structure ReportsEffective (c : Config) (ids : List String) : Prop where
  above_three_seconds : "3.3.1" ∈ ids ↔ c.TimesOutAfter 3000
  above_five_seconds : "3.3.2" ∈ ids ↔ c.TimesOutAfter 5000
  above_half_a_minute : "3.3.3" ∈ ids ↔ c.TimesOutAfter 30000
  above_a_minute : "3.3.4" ∈ ids ↔ c.TimesOutAfter 60000
  passing_through : "5.1.6" ∈ ids ↔ c.PassesThrough
  writing_repeatedly : "5.2.1" ∈ ids ↔ c.WritesRepeatedly

section Snapshot

variable (c : Config)

theorem snapshot_endpoints : c.withDefaults.snapshot.endpoints = c.endpoints.map fun e =>
    (e.withDefaults (c.timeout.getD defaultTimeout)
      (c.outputEncoding.getD defaultEncoding)).snapshot := by
  simp only [snapshot, withDefaults, List.map_map, Function.comp_def]

theorem timeout_flag (e : Endpoint) (encoding : String) :
    (e.withDefaults (c.timeout.getD defaultTimeout) encoding).snapshot.flag
      Snapshot.EndpointFlag.timeout.index =
        (Duration.milliseconds? (c.effectiveTimeout e)).getD 0 := by
  have heffective : e.timeout.getD (c.timeout.getD defaultTimeout) = c.effectiveTimeout e := by
    rw [effectiveTimeout]
    cases e.timeout with
    | none => rfl
    | some t => rfl
  rw [← heffective]
  rfl

theorem encoding_flag (e : Endpoint) (timeout : String) :
    (e.withDefaults timeout (c.outputEncoding.getD defaultEncoding)).snapshot.flag
      Snapshot.EndpointFlag.encoding.index =
        (Snapshot.Encoding.ofName (c.effectiveEncoding e)).word := by
  have heffective : e.outputEncoding.getD (c.outputEncoding.getD defaultEncoding) =
      c.effectiveEncoding e := by
    rw [effectiveEncoding]
    cases e.outputEncoding with
    | none => rfl
    | some t => rfl
  rw [← heffective]
  rfl

end Snapshot

theorem timeoutAbove_iff (c : Config) {limit : Int64} (hlimit : 0 ≤ limit) :
    Check.timeoutAbove limit c.withDefaults.snapshot = true ↔ c.TimesOutAfter limit := by
  have hzero : ¬ limit < 0 := Int64.not_lt.mpr hlimit
  simp only [Check.timeoutAbove, snapshot_endpoints, List.any_map, List.any_eq_true,
    Function.comp_apply, timeout_flag, decide_eq_true_eq, TimesOutAfter]
  refine exists_congr fun e => and_congr_right fun he => ?_
  cases Duration.milliseconds? (c.effectiveTimeout e) with
  | none => simpa using hzero
  | some ms => simp

theorem ofName_eq_noOp_iff (name : String) :
    Snapshot.Encoding.ofName name = .noOp ↔ name = "no-op" := by
  unfold Snapshot.Encoding.ofName
  split <;> simp_all

theorem hasBit_word_iff (e : Snapshot.Encoding) :
    Bits.hasBit e.word Snapshot.Encoding.noOp.bit = true ↔ e = .noOp := by
  cases e <;> decide

theorem manipulatesNothing_iff (c : Config) :
    Check.manipulatesNothing c.withDefaults.snapshot = true ↔ c.PassesThrough := by
  simp only [Check.manipulatesNothing, snapshot_endpoints, List.all_map, List.all_eq_true,
    Function.comp_apply, encoding_flag, hasBit_word_iff, ofName_eq_noOp_iff, PassesThrough]

theorem method_withDefaults (e : Endpoint) (b : Backend) :
    (b.withDefaults (Text.upper (orElse e.method defaultMethod))).method =
      Text.upper (effectiveMethod e b) := by
  simp only [Backend.withDefaults, effectiveMethod, orElse, ne_eq, ite_not]
  by_cases hb : b.method = ""
  · rw [if_pos hb, if_pos hb, Text.upper_upper]
    rfl
  · rw [if_neg hb, if_neg hb]

theorem any_safeMethods_upper (method : String) :
    safeMethods.any (Text.sameLetters (orElse (Text.upper method) defaultMethod)) =
      !isWriting method := by
  by_cases h : method = ""
  · subst h
    decide
  · have hupper : Text.upper method ≠ "" := mt (Text.upper_eq_empty_iff method).mp h
    simp [orElse, hupper, h, safeMethods, isWriting, Text.sameLetters_upper]

theorem isUnsafe_withDefaults (e : Endpoint) (b : Backend) :
    (b.withDefaults (Text.upper (orElse e.method defaultMethod))).isUnsafe = mayWrite e b := by
  have hextensions : (b.withDefaults (Text.upper (orElse e.method defaultMethod))).extensions =
      b.extensions := rfl
  rw [Backend.isUnsafe, method_withDefaults, Text.trim_upper, any_safeMethods_upper, hextensions,
    Bool.not_not, Bool.or_comm]
  rfl

theorem calls_flag (e : Endpoint) (timeout encoding : String) :
    (e.withDefaults timeout encoding).snapshot.flag Snapshot.EndpointFlag.writingCalls.index =
      Int64.ofNat (e.backends.countP (mayWrite e)) := by
  have hcount : (e.withDefaults timeout encoding).backends.countP (·.isUnsafe) =
      e.backends.countP (mayWrite e) := by
    rw [Endpoint.withDefaults, List.countP_map]
    refine List.countP_congr fun b _ => ?_
    rw [Function.comp_apply, isUnsafe_withDefaults]
  rw [← hcount]
  rfl

theorem repeatsUnsafeCalls_iff (c : Config)
    (hc : ∀ e ∈ c.endpoints, e.backends.length < 2 ^ 63) :
    Check.repeatsUnsafeCalls c.withDefaults.snapshot = true ↔ c.WritesRepeatedly := by
  simp only [Check.repeatsUnsafeCalls, snapshot_endpoints, List.any_map, List.any_eq_true,
    Function.comp_apply, calls_flag, decide_eq_true_eq, WritesRepeatedly]
  refine exists_congr fun e => and_congr_right fun he => ?_
  have hcount : e.backends.countP (mayWrite e) < 2 ^ 63 :=
    Nat.lt_of_le_of_lt List.countP_le_length (hc e he)
  exact Int64.ofNat_lt_iff_lt (by decide) hcount

theorem exists_of_loadJson {text : Bytes} {c : Config} (h : loadJson text = .ok c) :
    ∃ d, ofJson text = .ok d ∧ c = d.withDefaults := by
  obtain ⟨d, hd, haccept⟩ := bind_eq_ok_iff.mp h
  rw [accept] at haccept
  split at haccept
  · exact ⟨d, hd, (Except.ok.inj haccept).symm⟩
  · cases haccept

theorem reportsEffective_withDefaults (c : Config)
    (hc : ∀ e ∈ c.endpoints, e.backends.length < 2 ^ 63) :
    c.ReportsEffective (c.withDefaults.audit {}).ruleIds where
  above_three_seconds := (Rule.reported_iff rfl _).trans (c.timeoutAbove_iff (by decide))
  above_five_seconds := (Rule.reported_iff rfl _).trans (c.timeoutAbove_iff (by decide))
  above_half_a_minute := (Rule.reported_iff rfl _).trans (c.timeoutAbove_iff (by decide))
  above_a_minute := (Rule.reported_iff rfl _).trans (c.timeoutAbove_iff (by decide))
  passing_through := (Rule.reported_iff rfl _).trans c.manipulatesNothing_iff
  writing_repeatedly := (Rule.reported_iff rfl _).trans (c.repeatsUnsafeCalls_iff hc)

-- No text in memory has more bytes than a signed word can count.
theorem audit_loadJson_effective {text : Bytes} {c : Config} (htext : text.length < 2 ^ 63)
    (h : loadJson text = .ok c) :
    ∃ d, ofJson text = .ok d ∧ d.ReportsEffective (c.audit {}).ruleIds := by
  obtain ⟨d, hd, rfl⟩ := exists_of_loadJson h
  have hbackends : ∀ e ∈ d.endpoints, e.backends.length < 2 ^ 63 := by
    intro e he
    exact Nat.lt_of_le_of_lt (length_backends_le_of_ofJson hd e he) htext
  exact ⟨d, hd, d.reportsEffective_withDefaults hbackends⟩

def inheritingDocument : Json.Value :=
  .object [
    ("version", .ofInt64 3),
    ("timeout", .string "4s"),
    ("endpoints", .array [.object [
      ("endpoint", .string "/orders"),
      ("method", .string "post"),
      ("backend", .array [.object [], .object [("method", .string " put ")]])]])]

def inheriting : Config where
  version := 3
  timeout := some "4s"
  endpoints := [{
    path := "/orders"
    method := "post"
    backends := [{}, { method := " put " }] }]

theorem audit_loadJson_effective_inheriting :
    (Json.compact inheritingDocument).length < 2 ^ 63 ∧
      loadJson (Json.compact inheritingDocument) = .ok inheriting.withDefaults ∧
      ∃ d, ofJson (Json.compact inheritingDocument) = .ok d ∧
        d.ReportsEffective (inheriting.withDefaults.audit {}).ruleIds := by
  have hlength : (Json.compact inheritingDocument).length < 2 ^ 63 := by decide +kernel
  have hload : loadJson (Json.compact inheritingDocument) = .ok inheriting.withDefaults := by
    have hfits : Json.Fits 0 inheritingDocument := by
      simp [inheritingDocument, Json.Fits, Json.MembersFit, Json.ItemsFit, Json.Value.ofInt64,
        Json.depthLimit]
    rw [loadJson, ofJson, Json.parse_compact hfits]
    rfl
  exact ⟨hlength, hload, audit_loadJson_effective hlength hload⟩

end Config

end Gateway
