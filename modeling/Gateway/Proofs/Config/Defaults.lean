import Gateway.Proofs.Config.Form
import Gateway.Proofs.Text.Letters

namespace Gateway

open Snapshot

namespace Config

def IsSet (own filled : Option String) : Prop :=
  ∃ text, filled = some text ∧ ∀ t ∈ own, text = t

structure IsFilled (own filled : String) : Prop where
  ne_empty : filled ≠ ""
  kept : own ≠ "" → filled = own

structure IsUpper (own filled : String) : Prop where
  ne_empty : filled ≠ ""
  noLower : ∀ c ∈ filled.toList, c.isLower = false
  kept : own ≠ "" → Text.sameLetters filled own = true

section Filled

variable (Method : String → String → Prop)

structure Backend.Filled (own filled : Backend) : Prop where
  method : Method own.method filled.method
  encoding : IsFilled own.encoding filled.encoding
  rest : filled = { own with method := filled.method, encoding := filled.encoding }

structure Endpoint.Filled (own filled : Endpoint) : Prop where
  timeout : IsSet own.timeout filled.timeout
  outputEncoding : IsSet own.outputEncoding filled.outputEncoding
  method : IsUpper own.method filled.method
  backends : List.Forall₂ (Backend.Filled IsUpper) own.backends filled.backends
  rest : filled = { own with
    timeout := filled.timeout
    outputEncoding := filled.outputEncoding
    method := filled.method
    backends := filled.backends }

structure Agent.Filled (own filled : Agent) : Prop where
  encoding : IsFilled own.encoding filled.encoding
  backends : List.Forall₂ (Backend.Filled IsFilled) own.backends filled.backends
  rest : filled = { own with encoding := filled.encoding, backends := filled.backends }

structure Filled (own filled : Config) : Prop where
  timeout : IsSet own.timeout filled.timeout
  outputEncoding : IsSet own.outputEncoding filled.outputEncoding
  endpoints : List.Forall₂ Endpoint.Filled own.endpoints filled.endpoints
  agents : List.Forall₂ Agent.Filled own.agents filled.agents
  rest : filled = { own with
    timeout := filled.timeout
    outputEncoding := filled.outputEncoding
    endpoints := filled.endpoints
    agents := filled.agents }

end Filled

end Config

namespace Snapshot

structure Backend.Unaffected (s t : Backend) : Prop where
  length_flags : s.flags.length = t.flags.length
  shape : ∀ bit, 7 ≤ bit → bit ≤ 12 → Bits.hasBit s.shape bit = Bits.hasBit t.shape bit
  components : s.components = t.components

structure Agent.Unaffected (s t : Agent) : Prop where
  length_flags : s.flags.length = t.flags.length
  workers : s.flag 1 = t.flag 1
  maxRetries : s.flag 2 = t.flag 2
  timeout : s.flag 3 = t.flag 3
  backends : List.Forall₂ Backend.Unaffected s.backends t.backends
  components : s.components = t.components

structure Endpoint.Unaffected (s t : Endpoint) : Prop where
  length_flags : s.flags.length = t.flags.length
  queryStrings : s.flag EndpointFlag.queryStrings.index = t.flag EndpointFlag.queryStrings.index
  headers : s.flag EndpointFlag.headers.index = t.flag EndpointFlag.headers.index
  wildcards : s.flag EndpointFlag.wildcards.index = t.flag EndpointFlag.wildcards.index
  backends : List.Forall₂ Backend.Unaffected s.backends t.backends
  components : s.components = t.components

structure Unaffected (s t : Snapshot) : Prop where
  flags : s.flags = t.flags
  agents : List.Forall₂ Agent.Unaffected s.agents t.agents
  endpoints : List.Forall₂ Endpoint.Unaffected s.endpoints t.endpoints
  components : s.components = t.components

end Snapshot

namespace Config

section Default

variable {s inherited : String}

theorem orElse_of_ne_empty (h : s ≠ "") : orElse s inherited = s :=
  if_neg h

theorem orElse_ne_empty (h : inherited ≠ "") : orElse s inherited ≠ "" := by
  rw [orElse]
  split
  · exact h
  · assumption

theorem isFilled_orElse (h : inherited ≠ "") : IsFilled s (orElse s inherited) :=
  ⟨orElse_ne_empty h, orElse_of_ne_empty⟩

theorem isUpper_upper_orElse (h : inherited ≠ "") :
    IsUpper s (Text.upper (orElse s inherited)) where
  ne_empty := mt (Text.upper_eq_empty_iff _).mp (orElse_ne_empty h)
  noLower := Text.isLower_of_mem_upper _
  kept := by
    intro hs
    rw [orElse_of_ne_empty hs, Text.sameLetters_upper, Text.sameLetters_refl]

theorem isSet_some_getD (own : Option String) (inherited : String) :
    IsSet own (some (own.getD inherited)) := by
  refine ⟨_, rfl, fun t ht => ?_⟩
  rw [Option.mem_def.mp ht, Option.getD_some]

theorem orElse_orElse (h : inherited ≠ "") :
    orElse (orElse s inherited) inherited = orElse s inherited :=
  orElse_of_ne_empty (orElse_ne_empty h)

theorem upper_orElse_upper (h : inherited ≠ "") :
    Text.upper (orElse (Text.upper (orElse s inherited)) inherited) =
      Text.upper (orElse s inherited) := by
  rw [orElse_of_ne_empty (isUpper_upper_orElse h).ne_empty, Text.upper_upper]

theorem defaultMethod_ne_empty : defaultMethod ≠ "" := by
  decide

theorem defaultEncoding_ne_empty : defaultEncoding ≠ "" := by
  decide

end Default

section Twice

theorem Backend.withDefaults_withDefaults {method : String} (h : method ≠ "") (b : Backend) :
    (b.withDefaults method).withDefaults method = b.withDefaults method := by
  simp only [Backend.withDefaults, upper_orElse_upper h, orElse_orElse defaultEncoding_ne_empty]

theorem Endpoint.withDefaults_withDefaults (timeout encoding : String) (e : Endpoint) :
    (e.withDefaults timeout encoding).withDefaults timeout encoding =
      e.withDefaults timeout encoding := by
  have hmethod := (isUpper_upper_orElse (s := e.method) defaultMethod_ne_empty).ne_empty
  simp only [Endpoint.withDefaults, upper_orElse_upper defaultMethod_ne_empty, Option.getD_some,
    List.map_map, Function.comp_def, Backend.withDefaults_withDefaults hmethod]

theorem Agent.withDefaults_withDefaults (a : Agent) :
    a.withDefaults.withDefaults = a.withDefaults := by
  simp only [Agent.withDefaults, orElse_orElse defaultEncoding_ne_empty,
    orElse_orElse defaultMethod_ne_empty, List.map_map, Function.comp_def]

theorem withDefaults_withDefaults (c : Config) : c.withDefaults.withDefaults = c.withDefaults := by
  simp only [withDefaults, Option.getD_some, List.map_map, Function.comp_def,
    Endpoint.withDefaults_withDefaults, Agent.withDefaults_withDefaults]

end Twice

section Filled

theorem Backend.filled_withDefaults {method : String} (h : method ≠ "") (b : Backend) :
    Backend.Filled IsUpper b (b.withDefaults method) where
  method := isUpper_upper_orElse h
  encoding := isFilled_orElse defaultEncoding_ne_empty
  rest := rfl

theorem Endpoint.filled_withDefaults (timeout encoding : String) (e : Endpoint) :
    e.Filled (e.withDefaults timeout encoding) where
  timeout := isSet_some_getD e.timeout timeout
  outputEncoding := isSet_some_getD e.outputEncoding encoding
  method := isUpper_upper_orElse defaultMethod_ne_empty
  backends := forall₂_map_of fun b _ =>
    b.filled_withDefaults (isUpper_upper_orElse defaultMethod_ne_empty).ne_empty
  rest := rfl

theorem Agent.filled_withDefaults (a : Agent) : a.Filled a.withDefaults where
  encoding := isFilled_orElse defaultEncoding_ne_empty
  backends := forall₂_map_of fun _ _ =>
    ⟨isFilled_orElse defaultMethod_ne_empty, isFilled_orElse defaultEncoding_ne_empty, rfl⟩
  rest := rfl

theorem filled_withDefaults (c : Config) : c.Filled c.withDefaults where
  timeout := isSet_some_getD c.timeout defaultTimeout
  outputEncoding := isSet_some_getD c.outputEncoding defaultEncoding
  endpoints := forall₂_map_of fun e _ => e.filled_withDefaults _ _
  agents := forall₂_map_of fun a _ => a.filled_withDefaults
  rest := rfl

end Filled

section Unaffected

theorem Backend.Filled.unaffected {Method : String → String → Prop} {own filled : Backend}
    (h : Backend.Filled Method own filled) : own.snapshot.Unaffected filled.snapshot where
  length_flags := rfl
  shape := by
    intro bit hlow hhigh
    have hconditions : filled.conditions = own.conditions := by rw [h.rest]; rfl
    change Bits.hasBit own.shape bit = Bits.hasBit filled.shape bit
    rw [own.hasBit_shape_condition hlow (by omega), filled.hasBit_shape_condition hlow (by omega),
      hconditions]
  components := by rw [h.rest]; rfl

theorem Agent.Filled.unaffected {own filled : Agent} (h : own.Filled filled) :
    own.snapshot.Unaffected filled.snapshot where
  length_flags := rfl
  workers := by
    change own.consumer.workers = filled.consumer.workers
    rw [h.rest]
  maxRetries := by
    change own.connection.maxRetries = filled.connection.maxRetries
    rw [h.rest]
  timeout := by
    change timeoutMilliseconds own.consumer.timeout = timeoutMilliseconds filled.consumer.timeout
    rw [h.rest]
  backends := forall₂_map_map (fun _ _ => Backend.Filled.unaffected) h.backends
  components := by rw [h.rest]; rfl

theorem Endpoint.Filled.unaffected {own filled : Endpoint} (h : own.Filled filled) :
    own.snapshot.Unaffected filled.snapshot where
  length_flags := rfl
  queryStrings := by
    change Int64.ofNat own.queryStrings.length = Int64.ofNat filled.queryStrings.length
    rw [h.rest]
  headers := by
    change Int64.ofNat own.headers.length = Int64.ofNat filled.headers.length
    rw [h.rest]
  wildcards := by
    change own.wildcards = filled.wildcards
    rw [h.rest]
    rfl
  backends := forall₂_map_map (fun _ _ => Backend.Filled.unaffected) h.backends
  components := by rw [h.rest]; rfl

theorem Filled.unaffected {own filled : Config} (h : own.Filled filled) :
    own.snapshot.Unaffected filled.snapshot where
  flags := by rw [h.rest]; rfl
  agents := forall₂_map_map (fun _ _ => Agent.Filled.unaffected) h.agents
  endpoints := forall₂_map_map (fun _ _ => Endpoint.Filled.unaffected) h.endpoints
  components := by rw [h.rest]; rfl

end Unaffected

theorem withDefaults_exact (c : Config) :
    c.withDefaults.withDefaults = c.withDefaults ∧ c.Filled c.withDefaults ∧
      c.snapshot.Unaffected c.withDefaults.snapshot :=
  ⟨withDefaults_withDefaults c, filled_withDefaults c, (filled_withDefaults c).unaffected⟩

end Config

end Gateway
