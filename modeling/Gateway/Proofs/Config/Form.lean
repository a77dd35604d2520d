import Gateway.Proofs.Bits
import Gateway.Proofs.Snapshot.Rearranged
import Gateway.Snapshot.Projection
import Mathlib.Logic.ExistsUnique

namespace Gateway.Config

open Snapshot Bits

def OneHot (word : Int64) : Prop :=
  ∃ bit ≤ 6, word.toInt = 2 ^ bit

structure Backend.Form (b : Config.Backend) (s : Snapshot.Backend) : Prop where
  length_flags : s.flags.length = 1
  range : 0 ≤ s.shape.toInt ∧ s.shape.toInt < 2 ^ 13
  encoding : ∃! bit, bit ≤ 6 ∧ hasBit s.shape bit = true
  keys : s.components.keys = b.extensions.keys

structure Agent.Form (a : Config.Agent) (s : Snapshot.Agent) : Prop where
  length_flags : s.flags.length = 4
  encoding : OneHot (s.flag 0)
  backends : List.Forall₂ Backend.Form a.backends s.backends
  keys : s.components.keys = a.extensions.keys

structure Endpoint.Form (e : Config.Endpoint) (s : Snapshot.Endpoint) : Prop where
  length_flags : s.flags.length = 6
  encoding : OneHot (s.flag EndpointFlag.encoding.index)
  queryStrings : (s.flag EndpointFlag.queryStrings.index).toInt = e.queryStrings.length
  headers : (s.flag EndpointFlag.headers.index).toInt = e.headers.length
  wildcards : 0 ≤ (s.flag EndpointFlag.wildcards.index).toInt ∧
    (s.flag EndpointFlag.wildcards.index).toInt < 2 ^ 4
  queryStrings_wildcard :
    hasBit (s.flag EndpointFlag.wildcards.index) Wildcard.queryStrings.bit = true →
      0 < (s.flag EndpointFlag.queryStrings.index).toInt
  headers_wildcard :
    hasBit (s.flag EndpointFlag.wildcards.index) Wildcard.headers.bit = true →
      0 < (s.flag EndpointFlag.headers.index).toInt
  path_wildcard :
    hasBit (s.flag EndpointFlag.wildcards.index) Wildcard.path.bit = true →
      hasBit (s.flag EndpointFlag.wildcards.index) Wildcard.catchAll.bit = false
  writingCalls : 0 ≤ (s.flag EndpointFlag.writingCalls.index).toInt ∧
    (s.flag EndpointFlag.writingCalls.index).toInt ≤ s.backends.length
  backends : List.Forall₂ Backend.Form e.backends s.backends
  keys : s.components.keys = e.extensions.keys

structure Form (c : Config) (s : Snapshot) : Prop where
  length_flags : s.flags.length = 1
  agents : List.Forall₂ Agent.Form c.agents s.agents
  endpoints : List.Forall₂ Endpoint.Form c.endpoints s.endpoints
  keys : s.components.keys = c.extensions.keys

structure Endpoint.Countable (e : Config.Endpoint) : Prop where
  queryStrings : e.queryStrings.length < 2 ^ 63
  headers : e.headers.length < 2 ^ 63
  backends : e.backends.length < 2 ^ 63

theorem keys_components (x : Extensions) : (Extension.components x).keys = x.keys :=
  KeyMap.keys_map Extension.summary x

theorem bit_encoding_le (e : Encoding) : e.bit ≤ 6 := by
  cases e <;> decide

theorem oneHot_word (e : Encoding) : OneHot e.word := by
  refine ⟨e.bit, bit_encoding_le e, ?_⟩
  cases e <;> decide

theorem bit_backendFlag_bounds (f : BackendFlag) : 7 ≤ f.bit ∧ f.bit < 13 := by
  cases f <;> decide

section Backend

variable (b : Backend)

theorem Backend.bit_lt_of_mem : ∀ c ∈ (true, (Encoding.ofName b.encoding).bit) ::
    b.conditions.map fun (holds, flag) => (holds, flag.bit), c.2 < 13 := by
  rw [List.forall_mem_cons, List.forall_mem_map]
  refine ⟨?_, fun c _ => (bit_backendFlag_bounds c.2).2⟩
  exact Nat.lt_of_le_of_lt (bit_encoding_le _) (by decide)

theorem Backend.hasBit_shape {bit : Nat} (h : bit < 64) :
    hasBit b.shape bit = ((Encoding.ofName b.encoding).bit == bit ||
      b.conditions.any fun (holds, flag) => holds && flag.bit == bit) := by
  rw [shape, hasBit_ofConditions (fun c hc => Nat.lt_trans (b.bit_lt_of_mem c hc) (by decide)) h,
    List.any_cons, List.any_map, Bool.true_and]
  rfl

theorem Backend.hasBit_shape_encoding {bit : Nat} (h : bit ≤ 6) :
    hasBit b.shape bit = true ↔ bit = (Encoding.ofName b.encoding).bit := by
  have hconditions : (b.conditions.any fun (holds, flag) => holds && flag.bit == bit) = false := by
    refine any_eq_false_of_ne (f := fun c : Bool × BackendFlag => c.2.bit) fun c _ => ?_
    have hbit := (bit_backendFlag_bounds c.2).1
    omega
  rw [b.hasBit_shape (by omega), hconditions, Bool.or_false, beq_iff_eq, eq_comm]

theorem Backend.hasBit_shape_condition {bit : Nat} (hlow : 7 ≤ bit) (h : bit < 64) :
    hasBit b.shape bit = b.conditions.any fun (holds, flag) => holds && flag.bit == bit := by
  have hencoding : ((Encoding.ofName b.encoding).bit == bit) = false := by
    have hle := bit_encoding_le (Encoding.ofName b.encoding)
    exact beq_eq_false_iff_ne.mpr (by omega)
  rw [b.hasBit_shape h, hencoding, Bool.false_or]

theorem Backend.form_snapshot : b.Form b.snapshot where
  length_flags := rfl
  range := toInt_ofConditions_bounds b.bit_lt_of_mem (by decide)
  encoding := by
    refine ⟨(Encoding.ofName b.encoding).bit, ⟨bit_encoding_le _, ?_⟩, ?_⟩
    · exact (b.hasBit_shape_encoding (bit_encoding_le _)).mpr rfl
    · rintro bit ⟨hle, hbit⟩
      exact (b.hasBit_shape_encoding hle).mp hbit
  keys := keys_components b.extensions

end Backend

theorem Agent.form_snapshot (a : Agent) : a.Form a.snapshot where
  length_flags := rfl
  encoding := oneHot_word _
  backends := forall₂_map_of fun b _ => b.form_snapshot
  keys := keys_components a.extensions

section Endpoint

variable (e : Endpoint)

def Endpoint.HasWildcard : Wildcard → Prop
  | .path => e.path.toList.getLast? = some '*'
  | .queryStrings => "*" ∈ e.queryStrings
  | .headers => "*" ∈ e.headers
  | .catchAll => e.path = catchAllPath

theorem Endpoint.hasBit_wildcards_iff (w : Wildcard) :
    hasBit e.wildcards w.bit = true ↔ e.HasWildcard w := by
  rw [wildcards, hasBit_ofConditions (by simp [Wildcard.bit]) (by cases w <;> decide)]
  cases w <;> simp [Wildcard.bit, HasWildcard]

theorem Endpoint.not_catchAll_of_path (h : e.HasWildcard .path) : ¬e.HasWildcard .catchAll := by
  intro hpath
  rw [HasWildcard, hpath] at h
  revert h
  decide

section Countable

variable {e} (h : e.Countable)
include h

theorem Endpoint.toInt_queryStrings_flag :
    (e.snapshot.flag EndpointFlag.queryStrings.index).toInt = e.queryStrings.length :=
  Int64.toInt_ofNat_of_lt h.queryStrings

theorem Endpoint.toInt_headers_flag :
    (e.snapshot.flag EndpointFlag.headers.index).toInt = e.headers.length :=
  Int64.toInt_ofNat_of_lt h.headers

theorem Endpoint.toInt_writingCalls_flag :
    (e.snapshot.flag EndpointFlag.writingCalls.index).toInt = e.backends.countP (·.isUnsafe) :=
  Int64.toInt_ofNat_of_lt (Nat.lt_of_le_of_lt List.countP_le_length h.backends)

theorem Endpoint.form_snapshot : e.Form e.snapshot where
  length_flags := rfl
  encoding := oneHot_word _
  queryStrings := toInt_queryStrings_flag h
  headers := toInt_headers_flag h
  wildcards := toInt_ofConditions_bounds (by simp [Wildcard.bit]) (by decide)
  queryStrings_wildcard := by
    intro hbit
    have hmem := (e.hasBit_wildcards_iff .queryStrings).mp hbit
    exact toInt_queryStrings_flag h ▸ Int.natCast_pos.mpr (List.length_pos_of_mem hmem)
  headers_wildcard := by
    intro hbit
    have hmem := (e.hasBit_wildcards_iff .headers).mp hbit
    exact toInt_headers_flag h ▸ Int.natCast_pos.mpr (List.length_pos_of_mem hmem)
  path_wildcard := by
    intro hbit
    have hpath := (e.hasBit_wildcards_iff .path).mp hbit
    exact Bool.eq_false_iff.mpr
      (mt (e.hasBit_wildcards_iff .catchAll).mp (e.not_catchAll_of_path hpath))
  writingCalls := by
    have hle : e.backends.countP (·.isUnsafe) ≤ e.snapshot.backends.length :=
      List.length_map (Backend.snapshot) ▸ List.countP_le_length
    rw [toInt_writingCalls_flag h]
    exact ⟨Int.natCast_nonneg _, Int.ofNat_le.mpr hle⟩
  backends := forall₂_map_of fun b _ => b.form_snapshot
  keys := keys_components e.extensions

end Countable

end Endpoint

theorem form_of_countable {c : Config} (h : ∀ e ∈ c.endpoints, e.Countable) :
    c.Form c.snapshot where
  length_flags := rfl
  agents := forall₂_map_of fun a _ => a.form_snapshot
  endpoints := forall₂_map_of fun e he => Endpoint.form_snapshot (h e he)
  keys := keys_components c.extensions

def files : Config where
  endpoints := [{
    path := "/files/*"
    outputEncoding := some "yaml"
    queryStrings := ["*"]
    headers := ["Accept", "*"]
    backends := [
      { method := "post", encoding := "xml", allow := ["name"], isCollection := true },
      { extensions := KeyMap.empty.insert "qos/http-cache" .null }] }]
  agents := [{ encoding := "json", consumer := { workers := -1 }, backends := [{}] }]
  extensions := KeyMap.empty.insert "security/cors" (.bool true)

theorem form_of_countable_files :
    (∀ e ∈ files.endpoints, e.Countable) ∧ files.Form files.snapshot := by
  have hcountable : ∀ e ∈ files.endpoints, e.Countable := by
    intro e he
    obtain rfl := List.mem_singleton.mp he
    exact ⟨by decide, by decide, by decide⟩
  exact ⟨hcountable, form_of_countable hcountable⟩

end Gateway.Config
