import Gateway.Proofs.Config.Form
import Mathlib.Tactic.IntervalCases

namespace Gateway.Config

open Snapshot Bits

def Tells (word : Int64) (Condition : Nat → Prop) : Prop :=
  ∀ bit < 64, hasBit word bit = true ↔ Condition bit

def ServiceBit (c : Config) : Nat → Prop
  | 0 => c.pluginLoader.isSome = true
  | 1 => c.sequentialStart = true
  | 2 => c.debugEndpoint = true
  | 3 => c.insecureConnections = true ∨ ∃ t ∈ c.clientTls, t.insecureConnections = true
  | 4 => c.restDisabled = true
  | 5 => c.tls.isSome = true
  | 6 => ∃ t ∈ c.tls, t.disabled = false
  | 7 => ∃ t ∈ c.tls, t.clientsVerified = true
  | 8 => ∃ t ∈ c.tls, t.systemPoolDisabled = true
  | 9 => ∃ t ∈ c.tls, t.certificateAuthorities ≠ []
  | 10 => c.echoEndpoint = true
  | 11 => c.clearTextHttp2 = true
  | 12 => ∃ t ∈ c.tls, t.publicKey ≠ "" ∨ t.privateKey ≠ ""
  | _ => False

def encodingClass (name : String) : Nat :=
  ["no-op", "json", "safejson", "string", "rss", "xml"].idxOf name

def Backend.ShapeBit (b : Backend) : Nat → Prop
  | 7 => b.allow ≠ []
  | 8 => b.deny ≠ []
  | 9 => b.mapping ≠ KeyMap.empty
  | 10 => b.group ≠ ""
  | 11 => b.target ≠ ""
  | 12 => b.isCollection = true
  | bit => bit = encodingClass b.encoding

structure Backend.SameShape (a b : Backend) : Prop where
  encoding : encodingClass a.encoding = encodingClass b.encoding
  allow : a.allow = [] ↔ b.allow = []
  deny : a.deny = [] ↔ b.deny = []
  mapping : a.mapping = KeyMap.empty ↔ b.mapping = KeyMap.empty
  group : a.group = "" ↔ b.group = ""
  target : a.target = "" ↔ b.target = ""
  isCollection : a.isCollection = b.isCollection

def Endpoint.WildcardBit (e : Endpoint) : Nat → Prop
  | 0 => ∃ body, e.path.toList = body ++ ['*']
  | 1 => "*" ∈ e.queryStrings
  | 2 => "*" ∈ e.headers
  | 3 => e.path = "/__catchall"
  | _ => False

def Backend.Faithful (b : Config.Backend) (s : Snapshot.Backend) : Prop :=
  ∃ word, s.flags = [word] ∧ Tells word b.ShapeBit

structure Endpoint.Faithful (e : Config.Endpoint) (s : Snapshot.Endpoint) : Prop where
  wildcards : Tells (s.flag EndpointFlag.wildcards.index) e.WildcardBit
  backends : List.Forall₂ Backend.Faithful e.backends s.backends

structure Faithful (c : Config) (s : Snapshot) : Prop where
  flags : ∃ word, s.flags = [word] ∧ Tells word c.ServiceBit
  endpoints : List.Forall₂ Endpoint.Faithful c.endpoints s.endpoints
  agents : List.Forall₂ (fun a t => List.Forall₂ Backend.Faithful a.backends t.backends)
    c.agents s.agents

section Tells

variable {a b : Int64} {P Q : Nat → Prop}

theorem Tells.eq_iff (ha : Tells a P) (hb : Tells b Q) :
    a = b ↔ ∀ bit < 64, P bit ↔ Q bit := by
  constructor
  · rintro rfl bit h
    rw [← ha bit h, hb bit h]
  · intro h
    refine eq_of_hasBit fun bit hbit => ?_
    rw [Bool.eq_iff_iff, ha bit hbit, hb bit hbit, h bit hbit]

theorem tells_ofConditions {conditions : List (Bool × Nat)} {n : Nat} (hn : n ≤ 64)
    (hbits : ∀ c ∈ conditions, c.2 < n) (habove : ∀ bit, n ≤ bit → ¬P bit)
    (h : ∀ bit < n, (conditions.any fun c => c.1 && c.2 == bit) = true ↔ P bit) :
    Tells (ofConditions conditions) P := by
  intro bit hbit
  rw [hasBit_ofConditions (fun c hc => Nat.lt_of_lt_of_le (hbits c hc) hn) hbit]
  rcases Nat.lt_or_ge bit n with hlt | hge
  · exact h bit hlt
  · rw [iff_false_right (habove bit hge), Bool.not_eq_true]
    exact any_eq_false_of_ne fun c hc => Nat.ne_of_lt (Nat.lt_of_lt_of_le (hbits c hc) hge)

end Tells

theorem bit_serviceFlag_lt (f : ServiceFlag) : f.bit < 13 := by
  cases f <;> decide

theorem tells_serviceFlags (c : Config) : Tells c.serviceFlags c.ServiceBit := by
  refine tells_ofConditions (n := 13) (by decide) ?_ ?_ ?_
  · rw [List.forall_mem_map]
    exact fun d _ => bit_serviceFlag_lt d.2
  · intro bit hge
    obtain ⟨n, rfl⟩ := Nat.exists_eq_add_of_le' hge
    exact id
  · intro bit hlt
    rw [List.any_map]
    interval_cases bit <;> cases htls : c.tls <;>
      simp [conditions, Tls.conditions, ServiceFlag.bit, allowsInsecureConnections, ServiceBit,
        Option.any_eq_true, htls]

section Shape

theorem bit_ofName (name : String) : (Encoding.ofName name).bit = encodingClass name := by
  unfold Encoding.ofName
  split
  case h_7 h₁ h₂ h₃ h₄ h₅ h₆ =>
    have hother : name ∉ ["no-op", "json", "safejson", "string", "rss", "xml"] := by
      simp only [List.mem_cons, List.not_mem_nil, or_false, not_or]
      exact ⟨h₁, h₂, h₃, h₄, h₅, h₆⟩
    exact (List.idxOf_eq_length hother).symm
  all_goals rfl

theorem encodingClass_le (name : String) : encodingClass name ≤ 6 :=
  List.idxOf_le_length

variable (b : Backend) {bit : Nat}

theorem Backend.shapeBit_low_iff (h : bit ≤ 6) :
    b.ShapeBit bit ↔ bit = encodingClass b.encoding := by
  interval_cases bit <;> rfl

theorem Backend.shapeBit_condition_iff (hlow : 7 ≤ bit) (h : bit < 64) : b.ShapeBit bit ↔
    (b.conditions.any fun (holds, flag) => holds && flag.bit == bit) = true := by
  rcases Nat.lt_or_ge bit 13 with hlt | hge
  · interval_cases bit <;>
      simp [conditions, BackendFlag.bit, ShapeBit, ← KeyMap.isEmpty_iff]
  · obtain ⟨n, rfl⟩ := Nat.exists_eq_add_of_le' hge
    have hclass := encodingClass_le b.encoding
    refine iff_of_false (show ¬n + 13 = encodingClass b.encoding by omega) ?_
    rw [Bool.not_eq_true]
    refine any_eq_false_of_ne (f := fun c : Bool × BackendFlag => c.2.bit) fun c _ => ?_
    have hbit := (bit_backendFlag_bounds c.2).2
    omega

theorem Backend.tells_shape : Tells b.shape b.ShapeBit := by
  intro bit h
  rcases Nat.lt_or_ge bit 7 with hlow | hlow
  · have hle : bit ≤ 6 := Nat.le_of_lt_succ hlow
    rw [b.hasBit_shape_encoding hle, b.shapeBit_low_iff hle, bit_ofName]
  · rw [b.hasBit_shape_condition hlow h, b.shapeBit_condition_iff hlow h]

theorem Backend.sameShape_of_shapeBit {a b : Backend}
    (h : ∀ bit < 64, a.ShapeBit bit ↔ b.ShapeBit bit) : a.SameShape b where
  encoding := by
    have hclass := encodingClass_le a.encoding
    have hbit := h (encodingClass a.encoding) (by omega)
    rw [a.shapeBit_low_iff hclass, b.shapeBit_low_iff hclass] at hbit
    exact hbit.mp rfl
  allow := not_iff_not.mp (h 7 (by decide))
  deny := not_iff_not.mp (h 8 (by decide))
  mapping := not_iff_not.mp (h 9 (by decide))
  group := not_iff_not.mp (h 10 (by decide))
  target := not_iff_not.mp (h 11 (by decide))
  isCollection := Bool.eq_iff_iff.mpr (h 12 (by decide))

theorem Backend.SameShape.shapeBit_iff {a b : Backend} (h : a.SameShape b) (bit : Nat) :
    a.ShapeBit bit ↔ b.ShapeBit bit := by
  unfold ShapeBit
  split
  · exact not_congr h.allow
  · exact not_congr h.deny
  · exact not_congr h.mapping
  · exact not_congr h.group
  · exact not_congr h.target
  · rw [h.isCollection]
  · rw [h.encoding]

theorem Backend.flags_snapshot_eq_iff (a b : Backend) :
    a.snapshot.flags = b.snapshot.flags ↔ a.SameShape b := by
  change [a.shape] = [b.shape] ↔ _
  rw [List.singleton_inj, a.tells_shape.eq_iff b.tells_shape]
  exact ⟨sameShape_of_shapeBit, fun h bit _ => h.shapeBit_iff bit⟩

end Shape

theorem Endpoint.tells_wildcards (e : Endpoint) : Tells e.wildcards e.WildcardBit := by
  refine tells_ofConditions (n := 4) (by decide) (by simp [Wildcard.bit]) ?_ ?_
  · intro bit hge
    obtain ⟨n, rfl⟩ := Nat.exists_eq_add_of_le' hge
    exact id
  · intro bit hlt
    interval_cases bit <;>
      simp [Wildcard.bit, WildcardBit, catchAllPath, List.getLast?_eq_some_iff]

theorem Backend.faithful_snapshot (b : Backend) : b.Faithful b.snapshot :=
  ⟨b.shape, rfl, b.tells_shape⟩

theorem Endpoint.faithful_snapshot (e : Endpoint) : e.Faithful e.snapshot where
  wildcards := e.tells_wildcards
  backends := forall₂_map_of fun b _ => b.faithful_snapshot

theorem faithful_snapshot (c : Config) : c.Faithful c.snapshot where
  flags := ⟨c.serviceFlags, rfl, c.tells_serviceFlags⟩
  endpoints := forall₂_map_of fun e _ => e.faithful_snapshot
  agents := forall₂_map_of fun _ _ => forall₂_map_of fun b _ => b.faithful_snapshot

theorem flags_exact :
    (∀ c : Config, c.Faithful c.snapshot) ∧
      ∀ a b : Backend, a.snapshot.flags = b.snapshot.flags ↔ a.SameShape b :=
  ⟨faithful_snapshot, Backend.flags_snapshot_eq_iff⟩

end Gateway.Config
