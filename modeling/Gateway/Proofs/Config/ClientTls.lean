import Gateway.Audit.Rule
import Gateway.Proofs.Datum.Shape
import Gateway.Proofs.Snapshot.Projection

namespace Gateway

open Json

namespace Config

def KeyPair.shape : Shape := [
  ("public_key", IsString),
  ("private_key", IsString)]

def ClientTls.shape : Shape := [
  ("allow_insecure_connections", IsBool),
  ("disable_system_ca_pool", IsBool),
  ("ca_certs", IsListOf IsString),
  ("client_certs", IsListOf KeyPair.shape.Admits)]

theorem KeyPair.accepts_read (v : Value) :
    Reader.Accepts KeyPair.layout.read v ↔ KeyPair.shape.Admits v := by
  refine Layout.accepts_read rfl ?_ v
  simp only [KeyPair.layout, KeyPair.shape, List.forall₂_cons]
  exact ⟨Layout.takes_of _ _ Datum.accepts_readString,
    Layout.takes_of _ _ Datum.accepts_readString, .nil⟩

theorem ClientTls.accepts_read (v : Value) :
    Reader.Accepts ClientTls.layout.read v ↔ ClientTls.shape.Admits v := by
  refine Layout.accepts_read rfl ?_ v
  simp only [ClientTls.layout, ClientTls.shape, List.forall₂_cons]
  exact ⟨Layout.takes_of _ _ Datum.accepts_readBool,
    Layout.takes_of _ _ Datum.accepts_readBool,
    Layout.takes_of _ _ (Datum.accepts_readList Datum.accepts_readString),
    Layout.takes_of _ _ (Datum.accepts_readList KeyPair.accepts_read), .nil⟩

theorem ClientTls.insecureConnections_read {o : Object} {tls : ClientTls}
    (h : ClientTls.layout.read (Datum.ofValue (.object o)) = .ok tls) :
    tls.insecureConnections =
      ((o.get? "allow_insecure_connections").bind Value.bool?).getD false := by
  refine Layout.get_read_object insecureConnections ?_ ⟨_, List.mem_cons_self, rfl⟩ h
  simp only [ClientTls.layout, List.forall_mem_cons]
  refine ⟨?_, ?_, ?_, ?_, List.forall_mem_nil _⟩
  · refine Layout.tracks_of fun v b s hread => ?_
    cases v <;> cases hread
    rfl
  all_goals exact Layout.tracks_of_ne (by decide) fun _ _ => rfl

end Config

open Config Snapshot

def Extensions.SetsInsecureTls (x : Extensions) (tls : Object) : Prop :=
  (∃ o : Object, x.get? "backend/http/client" = some (.object o) ∧
    o.get? "client_tls" = some (.object tls)) ∧
  tls.get? "allow_insecure_connections" = some (.bool true)

namespace Extension

theorem clientTls?_insecure_iff (o : Object) :
    ((clientTls? o).getD {}).insecureConnections = true ↔
      ∃ tls : Object, o.get? "client_tls" = some (.object tls) ∧
        tls.get? "allow_insecure_connections" = some (.bool true) ∧
          ClientTls.shape.Admits (.object tls) := by
  rw [clientTls?]
  split
  · next tls htls =>
      simp only [htls, Option.some.injEq, Value.object.injEq, exists_eq_left',
        ← ClientTls.accepts_read]
      cases hread : ClientTls.layout.read (Datum.ofValue (.object tls)) with
      | error fault => simp [Reader.Accepts, hread, Except.toOption]
      | ok t =>
          have haccepts : Reader.Accepts ClientTls.layout.read (.object tls) := ⟨t, hread⟩
          rw [Except.toOption, Option.getD_some, ClientTls.insecureConnections_read hread]
          simp only [haccepts, and_true]
          cases Entries.get? tls "allow_insecure_connections" with
          | none => simp
          | some v => cases v <;> simp [Value.bool?]
  · next hother =>
      constructor
      · intro h
        cases h
      · rintro ⟨tls, htls, -⟩
        exact absurd htls (hother tls)

theorem hasBit_httpClient (o : Object) :
    Bits.hasBit (entryAt (httpClient o) 0) HttpClientFlag.insecureConnections.bit =
      ((clientTls? o).getD {}).insecureConnections := by
  rw [httpClient, entryAt, List.getD_cons_zero, Bits.hasBit_ofConditions]
  · simp only [HttpClientFlag.bit, List.any_cons, List.any_nil, Nat.reduceBEq, Bool.and_false,
      Bool.and_true, Bool.false_or, Bool.or_false]
  · simp only [HttpClientFlag.bit, List.forall_mem_cons]
    exact ⟨by decide, by decide, by decide, List.forall_mem_nil _⟩
  · decide

theorem firstHasBit_httpClient_iff (x : Extensions) :
    Check.firstHasBit (components x) Namespace.httpClient
        HttpClientFlag.insecureConnections.bit = true ↔
      ∃ tls, x.SetsInsecureTls tls ∧ ClientTls.shape.Admits (.object tls) := by
  rw [firstHasBit_components_iff rfl x (by decide)]
  simp only [hasBit_httpClient, clientTls?_insecure_iff]
  constructor
  · rintro ⟨o, ho, tls, htls, hflag, hshape⟩
    exact ⟨tls, ⟨⟨o, ho, htls⟩, hflag⟩, hshape⟩
  · rintro ⟨tls, ⟨⟨o, ho, htls⟩, hflag⟩, hshape⟩
    exact ⟨o, ho, tls, htls, hflag, hshape⟩

end Extension

namespace Config

theorem connectsInsecurely_snapshot_iff (c : Config) :
    Check.connectsInsecurely c.snapshot = true ↔
      ∃ b ∈ c.allBackends, ∃ tls,
        b.extensions.SetsInsecureTls tls ∧ ClientTls.shape.Admits (.object tls) := by
  simp only [Check.connectsInsecurely, allBackends_snapshot, List.any_map, List.any_eq_true,
    Function.comp_apply, Backend.snapshot, Extension.firstHasBit_httpClient_iff]

theorem insecureTls_rule_fires_iff (c : Config) :
    ∃ r, Rule.find? "2.1.9" = some r ∧ (r.fires c.snapshot = true ↔
      ∃ b, ((∃ e ∈ c.endpoints, b ∈ e.backends) ∨ ∃ a ∈ c.agents, b ∈ a.backends) ∧
        ∃ tls, b.extensions.SetsInsecureTls tls ∧ ClientTls.shape.Admits (.object tls)) := by
  refine ⟨_, rfl, ?_⟩
  simp only [← mem_allBackends]
  exact c.connectsInsecurely_snapshot_iff

def trusting : Config where
  version := 3
  endpoints := [{
    path := "/internal"
    backends := [{
      extensions := KeyMap.empty.insert "backend/http/client" (.object [
        ("client_tls", .object [
          ("allow_insecure_connections", .bool true),
          ("ca_certs", .string "ca.pem")])]) }] }]

theorem insecureTls_missed_beside_certificate :
    (∃ r, Rule.find? "2.1.9" = some r ∧ r.fires trusting.snapshot = false) ∧
      ∃ e ∈ trusting.endpoints, ∃ b ∈ e.backends, ∃ tls, b.extensions.SetsInsecureTls tls :=
  ⟨⟨_, rfl, rfl⟩, _, List.mem_cons_self, _, List.mem_cons_self, _, ⟨_, rfl, rfl⟩, rfl⟩

end Config

end Gateway
