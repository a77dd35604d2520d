import Gateway.Audit.Rule
import Gateway.Proofs.Snapshot.Plugin
import Gateway.Proofs.Snapshot.Projection

namespace Gateway

open Snapshot

def Extensions.NamesClientPlugin (x : Extensions) (name : String) : Prop :=
  ∃ o : Json.Object,
    x.get? "plugin/http-client" = some (.object o) ∧ o.get? "name" = some (.string name)

theorem Extension.clientPlugin_head?_iff (o : Json.Object) (plugin : ClientPlugin) :
    (clientPlugin o).head? = some plugin.number ↔
      o.get? "name" = some (.string plugin.name) := by
  rw [clientPlugin, text?]
  cases o.get? "name" with
  | none => simp
  | some v => cases v <;> simp [Json.Value.string?, ClientPlugin.numberOf_eq_iff]

theorem Extension.startsWith_clientPlugin_iff (x : Extensions) (plugin : ClientPlugin) :
    Check.startsWith (components x) Namespace.clientPlugin plugin.number = true ↔
      x.NamesClientPlugin plugin.name := by
  rw [startsWith_components_iff rfl]
  simp only [clientPlugin_head?_iff]
  rfl

namespace Config

theorem loadsClientPlugin_snapshot_iff (c : Config) (plugin : ClientPlugin) :
    Check.loadsClientPlugin plugin c.snapshot = true ↔
      ∃ e ∈ c.endpoints, e.extensions.NamesClientPlugin plugin.name := by
  simp only [Check.loadsClientPlugin, snapshot, List.any_map, List.any_eq_true,
    Function.comp_apply, Endpoint.snapshot, Extension.startsWith_clientPlugin_iff]

theorem clientPlugin_rules_fire_iff (c : Config) :
    (∃ r, Rule.find? "7.1.7" = some r ∧ (r.fires c.snapshot = true ↔
      ∃ e ∈ c.endpoints, e.extensions.NamesClientPlugin "no-redirect")) ∧
    ∃ r, Rule.find? "7.1.6" = some r ∧ (r.fires c.snapshot = true ↔
      ∃ e ∈ c.endpoints, e.extensions.NamesClientPlugin "static-filesystem") :=
  ⟨⟨_, rfl, c.loadsClientPlugin_snapshot_iff .noRedirect⟩,
    ⟨_, rfl, c.loadsClientPlugin_snapshot_iff .staticFilesystem⟩⟩

def redirected : Config where
  version := 3
  endpoints := [{
    path := "/moved"
    backends := [{
      extensions := KeyMap.empty.insert "plugin/http-client"
        (.object [("name", .string "no-redirect")]) }] }]

theorem clientPlugin_missed_at_backend :
    (∃ r, Rule.find? "7.1.7" = some r ∧ r.fires redirected.snapshot = false) ∧
      ∃ e ∈ redirected.endpoints, ∃ b ∈ e.backends,
        b.extensions.NamesClientPlugin "no-redirect" :=
  ⟨⟨_, rfl, rfl⟩, _, List.mem_cons_self, _, List.mem_cons_self, _, rfl, rfl⟩

end Config

end Gateway
