import Gateway.Proofs.Audit.Presence
import Gateway.Proofs.Snapshot.Projection

namespace Gateway

def Extensions.withoutSettings (x : Extensions) : Extensions :=
  x.map fun _ _ => .null

theorem Extensions.contains_withoutSettings (x : Extensions) (ns : String) :
    x.withoutSettings.contains ns = x.contains ns :=
  KeyMap.contains_map _ x ns

theorem Extensions.withoutSettings_eq_iff (x y : Extensions) :
    x.withoutSettings = y.withoutSettings ↔ ∀ ns, x.contains ns = y.contains ns := by
  constructor
  · intro h ns
    rw [← x.contains_withoutSettings, h, y.contains_withoutSettings]
  · intro h
    ext1 ns
    have hns := h ns
    rw [withoutSettings, withoutSettings, KeyMap.get?_map, KeyMap.get?_map]
    rw [KeyMap.contains, KeyMap.contains] at hns
    cases hx : x.get? ns <;> cases hy : y.get? ns <;> simp_all

theorem Extension.components_withoutSettings_bare (x : Extensions) :
    (components x.withoutSettings).bare = (components x).bare := by
  ext1 ns
  rw [Components.bare, Components.bare, KeyMap.get?_map, KeyMap.get?_map, get?_components,
    get?_components, Extensions.withoutSettings, KeyMap.get?_map]
  cases x.get? ns <;> rfl

namespace Config

def Backend.withoutSettings (b : Backend) : Backend :=
  { b with extensions := b.extensions.withoutSettings }

def Agent.withoutSettings (a : Agent) : Agent :=
  { a with
    backends := a.backends.map (·.withoutSettings)
    extensions := a.extensions.withoutSettings }

def Endpoint.withoutSettings (e : Endpoint) : Endpoint :=
  { e with
    backends := e.backends.map (·.withoutSettings)
    extensions := e.extensions.withoutSettings }

def withoutSettings (c : Config) : Config :=
  { c with
    endpoints := c.endpoints.map (·.withoutSettings)
    agents := c.agents.map (·.withoutSettings)
    extensions := c.extensions.withoutSettings }

open Extension

theorem Backend.snapshot_withoutSettings (b : Backend) :
    b.withoutSettings.snapshot.mapComponents Components.bare =
      b.snapshot.mapComponents Components.bare :=
  congrArg (Snapshot.Backend.mk [b.shape]) (components_withoutSettings_bare b.extensions)

theorem Backend.isUnsafe_withoutSettings (b : Backend) :
    b.withoutSettings.isUnsafe = b.isUnsafe := by
  simp only [isUnsafe, withoutSettings, Extensions.contains_withoutSettings]

theorem Agent.snapshot_withoutSettings (a : Agent) :
    a.withoutSettings.snapshot.mapComponents Components.bare =
      a.snapshot.mapComponents Components.bare := by
  simp only [snapshot, withoutSettings, Snapshot.Agent.mapComponents, List.map_map,
    Function.comp_def, Backend.snapshot_withoutSettings, components_withoutSettings_bare]

theorem Endpoint.snapshot_withoutSettings (e : Endpoint) :
    e.withoutSettings.snapshot.mapComponents Components.bare =
      e.snapshot.mapComponents Components.bare := by
  have hcalls : (e.backends.map (·.withoutSettings)).countP (·.isUnsafe) =
      e.backends.countP (·.isUnsafe) := by
    rw [List.countP_map]
    exact List.countP_congr fun b _ => by rw [Function.comp_apply, b.isUnsafe_withoutSettings]
  simp only [snapshot, withoutSettings, hcalls, wildcards, Snapshot.Endpoint.mapComponents,
    List.map_map, Function.comp_def, Backend.snapshot_withoutSettings,
    components_withoutSettings_bare]

theorem snapshot_withoutSettings (c : Config) :
    c.withoutSettings.snapshot.bare = c.snapshot.bare := by
  simp only [snapshot, withoutSettings, Snapshot.bare, Snapshot.mapComponents, List.map_map,
    Function.comp_def, Agent.snapshot_withoutSettings, Endpoint.snapshot_withoutSettings,
    components_withoutSettings_bare]
  rfl

theorem fires_eq_of_withoutSettings_eq {c d : Config} (h : c.withoutSettings = d.withoutSettings)
    {r : Rule} (hr : r ∈ Rule.all) (hid : r.id ∉ Rule.readingSettings) :
    r.fires c.snapshot = r.fires d.snapshot := by
  have hfires := Rule.ignoresSettings hr hid
  calc r.fires c.snapshot
    _ = r.fires c.snapshot.bare := (hfires c.snapshot).symm
    _ = r.fires c.withoutSettings.snapshot.bare := by rw [snapshot_withoutSettings]
    _ = r.fires d.withoutSettings.snapshot.bare := by rw [h]
    _ = r.fires d.snapshot.bare := by rw [snapshot_withoutSettings]
    _ = r.fires d.snapshot := hfires d.snapshot

def guarded (settings : Json.Value) : Config :=
  let extensions (ns : String) : Extensions := KeyMap.empty.insert ns settings
  { version := 3
    endpoints := [{
      path := "/reports"
      backends := [{ method := "GET", extensions := extensions "backend/grpc" }, {
        method := "PUT", extensions := extensions "qos/circuit-breaker" }]
      extensions := extensions "auth/validator" }]
    agents := [{
      name := "archive"
      backends := [{ extensions := extensions "qos/http-cache" }]
      extensions := extensions "async/kafka" }]
    extensions := extensions "security/cors" }

theorem fires_eq_of_withoutSettings_eq_guarded :
    (guarded .null).withoutSettings = (guarded (.object [("name", .bool true)])).withoutSettings ∧
    ∃ r, Rule.find? "3.1.3" = some r ∧ r ∈ Rule.all ∧ r.id ∉ Rule.readingSettings ∧
      r.fires (guarded .null).snapshot =
        r.fires (guarded (.object [("name", .bool true)])).snapshot := by
  have h : (guarded .null).withoutSettings =
      (guarded (.object [("name", .bool true)])).withoutSettings := rfl
  obtain ⟨r, hr⟩ : ∃ r, Rule.find? "3.1.3" = some r := ⟨_, rfl⟩
  obtain ⟨hall, hid⟩ := Rule.of_find? hr
  have hnot : r.id ∉ Rule.readingSettings := by
    rw [hid]
    decide
  exact ⟨h, r, hr, hall, hnot, fires_eq_of_withoutSettings_eq h hall hnot⟩

end Config

end Gateway
