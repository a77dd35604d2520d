import Gateway.Audit.Rule
import Gateway.Proofs.Snapshot.Plugin
import Gateway.Proofs.Snapshot.Projection

namespace Gateway

open Json Snapshot

def Extension.Names (o : Object) (name : String) : Prop :=
  o.get? "name" = some (.string name) ∨
    ∃ names, o.get? "name" = some (.array names) ∧ .string name ∈ names

namespace Extensions

def NamesPlugin (x : Extensions) (ns name : String) : Prop :=
  ∃ o : Object, x.get? ns = some (.object o) ∧ Extension.Names o name

def SetsBasicAuth (x : Extensions) : Prop :=
  ∃ o : Object, x.get? "auth/basic" = some (.object o) ∧
    ((∃ users : Object, o.get? "users" = some (.object users) ∧ users ≠ []) ∨
      ∃ path, o.get? "htpasswd_path" = some (.string path) ∧ path ≠ "")

end Extensions

def Rule.FiresIff (id : String) (s : Snapshot) (p : Prop) : Prop :=
  ∃ r, find? id = some r ∧ (r.fires s = true ↔ p)

namespace Extension

section Plugins

variable {bitOf : String → Nat} {bit : Nat} {name : String}

theorem mem_pluginNames?_iff (o : Object) :
    (∃ names, pluginNames? o = some names ∧ name ∈ names) ↔ Names o name := by
  have hstring : ∀ v : Value, v.string? = some name ↔ v = .string name := fun v => by
    cases v <;> simp [Value.string?]
  rw [pluginNames?, Names]
  cases o.get? "name" with
  | none => simp
  | some v => cases v <;> simp [List.mem_filterMap, hstring, eq_comm]

theorem bit_lt (hlt : ∀ n, bitOf n < 64) (hbit : ∀ n, bitOf n = bit ↔ n = name) : bit < 64 :=
  (hbit name).mpr rfl ▸ hlt name

theorem hasBit_pluginBits_iff (hlt : ∀ n, bitOf n < 64) (hbit : ∀ n, bitOf n = bit ↔ n = name)
    (o : Object) :
    Bits.hasBit (entryAt (pluginBits bitOf o) 0) bit = true ↔ Names o name := by
  have hbits : ∀ names : List String, ∀ b ∈ names.map bitOf, b < 64 :=
    fun names => List.forall_mem_map.mpr fun n _ => hlt n
  rw [← mem_pluginNames?_iff, pluginBits]
  cases pluginNames? o with
  | none =>
      have hzero : Bits.hasBit (entryAt [] 0) bit = false := Bits.hasBit_zero (bit_lt hlt hbit)
      simp [hzero]
  | some names =>
      rw [entryAt, List.getD_cons_zero, Bits.hasBit_ofList (hbits names) (bit_lt hlt hbit)]
      simp [hbit]

theorem firstHasBit_pluginBits_iff {ns : String}
    (hns : summaries.lookup ns = some (pluginBits bitOf)) (hlt : ∀ n, bitOf n < 64)
    (hbit : ∀ n, bitOf n = bit ↔ n = name) (x : Extensions) :
    Check.firstHasBit (components x) ns bit = true ↔ x.NamesPlugin ns name := by
  rw [firstHasBit_components_iff hns x (bit_lt hlt hbit)]
  simp only [hasBit_pluginBits_iff hlt hbit]
  rfl

theorem firstHasBit_serverPlugin_iff (plugin : ServerPlugin) (x : Extensions) :
    Check.firstHasBit (components x) Namespace.serverPlugin plugin.bit = true ↔
      x.NamesPlugin "plugin/http-server" plugin.name :=
  firstHasBit_pluginBits_iff rfl (fun n => Nat.lt_trans (ServerPlugin.bitOf_lt n) (by decide))
    (fun n => ServerPlugin.bitOf_eq_iff n plugin) x

theorem firstHasBit_modifierPlugin_iff (plugin : ModifierPlugin) (x : Extensions) :
    Check.firstHasBit (components x) Namespace.modifierPlugin plugin.bit = true ↔
      x.NamesPlugin "plugin/req-resp-modifier" plugin.name :=
  firstHasBit_pluginBits_iff rfl (fun n => Nat.lt_trans (ModifierPlugin.bitOf_lt n) (by decide))
    (fun n => ModifierPlugin.bitOf_eq_iff n plugin) x

end Plugins

theorem any_section?_iff (o : Object) (key : String) :
    ((section? o key).any fun members => !members.isEmpty) = true ↔
      ∃ members : Object, o.get? key = some (.object members) ∧ members ≠ [] := by
  rw [section?]
  cases o.get? key with
  | none => simp
  | some v => cases v <;> simp [Value.object?]

theorem hasText_iff (o : Object) (key : String) :
    hasText o key = true ↔ ∃ text, o.get? key = some (.string text) ∧ text ≠ "" := by
  rw [hasText, text?]
  cases o.get? key with
  | none => simp
  | some v => cases v <;> simp [Value.string?]

theorem hasBit_indicator (b : Bool) : Bits.hasBit (indicator b) 0 = b := by
  cases b <;> decide

theorem firstHasBit_basicAuth_iff (x : Extensions) :
    Check.firstHasBit (components x) Namespace.basicAuth 0 = true ↔ x.SetsBasicAuth := by
  rw [firstHasBit_components_iff rfl x (by decide)]
  refine exists_congr fun o => and_congr_right fun _ => ?_
  rw [basicAuth, entryAt, List.getD_cons_zero, hasBit_indicator, Bool.or_eq_true,
    any_section?_iff, hasText_iff]

end Extension

namespace Config

def Endpoint.NamesModifier (e : Endpoint) (name : String) : Prop :=
  e.extensions.NamesPlugin "plugin/req-resp-modifier" name ∨
    ∃ b ∈ e.backends, b.extensions.NamesPlugin "plugin/req-resp-modifier" name

structure LacksRateLimit (c : Config) : Prop where
  router : c.extensions.contains "qos/ratelimit/router" = false
  service : c.extensions.contains "qos/ratelimit/service" = false
  plugin : ¬c.extensions.NamesPlugin "plugin/http-server" "redis-ratelimit"
  endpointRouter : ∀ e ∈ c.endpoints, e.extensions.contains "qos/ratelimit/router" = false
  endpointProxy : ∀ e ∈ c.endpoints, e.extensions.contains "qos/ratelimit/proxy" = false
  backendProxy : ∀ e ∈ c.endpoints, ∀ b ∈ e.backends,
    b.extensions.contains "qos/ratelimit/proxy" = false

variable (c : Config)

theorem loadsServerPlugin_snapshot_iff (plugin : ServerPlugin) :
    Check.loadsServerPlugin plugin c.snapshot = true ↔
      c.extensions.NamesPlugin "plugin/http-server" plugin.name :=
  Extension.firstHasBit_serverPlugin_iff plugin c.extensions

theorem loadsModifierPlugin_snapshot_iff (plugin : ModifierPlugin) :
    Check.loadsModifierPlugin plugin c.snapshot = true ↔
      ∃ e ∈ c.endpoints, e.NamesModifier plugin.name := by
  simp only [Check.loadsModifierPlugin, snapshot, Endpoint.snapshot, Backend.snapshot,
    List.any_map, List.any_eq_true, Function.comp_apply, Bool.or_eq_true,
    Extension.firstHasBit_modifierPlugin_iff]
  rfl

theorem usesBasicAuth_snapshot_iff :
    Check.usesBasicAuth c.snapshot = true ↔
      c.extensions.NamesPlugin "plugin/http-server" "basic-auth" ∨
        c.extensions.SetsBasicAuth ∨ ∃ e ∈ c.endpoints, e.extensions.SetsBasicAuth := by
  rw [Check.usesBasicAuth, Bool.or_eq_true, Bool.or_eq_true, loadsServerPlugin_snapshot_iff,
    or_assoc]
  simp only [snapshot, Endpoint.snapshot, List.any_map, List.any_eq_true, Function.comp_apply,
    Extension.firstHasBit_basicAuth_iff]
  rfl

theorem lacksRateLimit_snapshot_iff :
    Check.lacksRateLimit c.snapshot = true ↔ c.LacksRateLimit := by
  have hplugin : Check.loadsServerPlugin .redisRateLimit c.snapshot = false ↔
      ¬c.extensions.NamesPlugin "plugin/http-server" "redis-ratelimit" := by
    rw [← Bool.not_eq_true, loadsServerPlugin_snapshot_iff]
    rfl
  simp only [Check.lacksRateLimit, Bool.not_eq_true', Bool.or_eq_false_iff, hplugin,
    attached_snapshot, List.any_eq_false, Bool.not_eq_true]
  simp only [snapshot, Endpoint.snapshot, Backend.snapshot, List.forall_mem_map,
    Extension.contains_components]
  constructor
  · rintro ⟨⟨⟨hrouter, hservice⟩, hnames⟩, hendpoints⟩
    exact ⟨hrouter, hservice, hnames, fun e he => (hendpoints e he).1.1,
      fun e he => (hendpoints e he).1.2, fun e he => (hendpoints e he).2⟩
  · intro h
    exact ⟨⟨⟨h.router, h.service⟩, h.plugin⟩,
      fun e he => ⟨⟨h.endpointRouter e he, h.endpointProxy e he⟩, h.backendProxy e he⟩⟩

theorem plugin_rules_fire_iff :
    Rule.FiresIff "7.1.3" c.snapshot (c.extensions.NamesPlugin "plugin/http-server" "basic-auth") ∧
    Rule.FiresIff "7.1.4" c.snapshot
      (c.extensions.NamesPlugin "plugin/http-server" "static-filesystem") ∧
    Rule.FiresIff "7.1.5" c.snapshot (c.extensions.NamesPlugin "plugin/http-server" "virtualhost") ∧
    Rule.FiresIff "7.1.8" c.snapshot
      (∃ e ∈ c.endpoints, e.NamesModifier "response-schema-validator") ∧
    Rule.FiresIff "7.1.9" c.snapshot (∃ e ∈ c.endpoints, e.NamesModifier "content-replacer") ∧
    Rule.FiresIff "1.1.1" c.snapshot
      (c.extensions.NamesPlugin "plugin/http-server" "basic-auth" ∨
        c.extensions.SetsBasicAuth ∨ ∃ e ∈ c.endpoints, e.extensions.SetsBasicAuth) ∧
    Rule.FiresIff "3.1.2" c.snapshot c.LacksRateLimit :=
  ⟨⟨_, rfl, c.loadsServerPlugin_snapshot_iff .basicAuth⟩,
    ⟨_, rfl, c.loadsServerPlugin_snapshot_iff .staticFilesystem⟩,
    ⟨_, rfl, c.loadsServerPlugin_snapshot_iff .virtualHost⟩,
    ⟨_, rfl, c.loadsModifierPlugin_snapshot_iff .responseSchemaValidator⟩,
    ⟨_, rfl, c.loadsModifierPlugin_snapshot_iff .contentReplacer⟩,
    ⟨_, rfl, c.usesBasicAuth_snapshot_iff⟩,
    ⟨_, rfl, c.lacksRateLimit_snapshot_iff⟩⟩

end Config

end Gateway
