import Gateway.Proofs.Audit.Reading
import Gateway.Proofs.Snapshot.Projection

namespace Gateway

namespace Extension

open Json

inductive SameMember : String × Value → String × Value → Prop
  | refl (m : String × Value) : SameMember m m
  | names {xs ys : List Value} (h : xs.Perm ys) :
      SameMember ("name", .array xs) ("name", .array ys)

def namingPlugins : List String :=
  ["plugin/http-server", "plugin/req-resp-modifier"]

inductive SameSettings : String × Value → String × Value → Prop
  | refl (e : String × Value) : SameSettings e e
  | plugins {ns : String} {o p : Object} (hns : ns ∈ namingPlugins)
      (h : List.Forall₂ SameMember o p) : SameSettings (ns, .object o) (ns, .object p)

theorem get?_name_of_forall₂ {o p : Object} (h : List.Forall₂ SameMember o p) :
    o.get? "name" = p.get? "name" ∨
      ∃ xs ys, o.get? "name" = some (.array xs) ∧ p.get? "name" = some (.array ys) ∧
        xs.Perm ys := by
  induction h with
  | nil => exact .inl rfl
  | cons hm _ ih =>
      cases hm with
      | names hperm => exact .inr ⟨_, _, rfl, rfl, hperm⟩
      | refl =>
          rw [Entries.get?_cons, Entries.get?_cons]
          split
          · exact .inl rfl
          · exact ih

theorem pluginBits_eq_of_forall₂ (bitOf : String → Nat) {o p : Object}
    (h : List.Forall₂ SameMember o p) : pluginBits bitOf o = pluginBits bitOf p := by
  rcases get?_name_of_forall₂ h with hsame | ⟨xs, ys, hxs, hys, hperm⟩
  · simp only [pluginBits, pluginNames?, hsame]
  · have hbits := Bits.ofList_perm ((hperm.filterMap Value.string?).map bitOf)
    simp only [pluginBits, pluginNames?, hxs, hys, hbits]

theorem SameSettings.summary_eq {d e : String × Value} (h : SameSettings d e) :
    (d.1, summary d.1 d.2) = (e.1, summary e.1 e.2) := by
  cases h with
  | refl => rfl
  | @plugins ns o p hns h =>
      refine congrArg (Prod.mk ns) ?_
      simp only [namingPlugins, List.mem_cons, List.not_mem_nil, or_false] at hns
      rcases hns with rfl | rfl
      · exact pluginBits_eq_of_forall₂ Snapshot.ServerPlugin.bitOf h
      · exact pluginBits_eq_of_forall₂ Snapshot.ModifierPlugin.bitOf h

end Extension

def Extensions.Rearranged (x y : Extensions) : Prop :=
  List.Forall₂ Extension.SameSettings x.entries y.entries

theorem Extensions.Rearranged.components_eq {x y : Extensions} (h : x.Rearranged y) :
    Extension.components x = Extension.components y := by
  have hentries : (x.entries.map fun e => (e.1, Extension.summary e.1 e.2)) =
      y.entries.map fun e => (e.1, Extension.summary e.1 e.2) := by
    rw [← List.forall₂_eq_eq_eq, List.forall₂_map_left_iff, List.forall₂_map_right_iff]
    exact h.imp fun _ _ => Extension.SameSettings.summary_eq
  simp only [Extension.components, KeyMap.map, hentries]

theorem Extensions.Rearranged.contains_eq {x y : Extensions} (h : x.Rearranged y) (ns : String) :
    x.contains ns = y.contains ns := by
  rw [← Extension.contains_components, h.components_eq, Extension.contains_components]

namespace Config

inductive Backend.Rearranged : Backend → Backend → Prop
  | intro (b : Backend) {x : Extensions} (hx : b.extensions.Rearranged x) :
      Rearranged b { b with extensions := x }

inductive Agent.Rearranged : Agent → Agent → Prop
  | intro (a : Agent) {bs : List Backend} {x : Extensions}
      (hbs : Shuffled Backend.Rearranged a.backends bs) (hx : a.extensions.Rearranged x) :
      Rearranged a { a with backends := bs, extensions := x }

inductive Endpoint.Rearranged : Endpoint → Endpoint → Prop
  | intro (e : Endpoint) {qs hs : List String} {bs : List Backend} {x : Extensions}
      (hqs : e.queryStrings.Perm qs) (hhs : e.headers.Perm hs)
      (hbs : Shuffled Backend.Rearranged e.backends bs) (hx : e.extensions.Rearranged x) :
      Rearranged e { e with queryStrings := qs, headers := hs, backends := bs, extensions := x }

inductive Rearranged : Config → Config → Prop
  | intro (c : Config) {es : List Endpoint} {as : List Agent} {x : Extensions}
      (hes : Shuffled Endpoint.Rearranged c.endpoints es)
      (has : Shuffled Agent.Rearranged c.agents as) (hx : c.extensions.Rearranged x) :
      Rearranged c { c with endpoints := es, agents := as, extensions := x }

section Snapshot

theorem Backend.Rearranged.snapshot_eq {b d : Backend} (h : b.Rearranged d) :
    b.snapshot = d.snapshot := by
  cases h with
  | intro hx => exact congrArg (Snapshot.Backend.mk [b.shape]) hx.components_eq

theorem Backend.Rearranged.isUnsafe_eq {b d : Backend} (h : b.Rearranged d) :
    b.isUnsafe = d.isUnsafe := by
  cases h with
  | intro hx => simp only [Backend.isUnsafe, hx.contains_eq]

theorem Agent.Rearranged.snapshot {a b : Agent} (h : a.Rearranged b) :
    a.snapshot.Rearranged b.snapshot := by
  cases h with
  | intro hbs hx =>
      exact ⟨rfl, hbs.perm_map fun _ _ => Backend.Rearranged.snapshot_eq, hx.components_eq⟩

theorem Endpoint.Rearranged.wildcards_eq {d e : Endpoint} (h : d.Rearranged e) :
    d.wildcards = e.wildcards := by
  cases h with
  | intro hqs hhs => simp only [Endpoint.wildcards, hqs.contains_eq, hhs.contains_eq]

theorem Endpoint.Rearranged.snapshot {d e : Endpoint} (h : d.Rearranged e) :
    d.snapshot.Rearranged e.snapshot := by
  have hwildcards := h.wildcards_eq
  cases h with
  | intro hqs hhs hbs hx =>
      have hcalls := hbs.countP_eq fun _ _ => Backend.Rearranged.isUnsafe_eq
      refine ⟨?_, hbs.perm_map fun _ _ => Backend.Rearranged.snapshot_eq, hx.components_eq⟩
      simp only [Endpoint.snapshot, hqs.length_eq, hhs.length_eq, hwildcards, hcalls]

theorem Rearranged.snapshot {c d : Config} (h : c.Rearranged d) :
    c.snapshot.Rearranged d.snapshot := by
  cases h with
  | intro hes has hx =>
      have hagents := has.map (S := Snapshot.Agent.Rearranged) fun _ _ => Agent.Rearranged.snapshot
      have hendpoints :=
        hes.map (S := Snapshot.Endpoint.Rearranged) fun _ _ => Endpoint.Rearranged.snapshot
      exact ⟨⟨rfl, hagents, hx.components_eq⟩, hendpoints⟩

end Snapshot

section Defaults

theorem Backend.Rearranged.withDefaults {b d : Backend} (h : b.Rearranged d) (method : String) :
    (b.withDefaults method).Rearranged (d.withDefaults method) := by
  cases h with
  | intro hx => exact .intro (b.withDefaults method) hx

theorem Agent.Rearranged.withDefaults {a b : Agent} (h : a.Rearranged b) :
    a.withDefaults.Rearranged b.withDefaults := by
  cases h with
  | intro hbs hx =>
      refine .intro a.withDefaults (hbs.map ?_) hx
      intro b d hbd
      cases hbd with
      | intro hx => exact .intro _ hx

theorem Endpoint.Rearranged.withDefaults {d e : Endpoint} (h : d.Rearranged e)
    (timeout encoding : String) :
    (d.withDefaults timeout encoding).Rearranged (e.withDefaults timeout encoding) := by
  cases h with
  | intro hqs hhs hbs hx =>
      exact .intro (d.withDefaults timeout encoding) hqs hhs
        (hbs.map fun _ _ h => h.withDefaults _) hx

theorem Rearranged.withDefaults {c d : Config} (h : c.Rearranged d) :
    c.withDefaults.Rearranged d.withDefaults := by
  cases h with
  | intro hes has hx =>
      exact .intro c.withDefaults (hes.map fun _ _ h => h.withDefaults _ _)
        (has.map fun _ _ h => h.withDefaults) hx

end Defaults

theorem Rearranged.recommendations_eq {c d : Config} (h : c.Rearranged d) (t : Settings) :
    (c.audit t).recommendations = (d.audit t).recommendations :=
  h.snapshot.audit_eq t

theorem audit_rearranged {c d : Config} (h : c.Rearranged d) (t : Settings) :
    (c.audit t).recommendations = (d.audit t).recommendations ∧
      (c.withDefaults.audit t).recommendations = (d.withDefaults.audit t).recommendations :=
  ⟨h.recommendations_eq t, h.withDefaults.recommendations_eq t⟩

section Shop

def loading (ns : String) (plugins : List String) : Extensions :=
  KeyMap.empty.insert ns (.object [("name", .array (plugins.map .string))])

def ordering : Backend where
  method := "POST"
  extensions := loading "plugin/req-resp-modifier" ["own", "content-replacer"]

def orderingAgain : Backend where
  method := "POST"
  extensions := loading "plugin/req-resp-modifier" ["content-replacer", "own"]

def orders : Endpoint where
  path := "/orders/*"
  queryStrings := ["page", "*"]
  headers := ["Accept", "*"]
  backends := [ordering, { method := "PUT" }]

def ordersAgain : Endpoint where
  path := "/orders/*"
  queryStrings := ["*", "page"]
  headers := ["*", "Accept"]
  backends := [{ method := "PUT" }, orderingAgain]

def shop : Config where
  version := 3
  endpoints := [orders, { path := "/__catchall" }]
  agents := [{ name := "mail", backends := [ordering] }, { name := "bills" }]
  extensions := loading "plugin/http-server" ["geoip", "basic-auth"]

def shopAgain : Config where
  version := 3
  endpoints := [{ path := "/__catchall" }, ordersAgain]
  agents := [{ name := "bills" }, { name := "mail", backends := [orderingAgain] }]
  extensions := loading "plugin/http-server" ["basic-auth", "geoip"]

theorem loading_rearranged {ns : String} (hns : ns ∈ Extension.namingPlugins) (a b : String) :
    (loading ns [a, b]).Rearranged (loading ns [b, a]) :=
  .cons (.plugins hns (.cons (.names (List.Perm.swap _ _ [])) .nil)) .nil

theorem ordering_rearranged : ordering.Rearranged orderingAgain :=
  .intro ordering (loading_rearranged (by decide) "own" "content-replacer")

theorem orders_rearranged : orders.Rearranged ordersAgain := by
  have hbackends : Shuffled Backend.Rearranged orders.backends ordersAgain.backends := by
    refine ⟨[{ method := "PUT" }, ordering], List.Perm.swap _ _ [], .cons ?_ (.cons ?_ .nil)⟩
    · exact .intro { method := "PUT" } .nil
    · exact ordering_rearranged
  exact .intro orders (List.Perm.swap _ _ []) (List.Perm.swap _ _ []) hbackends .nil

theorem shop_rearranged : shop.Rearranged shopAgain := by
  refine .intro shop ?_ ?_ (loading_rearranged (by decide) "geoip" "basic-auth")
  · refine ⟨[{ path := "/__catchall" }, orders], List.Perm.swap _ _ [], .cons ?_ (.cons ?_ .nil)⟩
    · exact .intro { path := "/__catchall" } (List.Perm.refl _) (List.Perm.refl _)
        ⟨[], List.Perm.refl _, .nil⟩ .nil
    · exact orders_rearranged
  · refine ⟨[{ name := "bills" }, { name := "mail", backends := [ordering] }],
      List.Perm.swap _ _ [], .cons ?_ (.cons ?_ .nil)⟩
    · exact .intro { name := "bills" } ⟨[], List.Perm.refl _, .nil⟩ .nil
    · exact .intro { name := "mail", backends := [ordering] }
        ⟨[ordering], List.Perm.refl _, .cons ordering_rearranged .nil⟩ .nil

theorem audit_rearranged_shop :
    shop.Rearranged shopAgain ∧
      (shop.audit {}).recommendations = (shopAgain.audit {}).recommendations ∧
      (shop.withDefaults.audit {}).recommendations =
        (shopAgain.withDefaults.audit {}).recommendations :=
  ⟨shop_rearranged, audit_rearranged shop_rearranged {}⟩

end Shop

end Config

end Gateway
