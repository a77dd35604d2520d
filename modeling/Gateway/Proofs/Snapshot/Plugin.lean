import Gateway.Snapshot.Plugin

namespace Gateway.Snapshot

section Numbered

variable {α β : Type} {ofName? : String → Option α} {name : α → String} {number : α → β} {other : β}

theorem numbered_eq_iff (hname : ∀ n p, ofName? n = some p ↔ n = name p)
    (hnumber : ∀ p q, number p = number q → p = q) (hother : ∀ p, other ≠ number p)
    (n : String) (p : α) : ((ofName? n).map number).getD other = number p ↔ n = name p := by
  rw [← hname]
  cases ofName? n with
  | none => simpa using hother p
  | some q =>
      rw [Option.map_some, Option.getD_some, Option.some.injEq]
      exact ⟨hnumber q p, congrArg number⟩

theorem numbered_of {P : β → Prop} (hother : P other) (hnumber : ∀ p, P (number p)) (n : String) :
    P (((ofName? n).map number).getD other) := by
  cases ofName? n with
  | none => exact hother
  | some p => exact hnumber p

end Numbered

namespace ServerPlugin

def name : ServerPlugin → String
  | .staticFilesystem => "static-filesystem"
  | .basicAuth => "basic-auth"
  | .geoIp => "geoip"
  | .redisRateLimit => "redis-ratelimit"
  | .urlRewrite => "url-rewrite"
  | .virtualHost => "virtualhost"
  | .wildcard => "wildcard"
  | .ipFilter => "ip-filter"
  | .jwkAggregator => "jwk-aggregator"

theorem ofName?_eq_some_iff (n : String) (plugin : ServerPlugin) :
    ofName? n = some plugin ↔ n = plugin.name := by
  constructor
  · intro h
    unfold ofName? at h
    split at h
    case h_10 => cases h
    all_goals
      obtain rfl := Option.some.inj h
      rfl
  · rintro rfl
    cases plugin <;> rfl

theorem bit_injective (p q : ServerPlugin) (h : p.bit = q.bit) : p = q := by
  revert h
  cases p <;> cases q <;> decide

theorem bitOf_eq_iff (n : String) (plugin : ServerPlugin) :
    bitOf n = plugin.bit ↔ n = plugin.name :=
  numbered_eq_iff ofName?_eq_some_iff bit_injective (fun p => by cases p <;> decide) n plugin

theorem bitOf_lt (n : String) : bitOf n < 10 :=
  numbered_of (P := (· < 10)) (by decide) (fun p => by cases p <;> decide) n

end ServerPlugin

namespace ModifierPlugin

def name : ModifierPlugin → String
  | .responseSchemaValidator => "response-schema-validator"
  | .contentReplacer => "content-replacer"

theorem ofName?_eq_some_iff (n : String) (plugin : ModifierPlugin) :
    ofName? n = some plugin ↔ n = plugin.name := by
  constructor
  · intro h
    unfold ofName? at h
    split at h
    case h_3 => cases h
    all_goals
      obtain rfl := Option.some.inj h
      rfl
  · rintro rfl
    cases plugin <;> rfl

theorem bit_injective (p q : ModifierPlugin) (h : p.bit = q.bit) : p = q := by
  revert h
  cases p <;> cases q <;> decide

theorem bitOf_eq_iff (n : String) (plugin : ModifierPlugin) :
    bitOf n = plugin.bit ↔ n = plugin.name :=
  numbered_eq_iff ofName?_eq_some_iff bit_injective (fun p => by cases p <;> decide) n plugin

theorem bitOf_lt (n : String) : bitOf n < 3 :=
  numbered_of (P := (· < 3)) (by decide) (fun p => by cases p <;> decide) n

end ModifierPlugin

namespace ClientPlugin

def name : ClientPlugin → String
  | .noRedirect => "no-redirect"
  | .httpLogger => "http-logger"
  | .staticFilesystem => "static-filesystem"
  | .httpProxy => "http-proxy"

theorem ofName?_eq_some_iff (n : String) (plugin : ClientPlugin) :
    ofName? n = some plugin ↔ n = plugin.name := by
  constructor
  · intro h
    unfold ofName? at h
    split at h
    case h_5 => cases h
    all_goals
      obtain rfl := Option.some.inj h
      rfl
  · rintro rfl
    cases plugin <;> rfl

theorem number_injective (p q : ClientPlugin) (h : p.number = q.number) : p = q := by
  revert h
  cases p <;> cases q <;> decide

theorem numberOf_eq_iff (n : String) (plugin : ClientPlugin) :
    numberOf n = plugin.number ↔ n = plugin.name :=
  numbered_eq_iff ofName?_eq_some_iff number_injective (fun p => by cases p <;> decide) n plugin

end ClientPlugin

end Gateway.Snapshot
