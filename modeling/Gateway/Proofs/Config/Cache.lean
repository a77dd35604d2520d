import Gateway.Audit.Rule
import Gateway.Proofs.Binary64.Whole
import Gateway.Proofs.Snapshot.Projection
import Mathlib.Data.List.Forall2

namespace Gateway

open Json Snapshot

namespace Extension

def Limits (o : Object) (key : String) : Prop :=
  ∃ n : Number, o.get? key = some (.number n) ∧ n.toDouble.isPositive = true

def Unlimited : Value → Prop
  | .object o => ¬Limits o "max_items" ∨ ¬Limits o "max_size"
  | _ => True

def SameLimits (v w : Value) : Prop :=
  v.object?.isSome = w.object?.isSome ∧
    ∀ key ∈ ["max_items", "max_size"],
      v.object?.bind (·.get? key) = w.object?.bind (·.get? key)

end Extension

open Extension

def Extensions.CachesWithoutLimit (x : Extensions) : Prop :=
  ∃ v, x.get? "qos/http-cache" = some v ∧ Unlimited v

def Extensions.SameCacheLimits (x y : Extensions) : Prop :=
  Option.Rel SameLimits (x.get? "qos/http-cache") (y.get? "qos/http-cache")

def Config.SameCacheLimits (c d : Config) : Prop :=
  List.Forall₂ (fun a b => a.extensions.SameCacheLimits b.extensions) c.allBackends d.allBackends

namespace Extension

theorem isPositive_iff (o : Object) (key : String) :
    isPositive o key = true ↔ Limits o key := by
  rw [isPositive, positive?, number?, Limits]
  cases o.get? key with
  | none => simp
  | some v => cases v <;> simp [Value.double?, Option.isSome_filter]

theorem hasBit_httpCache (o : Object) :
    Bits.hasBit (entryAt (httpCache o) 0) CacheFlag.maxItems.bit = isPositive o "max_items" ∧
      Bits.hasBit (entryAt (httpCache o) 0) CacheFlag.maxSize.bit = isPositive o "max_size" := by
  have hbits : ∀ c ∈ trueBits o [("shared", CacheFlag.shared.bit)] ++
      [(isPositive o "max_items", CacheFlag.maxItems.bit),
        (isPositive o "max_size", CacheFlag.maxSize.bit)], c.2 < 64 := by
    simp [trueBits, CacheFlag.bit]
  rw [httpCache, entryAt, List.getD_cons_zero, Bits.hasBit_ofConditions hbits (by decide),
    Bits.hasBit_ofConditions hbits (by decide)]
  simp [trueBits, CacheFlag.bit]

theorem unlimited_iff (v : Value) :
    (!Bits.hasBit (entryAt (summary Namespace.httpCache v) 0) CacheFlag.maxItems.bit ||
      !Bits.hasBit (entryAt (summary Namespace.httpCache v) 0) CacheFlag.maxSize.bit) = true ↔
        Unlimited v := by
  have hzero : Bits.hasBit (entryAt [] 0) CacheFlag.maxItems.bit = false :=
    Bits.hasBit_zero (by decide)
  rw [summary_eq rfl]
  cases v with
  | object o =>
      obtain ⟨hitems, hsize⟩ := hasBit_httpCache o
      simp only [Value.object?, Option.map_some, Option.getD_some, hitems, hsize, Unlimited,
        ← isPositive_iff, Bool.or_eq_true, Bool.not_eq_true', Bool.not_eq_true]
  | _ => simp [Value.object?, hzero, Unlimited]

theorem SameLimits.unlimited_iff {v w : Value} (h : SameLimits v w) :
    Unlimited v ↔ Unlimited w := by
  obtain ⟨hobject, hlimits⟩ := h
  have hitems := hlimits "max_items" (by decide)
  have hsize := hlimits "max_size" (by decide)
  cases v <;> cases w <;> simp_all [Value.object?, Unlimited, Limits]

end Extension

namespace Extensions

theorem cachesWithoutLimit_iff (x : Extensions) :
    (match (components x).get? Namespace.httpCache with
      | some values =>
          !Bits.hasBit (entryAt values 0) CacheFlag.maxItems.bit ||
            !Bits.hasBit (entryAt values 0) CacheFlag.maxSize.bit
      | none => false) = true ↔ x.CachesWithoutLimit := by
  have hname : x.get? "qos/http-cache" = x.get? Namespace.httpCache := rfl
  rw [get?_components, CachesWithoutLimit, hname]
  cases x.get? Namespace.httpCache with
  | none => simp
  | some v =>
      simp only [Option.map_some, Option.some.injEq, exists_eq_left']
      exact unlimited_iff v

theorem SameCacheLimits.cachesWithoutLimit_iff {x y : Extensions} (h : x.SameCacheLimits y) :
    x.CachesWithoutLimit ↔ y.CachesWithoutLimit := by
  rw [SameCacheLimits] at h
  rw [CachesWithoutLimit, CachesWithoutLimit]
  generalize x.get? "qos/http-cache" = v, y.get? "qos/http-cache" = w at h ⊢
  cases h with
  | none => rfl
  | some hlimits =>
      simp only [Option.some.injEq, exists_eq_left']
      exact hlimits.unlimited_iff

end Extensions

namespace Config

theorem cachesWithoutLimit_snapshot_iff (c : Config) :
    Check.cachesWithoutLimit c.snapshot = true ↔
      ∃ b ∈ c.allBackends, b.extensions.CachesWithoutLimit := by
  simp only [Check.cachesWithoutLimit, allBackends_snapshot, List.any_map, List.any_eq_true,
    Function.comp_apply, Backend.snapshot]
  exact exists_congr fun b => and_congr_right fun _ => b.extensions.cachesWithoutLimit_iff

theorem SameCacheLimits.exists_cachesWithoutLimit_iff {c d : Config} (h : c.SameCacheLimits d) :
    (∃ a ∈ c.allBackends, a.extensions.CachesWithoutLimit) ↔
      ∃ b ∈ d.allBackends, b.extensions.CachesWithoutLimit := by
  rw [SameCacheLimits] at h
  generalize c.allBackends = as, d.allBackends = bs at h ⊢
  induction h with
  | nil => simp
  | cons hab _ ih =>
      rw [List.exists_mem_cons_iff, List.exists_mem_cons_iff, hab.cachesWithoutLimit_iff, ih]

theorem cacheLimit_rule_fires_iff :
    ∃ r, Rule.find? "3.2.1" = some r ∧
      (∀ c : Config, r.fires c.snapshot = true ↔
        ∃ b, ((∃ e ∈ c.endpoints, b ∈ e.backends) ∨ ∃ a ∈ c.agents, b ∈ a.backends) ∧
          b.extensions.CachesWithoutLimit) ∧
      (∀ c d : Config, c.SameCacheLimits d → r.fires c.snapshot = r.fires d.snapshot) ∧
      ∀ i : Int, (Number.integer i).toDouble.isPositive = true ↔ 0 < i := by
  refine ⟨_, rfl, ?_, ?_, Double.isPositive_ofInt_iff⟩
  · intro c
    simp only [← mem_allBackends]
    exact c.cachesWithoutLimit_snapshot_iff
  · intro c d h
    rw [Bool.eq_iff_iff]
    calc Check.cachesWithoutLimit c.snapshot = true
      _ ↔ ∃ b ∈ c.allBackends, b.extensions.CachesWithoutLimit :=
          c.cachesWithoutLimit_snapshot_iff
      _ ↔ ∃ b ∈ d.allBackends, b.extensions.CachesWithoutLimit :=
          h.exists_cachesWithoutLimit_iff
      _ ↔ Check.cachesWithoutLimit d.snapshot = true :=
          d.cachesWithoutLimit_snapshot_iff.symm

def caching (settings : Object) : Config where
  version := 3
  endpoints := [{
    path := "/news"
    backends := [{ extensions := KeyMap.empty.insert "qos/http-cache" (.object settings) }] }]
  agents := [{
    name := "feed"
    backends := [{}] }]

def limited : Object :=
  [("max_items", .number (.integer 100)), ("max_size", .number (.integer 1048576))]

theorem sameCacheLimits_shared :
    (caching limited).SameCacheLimits (caching (limited ++ [("shared", .bool true)])) := by
  refine .cons (.some ⟨rfl, ?_⟩) (.cons .none .nil)
  exact List.forall_mem_cons.mpr ⟨rfl, List.forall_mem_cons.mpr ⟨rfl, List.forall_mem_nil _⟩⟩

theorem cacheLimit_rule_fires_iff_shared :
    (caching limited).SameCacheLimits (caching (limited ++ [("shared", .bool true)])) ∧
      ∃ r, Rule.find? "3.2.1" = some r ∧
        r.fires (caching limited).snapshot =
          r.fires (caching (limited ++ [("shared", .bool true)])).snapshot := by
  obtain ⟨r, hr, -, hsame, -⟩ := cacheLimit_rule_fires_iff
  exact ⟨sameCacheLimits_shared, r, hr, hsame _ _ sameCacheLimits_shared⟩

end Config

end Gateway
