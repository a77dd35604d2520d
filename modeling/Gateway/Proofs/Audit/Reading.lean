import Gateway.Audit.Basic
import Gateway.Proofs.Snapshot.Rearranged

namespace Gateway

open Snapshot

namespace Check

def OnService (f : Snapshot → Bool) : Prop :=
  ∀ s t : Snapshot, s.SameService t → f s = f t

def OnEndpoint (p : Endpoint → Bool) : Prop :=
  ∀ d e : Endpoint, d.Rearranged e → p d = p e

inductive Reading where
  | service
  | someEndpoint
  | everyEndpoint
  deriving DecidableEq

inductive Reads (f : Snapshot → Bool) : Reading → Prop
  | service (hf : OnService f) : Reads f .service
  | someEndpoint {g : Snapshot → Bool} {p : Endpoint → Bool} (hg : OnService g)
      (hp : OnEndpoint p) (h : ∀ s, f s = (g s || s.endpoints.any p)) : Reads f .someEndpoint
  | everyEndpoint {g : Snapshot → Bool} {p : Endpoint → Bool} (hg : OnService g)
      (hp : OnEndpoint p) (h : ∀ s, f s = (g s && s.endpoints.all p)) : Reads f .everyEndpoint

section Laws

variable {f : Snapshot → Bool} {s t : Snapshot}

theorem Reads.eq_of_rearranged {reading : Reading} (hf : Reads f reading) (h : s.Rearranged t) :
    f s = f t := by
  cases hf with
  | service hf => exact hf s t h.toSameService
  | someEndpoint hg hp hf =>
      rw [hf, hf, hg s t h.toSameService, h.endpoints.any_eq hp]
  | everyEndpoint hg hp hf =>
      rw [hf, hf, hg s t h.toSameService, h.endpoints.all_eq hp]

theorem Reads.withEndpoints_eq (hf : Reads f .service) (s : Snapshot) (es fs : List Endpoint) :
    f (s.withEndpoints es) = f (s.withEndpoints fs) := by
  cases hf with
  | service hf => exact hf _ _ (s.sameService_withEndpoints es fs)

theorem Reads.append_someEndpoint (hf : Reads f .someEndpoint) (s : Snapshot)
    (es fs : List Endpoint) :
    f (s.withEndpoints (es ++ fs)) = (f (s.withEndpoints es) || f (s.withEndpoints fs)) := by
  cases hf with
  | @someEndpoint g p hg hp hf =>
      have hes := hg _ _ (s.sameService_withEndpoints (es ++ fs) es)
      have hfs := hg _ _ (s.sameService_withEndpoints (es ++ fs) fs)
      rw [hf, hf, hf, ← hes, ← hfs]
      cases g (s.withEndpoints (es ++ fs)) with
      | true => rfl
      | false => exact List.any_append

theorem Reads.append_everyEndpoint (hf : Reads f .everyEndpoint) (s : Snapshot)
    (es fs : List Endpoint) :
    f (s.withEndpoints (es ++ fs)) = (f (s.withEndpoints es) && f (s.withEndpoints fs)) := by
  cases hf with
  | @everyEndpoint g p hg hp hf =>
      have hes := hg _ _ (s.sameService_withEndpoints (es ++ fs) es)
      have hfs := hg _ _ (s.sameService_withEndpoints (es ++ fs) fs)
      rw [hf, hf, hf, ← hes, ← hfs]
      cases g (s.withEndpoints (es ++ fs)) with
      | true => exact List.all_append
      | false => rfl

end Laws

section Parts

variable {f : Snapshot → Bool} {p q : Endpoint → Bool}

theorem onService_of_facts
    (h : ∀ s, f s = f { flags := s.flags, components := s.components }) : OnService f := by
  intro s t hst
  rw [h s, h t, hst.flags, hst.components]

theorem onEndpoint_of_facts
    (h : ∀ e, p e = p { flags := e.flags, components := e.components }) : OnEndpoint p := by
  intro d e hde
  rw [h d, h e, hde.flags, hde.components]

theorem onEndpoint_any_backends (r : Backend → Bool) :
    OnEndpoint fun e => e.backends.any r :=
  fun _ _ h => h.backends.any_eq

theorem OnEndpoint.or (hp : OnEndpoint p) (hq : OnEndpoint q) :
    OnEndpoint fun e => p e || q e := by
  intro d e h
  simp only [hp d e h, hq d e h]

theorem Reads.any (hp : OnEndpoint p) :
    Reads (fun s => s.endpoints.any p) .someEndpoint :=
  .someEndpoint (g := fun _ => false) (fun _ _ _ => rfl) hp fun _ => rfl

theorem Reads.all (hp : OnEndpoint p) :
    Reads (fun s => s.endpoints.all p) .everyEndpoint :=
  .everyEndpoint (g := fun _ => true) (fun _ _ _ => rfl) hp fun _ => rfl

theorem Reads.not (hf : Reads f .someEndpoint) : Reads (fun s => !f s) .everyEndpoint := by
  cases hf with
  | @someEndpoint g p hg hp hf =>
      refine .everyEndpoint (g := fun s => !g s) (p := fun e => !p e) ?_ ?_ ?_
      · exact fun s t h => congrArg Bool.not (hg s t h)
      · exact fun d e h => congrArg Bool.not (hp d e h)
      · intro s
        rw [hf, Bool.not_or, List.not_any_eq_all_not]

theorem reads_allBackends (r : Backend → Bool) :
    Reads (fun s => s.allBackends.any r) .someEndpoint := by
  refine .someEndpoint (g := fun s => s.agents.any fun a => a.backends.any r) ?_
    (onEndpoint_any_backends r) ?_
  · exact fun _ _ h => h.any_agentBackends r
  · intro s
    rw [allBackends, List.any_append, List.any_flatMap, List.any_flatMap, Bool.or_comm]

end Parts

theorem reads_usesBasicAuth : Reads usesBasicAuth .someEndpoint := by
  refine .someEndpoint ?_ ?_ fun _ => rfl
  · exact onService_of_facts fun _ => rfl
  · exact onEndpoint_of_facts fun _ => rfl

theorem reads_hasWildcard (w : Wildcard) : Reads (hasWildcard w) .someEndpoint :=
  .any (onEndpoint_of_facts fun _ => rfl)

theorem reads_timeoutAbove (limit : Int64) : Reads (timeoutAbove limit) .someEndpoint :=
  .any (onEndpoint_of_facts fun _ => rfl)

theorem reads_loadsClientPlugin (plugin : ClientPlugin) :
    Reads (loadsClientPlugin plugin) .someEndpoint :=
  .any (onEndpoint_of_facts fun _ => rfl)

theorem reads_loadsModifierPlugin (plugin : ModifierPlugin) :
    Reads (loadsModifierPlugin plugin) .someEndpoint := by
  refine .any (OnEndpoint.or ?_ (onEndpoint_any_backends _))
  exact onEndpoint_of_facts fun _ => rfl

theorem reads_servesWithoutBackend : Reads servesWithoutBackend .someEndpoint :=
  .any fun _ _ h => h.backends.isEmpty_eq

theorem reads_lacksJwt : Reads lacksJwt .everyEndpoint :=
  .not (.any (onEndpoint_of_facts fun _ => rfl))

theorem reads_lacksRateLimit : Reads lacksRateLimit .everyEndpoint := by
  refine .not (.someEndpoint ?_ (OnEndpoint.or ?_ (onEndpoint_any_backends _)) fun _ => rfl)
  · exact onService_of_facts fun _ => rfl
  · exact onEndpoint_of_facts fun _ => rfl

theorem reads_lacksCircuitBreaker : Reads lacksCircuitBreaker .everyEndpoint := by
  refine .not (.any (OnEndpoint.or ?_ (onEndpoint_any_backends _)))
  exact onEndpoint_of_facts fun _ => rfl

theorem reads_aggregatesNothing : Reads aggregatesNothing .everyEndpoint := by
  refine .all fun d e h => ?_
  rw [h.backends.length_eq]

theorem reads_manipulatesNothing : Reads manipulatesNothing .everyEndpoint :=
  .all (onEndpoint_of_facts fun _ => rfl)

theorem reads_startsManyAgentsInTurn : Reads startsManyAgentsInTurn .service := by
  refine .service fun s t h => ?_
  rw [startsManyAgentsInTurn, startsManyAgentsInTurn, h.agents.length_eq, hasFlag, hasFlag,
    serviceFlags, serviceFlags, h.flags]

theorem Reads.of_facts {f : Snapshot → Bool}
    (h : ∀ s, f s = f { flags := s.flags, components := s.components }) : Reads f .service :=
  .service (onService_of_facts h)

end Check

namespace Rule

open Check

def onSomeEndpoint : List String := [
  "1.1.1", "2.1.9", "2.2.3", "2.2.4", "2.3.1", "3.2.1", "3.3.1", "3.3.2", "3.3.3", "3.3.4",
  "5.1.4", "5.2.1", "5.2.2", "5.2.3", "7.1.6", "7.1.7", "7.1.8", "7.1.9"]

def onEveryEndpoint : List String := [
  "1.2.1", "3.1.2", "3.1.3", "5.1.5", "5.1.6"]

def reading (id : String) : Reading :=
  if id ∈ onSomeEndpoint then .someEndpoint
  else if id ∈ onEveryEndpoint then .everyEndpoint
  else .service

theorem reads_access : ∀ r ∈ access, Reads r.fires (reading r.id) := by
  simp only [access, List.forall_mem_cons]
  exact ⟨reads_usesBasicAuth, .of_facts fun _ => rfl, reads_lacksJwt, List.forall_mem_nil _⟩

theorem reads_exposure : ∀ r ∈ exposure, Reads r.fires (reading r.id) := by
  simp only [exposure, List.forall_mem_cons]
  refine ⟨?_, ?_, ?_, ?_, ?_, reads_allBackends _, ?_, ?_, reads_hasWildcard .headers,
    reads_hasWildcard .queryStrings, ?_, reads_hasWildcard .path, List.forall_mem_nil _⟩
  all_goals exact .of_facts fun _ => rfl

theorem reads_traffic : ∀ r ∈ traffic, Reads r.fires (reading r.id) := by
  simp only [traffic, List.forall_mem_cons]
  exact ⟨.of_facts fun _ => rfl, reads_lacksRateLimit, reads_lacksCircuitBreaker,
    reads_allBackends _, reads_timeoutAbove 3000, reads_timeoutAbove 5000,
    reads_timeoutAbove 30000, reads_timeoutAbove 60000, List.forall_mem_nil _⟩

theorem reads_telemetry : ∀ r ∈ telemetry, Reads r.fires (reading r.id) := by
  simp only [telemetry, List.forall_mem_cons]
  refine ⟨?_, ?_, ?_, ?_, List.forall_mem_nil _⟩
  all_goals exact .of_facts fun _ => rfl

theorem reads_design : ∀ r ∈ design, Reads r.fires (reading r.id) := by
  have hcalls : OnEndpoint fun e => 1 < e.flag EndpointFlag.writingCalls.index :=
    onEndpoint_of_facts fun _ => rfl
  have hturns : OnEndpoint fun e =>
      firstHasBit e.components Namespace.proxy ProxyFlag.sequential.bit :=
    onEndpoint_of_facts fun _ => rfl
  simp only [design, List.forall_mem_cons]
  refine ⟨?_, ?_, ?_, reads_servesWithoutBackend, reads_aggregatesNothing,
    reads_manipulatesNothing, reads_startsManyAgentsInTurn, .any hcalls, .any hturns,
    reads_hasWildcard .catchAll, List.forall_mem_nil _⟩
  all_goals exact .of_facts fun _ => rfl

theorem reads_deprecation : ∀ r ∈ deprecation, Reads r.fires (reading r.id) := by
  simp only [deprecation, List.forall_mem_cons]
  refine ⟨?_, ?_, ?_, ?_, ?_, reads_loadsClientPlugin .staticFilesystem,
    reads_loadsClientPlugin .noRedirect, reads_loadsModifierPlugin .responseSchemaValidator,
    reads_loadsModifierPlugin .contentReplacer, ?_, ?_, List.forall_mem_nil _⟩
  all_goals exact .of_facts fun _ => rfl

theorem reads {r : Rule} (hr : r ∈ all) : Reads r.fires (reading r.id) :=
  forall_mem_all reads_access reads_exposure reads_traffic reads_telemetry reads_design
    reads_deprecation r hr

theorem reading_onSomeEndpoint : ∀ id ∈ onSomeEndpoint, reading id = .someEndpoint := by
  intro id hid
  rw [reading, if_pos hid]

theorem reading_onEveryEndpoint : ∀ id ∈ onEveryEndpoint, reading id = .everyEndpoint := by
  decide +kernel

theorem registered : ∀ id ∈ onSomeEndpoint ++ onEveryEndpoint, (find? id).isSome = true := by
  decide +kernel

theorem exists_reads {id : String} (h : id ∈ onSomeEndpoint ++ onEveryEndpoint) :
    ∃ r, find? id = some r ∧ Reads r.fires (reading id) := by
  obtain ⟨r, hr⟩ := Option.isSome_iff_exists.mp (registered id h)
  obtain ⟨hall, rfl⟩ := of_find? hr
  exact ⟨r, hr, reads hall⟩

theorem fires_append_endpoints (s : Snapshot) (es fs : List Endpoint) :
    (∀ id ∈ onSomeEndpoint, ∃ r, find? id = some r ∧
      (r.fires (s.withEndpoints (es ++ fs)) = true ↔
        r.fires (s.withEndpoints es) = true ∨ r.fires (s.withEndpoints fs) = true)) ∧
    (∀ id ∈ onEveryEndpoint, ∃ r, find? id = some r ∧
      (r.fires (s.withEndpoints (es ++ fs)) = true ↔
        r.fires (s.withEndpoints es) = true ∧ r.fires (s.withEndpoints fs) = true)) ∧
    ∀ r ∈ all, r.id ∉ onSomeEndpoint → r.id ∉ onEveryEndpoint →
      r.fires (s.withEndpoints es) = r.fires (s.withEndpoints (es ++ fs)) ∧
        r.fires (s.withEndpoints fs) = r.fires (s.withEndpoints (es ++ fs)) := by
  refine ⟨?_, ?_, ?_⟩
  · intro id hid
    obtain ⟨r, hr, hreads⟩ := exists_reads (List.mem_append_left _ hid)
    rw [reading_onSomeEndpoint id hid] at hreads
    exact ⟨r, hr, by rw [hreads.append_someEndpoint, Bool.or_eq_true]⟩
  · intro id hid
    obtain ⟨r, hr, hreads⟩ := exists_reads (List.mem_append_right _ hid)
    rw [reading_onEveryEndpoint id hid] at hreads
    exact ⟨r, hr, by rw [hreads.append_everyEndpoint, Bool.and_eq_true]⟩
  · intro r hr hsome hevery
    have hreads := reads hr
    rw [reading, if_neg hsome, if_neg hevery] at hreads
    exact ⟨hreads.withEndpoints_eq s es (es ++ fs), hreads.withEndpoints_eq s fs (es ++ fs)⟩

def slow : Endpoint where
  flags := [2, 0, 0, 4000, 0, 0]
  backends := [{}, {}]

def plain : Endpoint where
  flags := [2, 0, 0, 2000, 0, 0]

def noCors : Rule :=
  ⟨"2.2.2", .high, "Ensure that CORS is enabled.", fun s => !attached Namespace.cors s⟩

theorem fires_append_endpoints_slow :
    ("3.3.1" ∈ onSomeEndpoint ∧ "5.1.5" ∈ onEveryEndpoint ∧
      noCors ∈ all ∧ noCors.id ∉ onSomeEndpoint ∧ noCors.id ∉ onEveryEndpoint) ∧
    (∃ r, find? "3.3.1" = some r ∧
      (r.fires (withEndpoints {} ([slow] ++ [plain])) = true ↔
        r.fires (withEndpoints {} [slow]) = true ∨ r.fires (withEndpoints {} [plain]) = true)) ∧
    (∃ r, find? "5.1.5" = some r ∧
      (r.fires (withEndpoints {} ([slow] ++ [plain])) = true ↔
        r.fires (withEndpoints {} [slow]) = true ∧ r.fires (withEndpoints {} [plain]) = true)) ∧
    noCors.fires (withEndpoints {} [slow]) = noCors.fires (withEndpoints {} ([slow] ++ [plain])) ∧
      noCors.fires (withEndpoints {} [plain]) =
        noCors.fires (withEndpoints {} ([slow] ++ [plain])) := by
  have hsome : "3.3.1" ∈ onSomeEndpoint := by decide
  have hevery : "5.1.5" ∈ onEveryEndpoint := by decide
  have hall : noCors ∈ all := List.mem_of_getElem? (i := 10) rfl
  have hnotSome : noCors.id ∉ onSomeEndpoint := by decide
  have hnotEvery : noCors.id ∉ onEveryEndpoint := by decide
  obtain ⟨h₁, h₂, h₃⟩ := fires_append_endpoints {} [slow] [plain]
  exact ⟨⟨hsome, hevery, hall, hnotSome, hnotEvery⟩, h₁ _ hsome, h₂ _ hevery,
    h₃ _ hall hnotSome hnotEvery⟩

end Rule

theorem Snapshot.Rearranged.audit_eq {s t : Snapshot} (h : s.Rearranged t) (a : Settings) :
    s.audit a = t.audit a :=
  audit_eq_of_fires (fun _ hr => (Rule.reads hr).eq_of_rearranged h) a

end Gateway
