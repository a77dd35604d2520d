import Gateway.KeyMap

namespace Gateway

abbrev Components := KeyMap (List Int64)

def entryAt (values : List Int64) (index : Nat) : Int64 :=
  values.getD index 0

namespace Snapshot

structure Backend where
  flags : List Int64 := []
  components : Components := KeyMap.empty
  deriving DecidableEq, Inhabited

structure Endpoint where
  flags : List Int64 := []
  backends : List Backend := []
  components : Components := KeyMap.empty
  deriving DecidableEq, Inhabited

structure Agent where
  flags : List Int64 := []
  backends : List Backend := []
  components : Components := KeyMap.empty
  deriving DecidableEq, Inhabited

end Snapshot

structure Snapshot where
  flags : List Int64 := []
  agents : List Snapshot.Agent := []
  endpoints : List Snapshot.Endpoint := []
  components : Components := KeyMap.empty
  deriving DecidableEq, Inhabited

namespace Snapshot

def Backend.shape (b : Backend) : Int64 :=
  entryAt b.flags 0

def Backend.mapComponents (f : Components → Components) (b : Backend) : Backend :=
  { b with components := f b.components }

def Endpoint.flag (e : Endpoint) (index : Nat) : Int64 :=
  entryAt e.flags index

def Endpoint.mapComponents (f : Components → Components) (e : Endpoint) : Endpoint :=
  { e with backends := e.backends.map (·.mapComponents f), components := f e.components }

def Agent.flag (a : Agent) (index : Nat) : Int64 :=
  entryAt a.flags index

def Agent.mapComponents (f : Components → Components) (a : Agent) : Agent :=
  { a with backends := a.backends.map (·.mapComponents f), components := f a.components }

def serviceFlags (s : Snapshot) : Int64 :=
  entryAt s.flags 0

def mapComponents (f : Components → Components) (s : Snapshot) : Snapshot :=
  { s with
    agents := s.agents.map (·.mapComponents f)
    endpoints := s.endpoints.map (·.mapComponents f)
    components := f s.components }

def allComponents (s : Snapshot) : List Components :=
  s.components ::
    (s.agents.flatMap fun a => a.components :: a.backends.map (·.components)) ++
    (s.endpoints.flatMap fun e => e.components :: e.backends.map (·.components))

def allBackends (s : Snapshot) : List Backend :=
  s.endpoints.flatMap (·.backends) ++ s.agents.flatMap (·.backends)

theorem mapComponents_mapComponents (f g : Components → Components) (s : Snapshot) :
    (s.mapComponents f).mapComponents g = s.mapComponents (g ∘ f) := by
  simp [mapComponents, Backend.mapComponents, Endpoint.mapComponents, Agent.mapComponents]

theorem mapComponents_id (s : Snapshot) : s.mapComponents id = s := by
  simp [mapComponents, Backend.mapComponents, Endpoint.mapComponents, Agent.mapComponents]

theorem Backend.mapComponents_eq_iff (f g : Components → Components) (b : Backend) :
    b.mapComponents f = b.mapComponents g ↔ f b.components = g b.components := by
  simp [Backend.mapComponents]

theorem map_mapComponents_eq_iff (f g : Components → Components) (bs : List Backend) :
    bs.map (·.mapComponents f) = bs.map (·.mapComponents g) ↔
      ∀ m ∈ bs.map (·.components), f m = g m := by
  simp only [List.map_inj_left, Backend.mapComponents_eq_iff, List.forall_mem_map]

theorem Agent.mapComponents_eq_iff (f g : Components → Components) (a : Agent) :
    a.mapComponents f = a.mapComponents g ↔
      ∀ m ∈ a.components :: a.backends.map (·.components), f m = g m := by
  rw [mapComponents, mapComponents, mk.injEq, map_mapComponents_eq_iff, List.forall_mem_cons]
  simp [and_comm]

theorem Endpoint.mapComponents_eq_iff (f g : Components → Components) (e : Endpoint) :
    e.mapComponents f = e.mapComponents g ↔
      ∀ m ∈ e.components :: e.backends.map (·.components), f m = g m := by
  rw [mapComponents, mapComponents, mk.injEq, map_mapComponents_eq_iff, List.forall_mem_cons]
  simp [and_comm]

theorem mapComponents_eq_iff (f g : Components → Components) (s : Snapshot) :
    s.mapComponents f = s.mapComponents g ↔ ∀ m ∈ s.allComponents, f m = g m := by
  simp only [mapComponents, mk.injEq, true_and, List.map_inj_left, Agent.mapComponents_eq_iff,
    Endpoint.mapComponents_eq_iff, allComponents, List.forall_mem_append, List.forall_mem_cons,
    List.forall_mem_flatMap]
  constructor
  · rintro ⟨hagents, hendpoints, hservice⟩
    exact ⟨⟨hservice, hagents⟩, hendpoints⟩
  · rintro ⟨⟨hservice, hagents⟩, hendpoints⟩
    exact ⟨hagents, hendpoints, hservice⟩

theorem mapComponents_eq_self_iff (f : Components → Components) (s : Snapshot) :
    s.mapComponents f = s ↔ ∀ m ∈ s.allComponents, f m = m := by
  have h := mapComponents_eq_iff f id s
  rwa [mapComponents_id] at h

theorem allComponents_mapComponents (f : Components → Components) (s : Snapshot) :
    (s.mapComponents f).allComponents = s.allComponents.map f := by
  simp [allComponents, mapComponents, Backend.mapComponents, Endpoint.mapComponents,
    Agent.mapComponents, List.flatMap_map, List.map_flatMap, Function.comp_def]

end Snapshot

end Gateway
