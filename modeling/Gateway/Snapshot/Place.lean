import Gateway.Snapshot.Basic

namespace Gateway.Snapshot

inductive Place where
  | service
  | agent (index : Nat)
  | endpoint (index : Nat)
  | agentBackend (agent backend : Nat)
  | endpointBackend (endpoint backend : Nat)
  deriving DecidableEq

def alterItem? {α : Type} (f : α → Option α) : Nat → List α → Option (List α)
  | _, [] => none
  | 0, x :: xs => (f x).map (· :: xs)
  | i + 1, x :: xs => (alterItem? f i xs).map (x :: ·)

structure Facts where
  flags : List Int64
  components : Components
  deriving DecidableEq

def Backend.alter (f : Facts → Facts) (b : Backend) : Backend :=
  let facts := f ⟨b.flags, b.components⟩
  { b with flags := facts.flags, components := facts.components }

def Agent.alter (f : Facts → Facts) (a : Agent) : Agent :=
  let facts := f ⟨a.flags, a.components⟩
  { a with flags := facts.flags, components := facts.components }

def Endpoint.alter (f : Facts → Facts) (e : Endpoint) : Endpoint :=
  let facts := f ⟨e.flags, e.components⟩
  { e with flags := facts.flags, components := facts.components }

def alterAt? (f : Facts → Facts) (s : Snapshot) : Place → Option Snapshot
  | .service =>
      let facts := f ⟨s.flags, s.components⟩
      some { s with flags := facts.flags, components := facts.components }
  | .agent i => do
      let agents ← alterItem? (fun a => some (a.alter f)) i s.agents
      return { s with agents }
  | .endpoint i => do
      let endpoints ← alterItem? (fun e => some (e.alter f)) i s.endpoints
      return { s with endpoints }
  | .agentBackend i j => do
      let agents ← alterItem? (fun a => do
        let backends ← alterItem? (fun b => some (b.alter f)) j a.backends
        return { a with backends }) i s.agents
      return { s with agents }
  | .endpointBackend i j => do
      let endpoints ← alterItem? (fun e => do
        let backends ← alterItem? (fun b => some (b.alter f)) j e.backends
        return { e with backends }) i s.endpoints
      return { s with endpoints }

end Gateway.Snapshot
