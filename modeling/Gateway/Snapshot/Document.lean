import Gateway.Datum.Reader
import Gateway.Json.Value
import Gateway.Snapshot.Basic

namespace Gateway.Snapshot

open Datum Json

def readOrEmpty {α : Type} (empty : α) (read : Reader α) : Reader α := fun d =>
  (readOption read d).map (·.getD empty)

def readNumbers : Reader (List Int64) :=
  readOrEmpty [] (readList readInt64)

def readComponents : Reader Components :=
  readOrEmpty KeyMap.empty (readMap readNumbers)

def Backend.layout : Layout Backend where
  start := {}
  fields := [
    .of "f" readNumbers fun x s => { s with flags := x },
    .of "c" readComponents fun x s => { s with components := x }]

def readBackends : Reader (List Backend) :=
  readOrEmpty [] (readList Backend.layout.read)

structure Group (σ : Type) where
  make : List Int64 → List Backend → Components → σ
  flags : σ → List Int64
  backends : σ → List Backend
  components : σ → Components
  flags_make : ∀ xs bs m, flags (make xs bs m) = xs
  backends_make : ∀ xs bs m, backends (make xs bs m) = bs
  components_make : ∀ xs bs m, components (make xs bs m) = m
  make_eta : ∀ s, make (flags s) (backends s) (components s) = s

attribute [simp] Group.flags_make Group.backends_make Group.components_make Group.make_eta

def Agent.group : Group Agent where
  make xs bs m := { flags := xs, backends := bs, components := m }
  flags := Agent.flags
  backends := Agent.backends
  components := Agent.components
  flags_make _ _ _ := rfl
  backends_make _ _ _ := rfl
  components_make _ _ _ := rfl
  make_eta _ := rfl

def Endpoint.group : Group Endpoint where
  make xs bs m := { flags := xs, backends := bs, components := m }
  flags := Endpoint.flags
  backends := Endpoint.backends
  components := Endpoint.components
  flags_make _ _ _ := rfl
  backends_make _ _ _ := rfl
  components_make _ _ _ := rfl
  make_eta _ := rfl

def Group.layout {σ : Type} (g : Group σ) : Layout σ where
  start := g.make [] [] KeyMap.empty
  fields := [
    .of "f" readNumbers fun x s => g.make x (g.backends s) (g.components s),
    .of "b" readBackends fun x s => g.make (g.flags s) x (g.components s),
    .of "c" readComponents fun x s => g.make (g.flags s) (g.backends s) x]

def Agent.layout : Layout Agent :=
  Agent.group.layout

def Endpoint.layout : Layout Endpoint :=
  Endpoint.group.layout

def layout : Layout Snapshot where
  start := {}
  fields := [
    .of "f" readNumbers fun x s => { s with flags := x },
    .of "a" (readOrEmpty [] (readList Agent.layout.read)) fun x s => { s with agents := x },
    .of "e" (readOrEmpty [] (readList Endpoint.layout.read)) fun x s => { s with endpoints := x },
    .of "c" readComponents fun x s => { s with components := x }]

def read : Reader Snapshot :=
  layout.read

def numbersValue (numbers : List Int64) : Value :=
  .array (numbers.map Value.ofInt64)

def listMember {α : Type} (name : String) (value : α → Value) (xs : List α) :
    List (String × Value) :=
  if xs.isEmpty then [] else [(name, .array (xs.map value))]

def componentsMember (components : Components) : List (String × Value) :=
  if components.isEmpty then []
  else [("c", .object (components.entries.map fun (ns, numbers) => (ns, numbersValue numbers)))]

def Backend.toValue (b : Backend) : Value :=
  .object (listMember "f" Value.ofInt64 b.flags ++ componentsMember b.components)

def Group.toValue {σ : Type} (g : Group σ) (s : σ) : Value :=
  .object (listMember "f" Value.ofInt64 (g.flags s) ++
    listMember "b" Backend.toValue (g.backends s) ++ componentsMember (g.components s))

def Agent.toValue : Agent → Value :=
  Agent.group.toValue

def Endpoint.toValue : Endpoint → Value :=
  Endpoint.group.toValue

def toValue (s : Snapshot) : Value :=
  .object (listMember "f" Value.ofInt64 s.flags ++ listMember "a" Agent.toValue s.agents ++
    listMember "e" Endpoint.toValue s.endpoints ++ componentsMember s.components)

end Gateway.Snapshot
