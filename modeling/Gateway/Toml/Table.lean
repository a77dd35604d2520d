import Gateway.Datum.Basic

namespace Gateway.Toml

inductive Origin where
  | defined
  | implied
  | dotted
  deriving DecidableEq

mutual

inductive Item where
  | value (d : Datum)
  | table (t : Table)
  | tables (ts : List Table)

inductive Table where
  | mk (origin : Origin) (items : List (String × Item))

end

namespace Table

def origin : Table → Origin
  | .mk o _ => o

def items : Table → List (String × Item)
  | .mk _ items => items

def empty (o : Origin) : Table :=
  .mk o []

def get? (t : Table) (key : String) : Option Item :=
  t.items.lookup key

def set (t : Table) (key : String) (item : Item) : Table :=
  .mk t.origin (t.items.filter (·.1 ≠ key) ++ [(key, item)])

def alter (dotted : Bool) (f : Table → Option Table) : List String → Table → Option Table
  | [], t => f t
  | key :: path, t =>
      match t.get? key with
      | none => do
          let child ← alter dotted f path (empty (if dotted then .dotted else .implied))
          return t.set key (.table child)
      | some (.value _) => none
      | some (.tables ts) => do
          let last ← ts.getLast?
          let child ← alter dotted f path last
          return t.set key (.tables (ts.dropLast ++ [child]))
      | some (.table child) =>
          if dotted && child.origin = .defined then none
          else do
            let child ← alter dotted f path child
            return t.set key (.table child)

def assign (path : List String) (key : String) (d : Datum) : Table → Option Table :=
  alter true (fun t =>
    if decide (t.origin = .dotted) == path.isEmpty then none
    else if (t.get? key).isSome then none
    else some (t.set key (.value d))) path

def define (path : List String) (key : String) : Table → Option Table :=
  alter false (fun t =>
    match t.get? key with
    | none => some (t.set key (.table (empty .defined)))
    | some (.table child) =>
        if child.origin = .implied then some (t.set key (.table (.mk .defined child.items)))
        else none
    | _ => none) path

def append (path : List String) (key : String) : Table → Option Table :=
  alter false (fun t =>
    match t.get? key with
    | none => some (t.set key (.tables [empty .defined]))
    | some (.tables ts) => some (t.set key (.tables (ts ++ [empty .defined])))
    | _ => none) path

end Table

mutual

def Table.toDatum : Table → Datum
  | .mk _ items => .record (itemsToDatum items) true

def Item.toDatum : Item → Datum
  | .value d => d
  | .table t => t.toDatum
  | .tables ts => .list (tablesToDatum ts) .lenient

def itemsToDatum : List (String × Item) → List (Option String × Datum)
  | [] => []
  | (key, item) :: items => (some key, item.toDatum) :: itemsToDatum items

def tablesToDatum : List Table → List Datum
  | [] => []
  | t :: ts => t.toDatum :: tablesToDatum ts

end

end Gateway.Toml
