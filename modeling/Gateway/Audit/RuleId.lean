namespace Gateway.RuleId

def segments (id : String) : List (List Char) :=
  id.toList.splitOn '.'

def number? (segment : List Char) : Option Nat :=
  let digits := match segment with
    | '+' :: cs => cs
    | cs => cs
  let n := digits.foldl (fun n c => 10 * n + (c.toNat - '0'.toNat)) 0
  if !digits.isEmpty && digits.all Char.isDigit && n < UInt64.size then some n else none

def compareText : List Char → List Char → Ordering
  | [], [] => .eq
  | [], _ :: _ => .lt
  | _ :: _, [] => .gt
  | a :: as, b :: bs => (compare a.toNat b.toNat).then (compareText as bs)

def compareSegments (a b : List Char) : Ordering :=
  match number? a, number? b with
  | some m, some n => compare m n
  | _, _ => compareText a b

def compareLists : List (List Char) → List (List Char) → Ordering
  | [], [] => .eq
  | [], _ :: _ => .lt
  | _ :: _, [] => .gt
  | a :: as, b :: bs => (compareSegments a b).then (compareLists as bs)

def compare (a b : String) : Ordering :=
  compareLists (segments a) (segments b)

end Gateway.RuleId
