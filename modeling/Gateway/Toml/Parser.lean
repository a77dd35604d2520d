import Gateway.Toml.Scalar
import Gateway.Toml.Table
import Gateway.Toml.Text

namespace Gateway.Toml

def limit : Nat :=
  80

def isBare (c : Char) : Bool :=
  c.isAlphanum || c == '_' || c == '-'

def scanSimpleKey (cs : List Char) : Option (String × List Char) :=
  let found := match cs with
    | '"' :: rest => scanBasic rest
    | '\'' :: rest => scanLiteral rest
    | _ =>
        let bare := cs.takeWhile isBare
        if bare.isEmpty then none else some (bare, cs.dropWhile isBare)
  found.map fun (key, rest) => (String.ofList key, rest)

def scanParts : (fuel : Nat) → List Char → Option (List String × List Char)
  | 0, _ => none
  | fuel + 1, cs => do
      let (key, rest) ← scanSimpleKey (skipBlanks cs)
      match skipBlanks rest with
      | '.' :: rest =>
          let (keys, rest) ← scanParts fuel rest
          return (key :: keys, rest)
      | rest => return ([key], rest)

structure Key where
  path : List String
  last : String

def scanKey (cs : List Char) : Option (Key × List Char) := do
  let (parts, rest) ← scanParts limit cs
  let last ← parts.getLast?
  if parts.length < limit then return (⟨parts.dropLast, last⟩, rest) else none

def assignAll (pairs : List (Key × Datum)) : Option Table :=
  pairs.foldlM (fun t (k, d) => t.assign k.path k.last d) (.empty .defined)

mutual

def scanValue : (fuel depth : Nat) → List Char → Option (Datum × List Char)
  | 0, _, _ => none
  | fuel + 1, depth, cs =>
      match cs with
      | '[' :: rest =>
          if depth + 1 < limit then do
            let (items, rest) ← scanItems fuel (depth + 1) rest
            return (.list items .lenient, rest)
          else none
      | '\x7b' :: rest =>
          if depth + 1 < limit then do
            let (pairs, rest) ← scanPairs fuel (depth + 1) true rest
            let t ← assignAll pairs
            return (t.toDatum, rest)
          else none
      | '"' :: _ | '\'' :: _ =>
          (scanString cs).map fun (s, rest) => (.text (some (String.ofList s)), rest)
      | _ => scanScalar cs

def scanItems : (fuel depth : Nat) → List Char → Option (List Datum × List Char)
  | 0, _, _ => none
  | fuel + 1, depth, cs => do
      let cs ← skipFiller? false cs
      match cs with
      | ']' :: rest => return ([], rest)
      | _ =>
          let (d, rest) ← scanValue fuel depth cs
          let rest ← skipFiller? false rest
          match rest with
          | ',' :: rest =>
              let (ds, rest) ← scanItems fuel depth rest
              return (d :: ds, rest)
          | ']' :: rest => return ([d], rest)
          | _ => none

def scanPairs : (fuel depth : Nat) → (first : Bool) → List Char →
    Option (List (Key × Datum) × List Char)
  | 0, _, _, _ => none
  | fuel + 1, depth, first, cs =>
      match skipBlanks cs with
      | '\x7d' :: rest => if first then some ([], rest) else none
      | cs => do
          let (key, rest) ← scanKey cs
          let rest ← skip? '=' rest
          let (d, rest) ← scanValue fuel depth (skipBlanks rest)
          match skipBlanks rest with
          | ',' :: rest =>
              let (pairs, rest) ← scanPairs fuel depth false rest
              return ((key, d) :: pairs, rest)
          | '\x7d' :: rest => return ([(key, d)], rest)
          | _ => none

end

inductive Statement where
  | define (key : Key)
  | append (key : Key)
  | assign (key : Key) (d : Datum)

def scanHeader (cs : List Char) : Option (Statement × List Char) :=
  match cs with
  | '[' :: rest => do
      let (key, rest) ← scanKey rest
      let rest ← skip? ']' rest
      let rest ← skip? ']' rest
      return (.append key, rest)
  | _ => do
      let (key, rest) ← scanKey cs
      let rest ← skip? ']' rest
      return (.define key, rest)

def scanAssignment (cs : List Char) : Option (Statement × List Char) := do
  let (key, rest) ← scanKey cs
  let rest ← skip? '=' rest
  let (d, rest) ← scanValue (2 * cs.length) 0 (skipBlanks rest)
  return (.assign key d, rest)

def scanStatements : (fuel : Nat) → List Char → Option (List Statement)
  | 0, _ => none
  | fuel + 1, cs => do
      match ← skipFiller? false cs with
      | [] => return []
      | c :: rest =>
          let (statement, rest) ← if c = '[' then scanHeader rest else scanAssignment (c :: rest)
          let rest ← lineEnd? rest
          let statements ← scanStatements fuel rest
          return statement :: statements

structure State where
  root : Table
  current : List String

def State.step (s : State) : Statement → Option State
  | .define key => (s.root.define key.path key.last).map (⟨·, key.path ++ [key.last]⟩)
  | .append key => (s.root.append key.path key.last).map (⟨·, key.path ++ [key.last]⟩)
  | .assign key d =>
      (s.root.alter false (fun t => t.assign key.path key.last d) s.current).map (⟨·, s.current⟩)

def skipByteOrderMark : List Char → List Char
  | '\ufeff' :: cs => cs
  | cs => cs

def parse? (text : String) : Option Datum := do
  let cs := skipByteOrderMark text.toList
  let statements ← scanStatements (cs.length + 1) cs
  let s ← statements.foldlM State.step ⟨.empty .defined, []⟩
  return s.root.toDatum

end Gateway.Toml
