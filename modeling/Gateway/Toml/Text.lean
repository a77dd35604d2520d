import Gateway.Toml.Blank

namespace Gateway.Toml

def hexValue? (c : Char) : Option Nat :=
  if '0' ≤ c && c ≤ '9' then some (c.toNat - '0'.toNat)
  else if 'a' ≤ c && c ≤ 'f' then some (c.toNat - 'a'.toNat + 10)
  else if 'A' ≤ c && c ≤ 'F' then some (c.toNat - 'A'.toNat + 10)
  else none

def hexNumber? (cs : List Char) : Option Nat :=
  cs.foldlM (fun n c => (hexValue? c).map (16 * n + ·)) 0

def codePoint? (digits : List Char) : Option Char := do
  let n ← hexNumber? digits
  if n.isValidChar then return Char.ofNat n else none

def shortEscape? (c : Char) : Option Char :=
  if c = 'b' then some '\x08'
  else if c = 't' then some '\t'
  else if c = 'n' then some '\n'
  else if c = 'f' then some '\x0c'
  else if c = 'r' then some '\r'
  else if c = '"' then some '"'
  else if c = '\\' then some '\\'
  else none

def escape? : List Char → Option (Char × List Char)
  | 'u' :: cs => (codePoint? (cs.take 4)).bind fun c =>
      if 4 ≤ cs.length then some (c, cs.drop 4) else none
  | 'U' :: cs => (codePoint? (cs.take 8)).bind fun c =>
      if 8 ≤ cs.length then some (c, cs.drop 8) else none
  | c :: cs => (shortEscape? c).map (·, cs)
  | [] => none

theorem length_of_escape? {cs : List Char} {c : Char} {rest : List Char}
    (h : escape? cs = some (c, rest)) : rest.length < cs.length := by
  unfold escape? at h
  split at h
  · obtain ⟨d, _, hd⟩ := Option.bind_eq_some_iff.mp h
    split at hd
    · simp only [Option.some.injEq, Prod.mk.injEq] at hd
      simp only [← hd.2, List.length_drop, List.length_cons]; omega
    · cases hd
  · obtain ⟨d, _, hd⟩ := Option.bind_eq_some_iff.mp h
    split at hd
    · simp only [Option.some.injEq, Prod.mk.injEq] at hd
      simp only [← hd.2, List.length_drop, List.length_cons]; omega
    · cases hd
  · obtain ⟨d, _, hd⟩ := Option.map_eq_some_iff.mp h
    cases hd; simp
  · cases h

def scanBasic (cs : List Char) : Option (List Char × List Char) :=
  match cs with
  | [] => none
  | c :: rest =>
      if c = '"' then some ([], rest)
      else if c = '\\' then
        match _h : escape? rest with
        | some (d, rest) => (scanBasic rest).map fun (s, rest) => (d :: s, rest)
        | none => none
      else if isVisible c then (scanBasic rest).map fun (s, rest) => (c :: s, rest)
      else none
termination_by cs.length
decreasing_by
  · have := length_of_escape? _h
    simp only [List.length_cons]; omega
  · simp

def scanLiteral : List Char → Option (List Char × List Char)
  | [] => none
  | c :: rest =>
      if c = '\'' then some ([], rest)
      else if isVisible c then (scanLiteral rest).map fun (s, rest) => (c :: s, rest)
      else none

def closing? (mark : Char) (cs : List Char) : Option (List Char × List Char) :=
  let marks := (cs.takeWhile (· = mark)).length
  if marks < 3 then none
  else
    let extra := min (marks - 3) 2
    some (List.replicate extra mark, cs.drop (extra + 3))

def scanBasicLines (skipping : Bool) (cs : List Char) : Option (List Char × List Char) :=
  match cs with
  | [] => none
  | c :: rest =>
      match closing? '"' (c :: rest) with
      | some found => some found
      | none =>
          match _h : newLine? (c :: rest) with
          | some rest =>
              if skipping then scanBasicLines true rest
              else (scanBasicLines false rest).map fun (s, rest) => ('\n' :: s, rest)
          | none =>
              if skipping && isBlank c then scanBasicLines true rest
              else if c = '\\' then
                if (newLine? (skipBlanks rest)).isSome then scanBasicLines true rest
                else
                  match _h : escape? rest with
                  | some (d, rest) =>
                      (scanBasicLines false rest).map fun (s, rest) => (d :: s, rest)
                  | none => none
              else if isVisible c then
                (scanBasicLines false rest).map fun (s, rest) => (c :: s, rest)
              else none
termination_by cs.length
decreasing_by
  · exact length_of_newLine? _h
  · exact length_of_newLine? _h
  · simp
  · simp
  · have := length_of_escape? _h
    simp only [List.length_cons]; omega
  · simp

def scanLiteralLines (cs : List Char) : Option (List Char × List Char) :=
  match cs with
  | [] => none
  | c :: rest =>
      match closing? '\'' (c :: rest) with
      | some found => some found
      | none =>
          match _h : newLine? (c :: rest) with
          | some rest => (scanLiteralLines rest).map fun (s, rest) => ('\n' :: s, rest)
          | none =>
              if isVisible c then (scanLiteralLines rest).map fun (s, rest) => (c :: s, rest)
              else none
termination_by cs.length
decreasing_by
  · exact length_of_newLine? _h
  · simp

def skipFirstLineEnd (cs : List Char) : List Char :=
  (newLine? cs).getD cs

def scanString : List Char → Option (List Char × List Char)
  | '"' :: '"' :: '"' :: cs => scanBasicLines false (skipFirstLineEnd cs)
  | '"' :: cs => scanBasic cs
  | '\'' :: '\'' :: '\'' :: cs => scanLiteralLines (skipFirstLineEnd cs)
  | '\'' :: cs => scanLiteral cs
  | _ => none

end Gateway.Toml
