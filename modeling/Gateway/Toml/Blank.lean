namespace Gateway.Toml

def isBlank (c : Char) : Bool :=
  c == ' ' || c == '\t'

def isVisible (c : Char) : Bool :=
  c == '\t' || (' ' ≤ c && c ≠ '\x7f')

def skipBlanks (cs : List Char) : List Char :=
  cs.dropWhile isBlank

def newLine? : List Char → Option (List Char)
  | '\n' :: cs => some cs
  | '\r' :: '\n' :: cs => some cs
  | _ => none

theorem length_of_newLine? {cs rest : List Char} (h : newLine? cs = some rest) :
    rest.length < cs.length := by
  unfold newLine? at h
  split at h
  · cases h; simp
  · cases h; simp only [List.length_cons]; omega
  · cases h

def skipComment : List Char → List Char
  | '#' :: cs => cs.dropWhile isVisible
  | cs => cs

def lineEnd? (cs : List Char) : Option (List Char) :=
  match skipComment (skipBlanks cs) with
  | [] => some []
  | rest => newLine? rest

def skipFiller? : (inComment : Bool) → List Char → Option (List Char)
  | _, [] => some []
  | inComment, c :: cs =>
      if c = '\n' then skipFiller? false cs
      else if c = '\r' then
        match cs with
        | '\n' :: rest => skipFiller? false rest
        | _ => none
      else if inComment then
        if isVisible c then skipFiller? true cs else none
      else if isBlank c then skipFiller? false cs
      else if c = '#' then skipFiller? true cs
      else some (c :: cs)

end Gateway.Toml
