import Gateway.Audit.Settings

namespace Gateway.CommandLine

inductive Verb where
  | audit
  | encode
  | decode
  deriving DecidableEq

def Verb.ofName? : String → Option Verb
  | "audit" => some .audit
  | "encode" => some .encode
  | "decode" => some .decode
  | _ => none

inductive Command where
  | audit (config : String) (exclude : List String) (severities : List Severity)
      (settings : Option String) (json : Bool)
  | encode (config : String) (output : String)
  | decode (input : String)
  deriving DecidableEq

inductive Request where
  | run (command : Command)
  | help (verb : Option Verb)
  | helpOnHelp
  | misuse
  deriving DecidableEq

inductive Flag where
  | exclude
  | severity
  | settings
  | json
  | output
  | help
  deriving DecidableEq

namespace Flag

def ofLongName? : String → Option Flag
  | "exclude" => some .exclude
  | "severity" => some .severity
  | "settings" => some .settings
  | "json" => some .json
  | "output" => some .output
  | "help" => some .help
  | _ => none

def ofShortName? : Char → Option Flag
  | 'e' => some .exclude
  | 's' => some .severity
  | 'o' => some .output
  | 'h' => some .help
  | _ => none

def belongsTo : Flag → Verb → Bool
  | .help, _ => true
  | .output, v => v = .encode
  | _, v => v = .audit

def takesValue : Flag → Bool
  | .json | .help => false
  | _ => true

end Flag

structure Draft where
  file : Option String := none
  exclude : List String := []
  severities : List Severity := []
  settings : Option String := none
  json : Bool := false
  output : Option String := none

namespace Draft

def fileName? (current : Option String) (name : String) : Option (Option String) :=
  if current.isSome || name = "" then none else some (some name)

def addFile (d : Draft) (name : String) : Option Draft :=
  (fileName? d.file name).map fun file => { d with file }

def addFlag (d : Draft) (flag : Flag) (value : String) : Option Draft :=
  match flag with
  | .exclude => some { d with exclude := d.exclude ++ [value] }
  | .severity =>
      (Severity.ofLabel? value).map fun s => { d with severities := d.severities ++ [s] }
  | .settings => (fileName? d.settings value).map fun settings => { d with settings }
  | .output => (fileName? d.output value).map fun output => { d with output }
  | .json => if d.json then none else some { d with json := true }
  | .help => some d

def command? (d : Draft) : Verb → Option Command
  | .audit => d.file.map fun file => .audit file d.exclude d.severities d.settings d.json
  | .encode => do return .encode (← d.file) (← d.output)
  | .decode => d.file.map .decode

end Draft

def isPlain (word : String) : Bool :=
  match word.toList with
  | '-' :: _ :: _ => false
  | _ => true

def flag? (word : String) : Option (Flag × Option String) :=
  match word.toList with
  | '-' :: '-' :: cs =>
      let name := String.ofList (cs.takeWhile (· ≠ '='))
      let value := match cs.dropWhile (· ≠ '=') with
        | _ :: value => some (String.ofList value)
        | [] => none
      (Flag.ofLongName? name).map (·, value)
  | '-' :: c :: cs =>
      let value := match cs with
        | [] => none
        | '=' :: value => some (String.ofList value)
        | value => some (String.ofList value)
      (Flag.ofShortName? c).map fun flag => (flag, if flag = .help then none else value)
  | _ => none

def finish (verb : Verb) (draft : Option Draft) : Request :=
  match draft.bind (·.command? verb) with
  | some c => .run c
  | none => .misuse

def takeValue (value : Option String) (words : List String) : Option (String × List String) :=
  match value, words with
  | some value, _ => some (value, words)
  | none, next :: words => if isPlain next then some (next, words) else none
  | none, [] => none

theorem length_of_takeValue {value : Option String} {words rest : List String} {v : String}
    (h : takeValue value words = some (v, rest)) : rest.length ≤ words.length := by
  unfold takeValue at h
  split at h
  · cases h; exact Nat.le_refl _
  · split at h
    · cases h; simp
    · cases h
  · cases h

def parseWords (verb : Verb) (draft : Draft) (words : List String) : Request :=
  match words with
  | [] => finish verb (some draft)
  | word :: words =>
      if word = "--" then finish verb (words.foldlM Draft.addFile draft)
      else if isPlain word then
        match draft.addFile word with
        | some draft => parseWords verb draft words
        | none => .misuse
      else
        match flag? word with
        | none => .misuse
        | some (flag, value) =>
            if !flag.belongsTo verb then .misuse
            else if flag.takesValue then
              match _h : takeValue value words with
              | none => .misuse
              | some (value, words) =>
                  match draft.addFlag flag value with
                  | some draft => parseWords verb draft words
                  | none => .misuse
            else if value.isSome then .misuse
            else if flag = .help then .help (some verb)
            else
              match draft.addFlag flag "" with
              | some draft => parseWords verb draft words
              | none => .misuse
termination_by words.length
decreasing_by
  · simp
  · have := length_of_takeValue _h
    simp only [List.length_cons]; omega
  · simp

def parse : List String → Request
  | [] => .misuse
  | "help" :: words =>
      match words with
      | [] => .help none
      | ["help"] => .helpOnHelp
      | [name] =>
          match Verb.ofName? name with
          | some verb => .help (some verb)
          | none => .misuse
      | _ => .misuse
  | word :: words =>
      match Verb.ofName? word with
      | some verb => parseWords verb {} words
      | none => if flag? word = some (.help, none) then .help none else .misuse

end Gateway.CommandLine
