import Gateway.CommandLine.Run

namespace Gateway.CommandLine

def readBytes (path : String) : IO (Option Bytes) :=
  try
    let contents ← IO.FS.readBinFile path
    return some contents.data.toList
  catch _ => return none

def writeBytes (path : String) (contents : Bytes) : IO Bool :=
  try
    IO.FS.writeBinFile path ⟨contents.toArray⟩
    return true
  catch _ => return false

def execute (pack : Bytes → Bytes) (args : List String) : IO UInt32 := do
  let request := parse args
  let files ← request.inputs.mapM fun path => return (path, ← readBytes path)
  let outcome := request.answer pack fun path => (files.lookup path).join
  match outcome with
  | .print text =>
      (← IO.getStdout).write ⟨text.toArray⟩
      return outcome.code
  | .write path contents =>
      if ← writeBytes path contents then return outcome.code else return Outcome.failure.code
  | .failure | .misuse => return outcome.code

end Gateway.CommandLine
