import SpokenCommand.Tool

/-!
# The grammar tool on the command line
-/

namespace SpokenCommand

def readFile (path : String) : IO (Except FileError (List UInt8)) := do
  try
    let bytes ← IO.FS.readBinFile path
    return .ok bytes.data.toList
  catch
    | .noFileOrDirectory .. => return .error .notFound
    | .inappropriateType .. => return .error .isDirectory
    | e => return .error (.other e.toString)

/-- Reads the one file that the arguments may name. -/
def filesFor (args : List String) : IO Files := do
  match Tool.parse args with
  | .ok (.compile path _ _) | .ok (.recognize path _ _) =>
    let content ← readFile path
    return fun asked => if asked = path then content else .error .notFound
  | _ => return fun _ => .error .notFound

end SpokenCommand

def main (args : List String) : IO UInt32 := do
  let result := SpokenCommand.Tool.run (← SpokenCommand.filesFor args) args
  IO.print result.stdout
  IO.eprint (result.stderr.getD "usage: grammar phrase|sentence|compile|recognize ...\n")
  return UInt32.ofNat result.exitCode
