import SpokenCommand.Host.Service

/-!
# The host as a program
-/

namespace SpokenCommand.Host

structure Run where
  exitCode : Nat
  /-- What is written to standard error; nothing is said about a usage error. -/
  stderr : Option String
  /-- The lines that the client receives. -/
  lines : List String
deriving DecidableEq, Repr

/-- What happens around a run of the host. -/
structure Surroundings where
  files : Files
  /-- The ports that others listen on. -/
  takenPorts : List Nat := []
  /-- What a client sends, if one comes. Without a newline it closes its sending side behind that. -/
  client : Option (List UInt8) := none
  /-- How many lines the client waits for before it leaves. -/
  awaited : Nat := 0
  /-- What is typed on standard input. -/
  stdin : List UInt8 := []

/-- The bytes of each line, without its newline; `line` is the one being read, reversed. -/
def splitLines (line : List UInt8) : List UInt8 → List (List UInt8)
  | [] => if line.isEmpty then [] else [line.reverse]
  | b :: bytes =>
    if b = Transport.newline then line.reverse :: splitLines [] bytes
    else splitLines (b :: line) bytes

/-- The utterances typed on standard input: its lines without blanks around them, as far as they are
text, and without the blank ones. -/
def typedUtterances (stdin : List UInt8) : List String :=
  -- The first line that is no text ends the reading.
  let readable := ((splitLines [] stdin).map Text.Utf8.decode?).takeWhile Option.isSome
  (readable.filterMap id).map Text.trim |>.filter (!·.isEmpty)

/-- Runs the host with settings from its command line. -/
def serveWith (flags : Flags) (around : Surroundings) : Except Failure Visit := do
  let config ← flags.resolve around.files
  if around.takenPorts.contains config.endpoint.port then
    throw ⟨some "starting listener", .transport (.portInUse config.endpoint.port)⟩
  serve config around.client (if flags.stdin then typedUtterances around.stdin else [])

def run (args : List String) (around : Surroundings) : Run :=
  match Flags.parse args with
  | .error .help => ⟨0, some "", []⟩
  | .error _ => ⟨2, none, []⟩
  | .ok flags =>
    match serveWith flags around with
    | .error failure => ⟨1, some failure.report, []⟩
    | .ok visit => ⟨0, some "", visit.lines.take around.awaited⟩

end SpokenCommand.Host
