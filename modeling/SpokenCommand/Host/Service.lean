import SpokenCommand.Host.Config
import SpokenCommand.Recognition.Session

/-!
# Serving a client

The host serves one client: it reads the handshake, compiles the grammar, and from then on sends the
client a line for each utterance that it recognizes, until the client closes its sending side.
`attach` is everything up to listening, `reply` is one utterance, and `serve` is the whole visit.
-/

namespace SpokenCommand.Host

/-- The session for the grammar that a handshake asks for, listening. -/
def listen (config : Config) (h : Handshake) : Except Failure (Session Unit) := do
  let compiler ← plainly (.recognition ∘ .grammar) config.recognition.compiler
  let grammar ← during "compiling grammar" (.recognition ∘ .grammar)
    (compiler.compile h.phrases h.sentences)
  plainly .recognition (Session.ready config.recognition grammar ())

/-- Everything from the first byte of a client up to listening for it. -/
def attach (config : Config) (stream : List UInt8) : Except Failure (Session Unit) := do
  let h ← during "reading handshake" .transport (Transport.readHandshake stream).1
  listen config h

/-- Whether an utterance was recognized, and the line that is sent to the client for it. -/
def reply (config : Config) (session : Session Unit) (utterance : String) :
    Bool × Option String :=
  let (emitted, delivered) := session.say utterance typedConfidence
  (emitted, delivered.bind fun (_, text) => Transport.sendResult text config.endpoint.maxPayload)

inductive Outcome where
  | idleTimeout
  | clientClosed
deriving DecidableEq, Repr

structure Visit where
  outcome : Outcome
  /-- Whether the host got to listen. -/
  attached : Bool
  /-- For each utterance whether it was recognized, and the line sent for it. -/
  replies : List (Bool × Option String)
  /-- Whether anything is still recognized after the client has left. -/
  afterwards : Option Bool
deriving DecidableEq, Repr

/-- Serves a client who sends `stream` and stays while the utterances are said. Only a handshake without
a newline makes the client close its sending side; the host takes that for leaving, and what is said
finds the session stopped. Without a client the host waits until it has waited long enough. -/
def serve (config : Config) (client : Option (List UInt8)) (utterances : List String) :
    Except Failure Visit :=
  match client with
  | none => .ok ⟨.idleTimeout, false, [], none⟩
  | some stream => do
    let session ← attach config stream
    let left := session.stop
    -- A client leaves before the first utterance or after the last, so all of them meet one session.
    let present := if Transport.newline ∈ stream then session else left
    return {
      outcome := .clientClosed
      attached := session.listening
      replies := utterances.map (reply config present)
      afterwards := some (utterances.any fun u => (left.say u typedConfidence).1) }

def Visit.lines (v : Visit) : List String := v.replies.filterMap Prod.snd

end SpokenCommand.Host
