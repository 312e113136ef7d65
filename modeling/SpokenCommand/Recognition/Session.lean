import SpokenCommand.Recognition.Recognizer
import SpokenCommand.Recognition.Reducer

/-!
# Recognition sessions

A session owns a recognizer, one grammar and one subscriber. Each time it begins to listen, it opens
a channel with a reducer of its own at the other end; what the reducer makes of an event goes to
the subscriber of the session.

Every operation gives back the session together with its result, because an operation that fails
may have changed the session too.
-/

namespace SpokenCommand

/-- A recognizer that may refuse. Calls are counted from one; a refused call has no effect on the
recognizer. -/
structure Backend where
  recognizer : Recognizer Reducer
  loads : Nat := 0
  starts : Nat := 0
  /-- Why the call of this number to load a grammar is refused, if it is. -/
  loadRefusal : Nat → Option String := fun _ => none
  /-- Why the call of this number to listen is refused, if it is. -/
  startRefusal : Nat → Option String := fun _ => none

namespace Backend

/-- Asks the recognizer to load a grammar. -/
def load (b : Backend) (g : Grammar) : Backend × Except RecognitionError Unit :=
  let b := { b with loads := b.loads + 1 }
  match b.loadRefusal b.loads with
  | some reason => (b, .error (.backend reason))
  | none => match b.recognizer.load g with
    | .ok recognizer => ({ b with recognizer }, .ok ())
    | .error e => (b, .error e)

/-- Asks the recognizer to listen. -/
def start (b : Backend) (channel : Reducer) : Backend × Except RecognitionError Unit :=
  let b := { b with starts := b.starts + 1 }
  match b.startRefusal b.starts with
  | some reason => (b, .error (.backend reason))
  | none => match b.recognizer.start channel with
    | .ok recognizer => ({ b with recognizer }, .ok ())
    | .error e => (b, .error e)

def unloadAll (b : Backend) : Backend := { b with recognizer := b.recognizer.unloadAll }

/-- Stops listening. -/
def stop (b : Backend) : Backend := { b with recognizer := b.recognizer.stop }

end Backend

/-- A session with subscribers of type `σ`. -/
structure Session (σ : Type) where
  config : RecognitionConfig
  backend : Backend
  grammar : Option Grammar := none
  subscriber : Option σ := none
  listening : Bool := false

namespace Session

variable {σ : Type}

/-- A session over a recognizer that never refuses. -/
def fresh (config : RecognitionConfig) (locale : String) : Session σ :=
  { config, backend := { recognizer := { locale } } }

/-! ## Listening -/

def beginListening (s : Session σ) (subscriber : σ) : Session σ × Except RecognitionError Unit :=
  match s.grammar with
  | none => (s, .error .noGrammar)
  | some g =>
    match s.backend.start (.ofConfig s.config g.name) with
    | (backend, .ok ()) =>
      ({ s with backend, subscriber := some subscriber, listening := true }, .ok ())
    -- The slot is cleared rather than kept, whoever was in it.
    | (backend, .error e) => ({ s with backend, subscriber := none }, .error e)

def endListening (s : Session σ) : Session σ :=
  { s with backend := s.backend.stop, subscriber := none, listening := false }

/-- Listens for the subscriber. A session that is already listening stays as it is. -/
def start (s : Session σ) (subscriber : σ) : Session σ × Except RecognitionError Unit :=
  if s.listening then (s, .ok ()) else s.beginListening subscriber

/-- Stops listening, if it is. -/
def stop (s : Session σ) : Session σ := if s.listening then s.endListening else s

/-! ## Loading -/

/-- Listens again for the subscriber that was there before, if there was one. -/
def resume (s : Session σ) : Option σ → Session σ × Except RecognitionError Unit
  | none => (s, .ok ())
  | some subscriber => s.beginListening subscriber

/-- Goes back to the previous grammar after a new one was refused, and listens again. -/
def restore (s : Session σ) (previous : Option Grammar) (subscriber : Option σ) : Session σ :=
  match previous with
  | none => (s.resume subscriber).1
  | some g =>
    match s.backend.load g with
    | (backend, .ok ()) => ({ s with backend, grammar := some g }.resume subscriber).1
    -- Without a grammar there is nothing to listen with, and the subscriber is let go.
    | (backend, .error _) => { s with backend }

/-- Replaces the loaded grammar. A session that is listening stops, and listens again for the same
subscriber once the grammar is loaded. When the grammar is refused, the session goes back to the
previous one first. -/
def load (s : Session σ) (g : Grammar) : Session σ × Except RecognitionError Unit :=
  let subscriber := if s.listening then s.subscriber else none
  let previous := s.grammar
  let quiet := s.stop
  let bare := { quiet with backend := quiet.backend.unloadAll, grammar := none }
  match bare.backend.load g with
  | (backend, .ok ()) => { bare with backend, grammar := some g }.resume subscriber
  -- Whatever becomes of the restoring, the error is the one about the new grammar.
  | (backend, .error e) => ({ bare with backend }.restore previous subscriber, .error e)

/-- A session that listens for the subscriber under the given grammar. -/
def ready (config : RecognitionConfig) (g : Grammar) (subscriber : σ) :
    Except RecognitionError (Session σ) :=
  match (fresh config config.locale).load g with
  | (_, .error e) => .error e
  | (loaded, .ok ()) =>
    match loaded.start subscriber with
    | (_, .error e) => .error e
    | (listening, .ok ()) => .ok listening

/-! ## Events -/

/-- What an event brings to the subscriber. -/
def deliver (s : Session σ) : Option (Reducer × Event) → Option (σ × String)
  | none => none
  | some (reducer, e) =>
    match reducer.reduce e, s.subscriber with
    | some text, some subscriber => some (subscriber, text)
    | _, _ => none

/-- Whether an utterance was recognized, and what it brings to the subscriber. -/
def say (s : Session σ) (utterance : String) (confidence : Numeral.Single) :
    Bool × Option (σ × String) :=
  let sent := s.backend.recognizer.hear utterance confidence
  (sent.isSome, s.deliver sent)

/-- Whether an event was sent, and what it brings to the subscriber. -/
def emit (s : Session σ) (e : Event) : Bool × Option (σ × String) :=
  let sent := s.backend.recognizer.emit e
  (sent.isSome, s.deliver sent)

end Session

end SpokenCommand
