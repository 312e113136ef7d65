import SpokenCommand.Match
import SpokenCommand.Recognition.Event

/-!
# A recognizer for typed text

The recognizer "hears" typed utterances: it matches them against the loaded grammars and reports
what an acoustic engine would. Its events go into a channel of type `κ`, which it holds while it is
listening.
-/

namespace SpokenCommand

inductive RecognitionError where
  | noGrammar
  | localeMismatch (grammar recognizer : String)
  /-- The engine refused. -/
  | backend (reason : String)
  | grammar (cause : GrammarError)
deriving DecidableEq, Repr

def RecognitionError.message : RecognitionError → String
  | .noGrammar => "no grammar loaded"
  | .localeMismatch asked own =>
    "grammar locale " ++ asked ++ " does not match recognizer locale " ++ own
  | .backend reason => "backend error: " ++ reason
  | .grammar cause => cause.message

/-- A recognizer of one locale, its grammars in load order, and the channel of its events. -/
structure Recognizer (κ : Type) where
  locale : String
  grammars : List Grammar := []
  channel : Option κ := none

def typedConfidence : Numeral.Single := .ofRatio false 9 10

/-- Equal up to the case of ASCII letters. -/
def sameLocale (a b : String) : Bool := a.toList.map Char.toLower == b.toList.map Char.toLower

/-- The steps of an event for a recognized utterance. Free speech is reported without a value, under
the id that its position gives it. -/
def Match.eventSteps (m : Match) : List EventStep :=
  m.steps.zipIdx.map fun (step, position) =>
    match step.id?, step.tag? with
    | some id, some tag => ⟨id, some tag⟩
    -- Of what is recognized only free speech comes here, and it has no id.
    | id?, _ => ⟨id?.getD (StepId.render Template.freeSpeech position), none⟩

namespace Recognizer

variable {κ : Type}

/-- Loads a grammar of the recognizer's locale next to those already loaded. -/
def load (r : Recognizer κ) (g : Grammar) : Except RecognitionError (Recognizer κ) :=
  if sameLocale g.locale r.locale then .ok { r with grammars := r.grammars ++ [g] }
  else .error (.localeMismatch g.locale r.locale)

def unloadAll (r : Recognizer κ) : Recognizer κ := { r with grammars := [] }

/-- Listens, and sends events into the given channel from now on. -/
def start (r : Recognizer κ) (channel : κ) : Except RecognitionError (Recognizer κ) :=
  if r.grammars.isEmpty then .error .noGrammar else .ok { r with channel := some channel }

def stop (r : Recognizer κ) : Recognizer κ := { r with channel := none }

def isListening (r : Recognizer κ) : Bool := r.channel.isSome

/-- The event for an utterance, under the first grammar that recognizes it. -/
def eventFor (r : Recognizer κ) (utterance : String) (confidence : Numeral.Single) : Option Event :=
  r.grammars.findSome? fun g =>
    (g.recognize? utterance).map fun m => ⟨confidence, g.name, m.eventSteps, true⟩

/-- What hearing an utterance sends, and where. -/
def hear (r : Recognizer κ) (utterance : String) (confidence : Numeral.Single) : Option (κ × Event) :=
  match r.channel with
  | none => none
  | some channel => (r.eventFor utterance confidence).map (channel, ·)

/-- Sends an event as if the engine had produced it. -/
def emit (r : Recognizer κ) (e : Event) : Option (κ × Event) := r.channel.map (·, e)

end Recognizer

/-! ## Lines that hang up -/

/-- A channel whose other end may have hung up. -/
structure Line where
  connected : Bool := true
deriving DecidableEq, Repr

def Line.delivered (sent : Option (Line × Event)) : Option Event :=
  match sent with
  | some (line, e) => if line.connected then some e else none
  | none => none

/-- The other end of the current channel hangs up. -/
def Recognizer.hangUp (r : Recognizer Line) : Recognizer Line :=
  { r with channel := r.channel.map fun _ => { connected := false } }

end SpokenCommand
