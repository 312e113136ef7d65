import SpokenCommand.Failure
import SpokenCommand.Options
import SpokenCommand.Recognition.Session

/-!
# The grammar tool

A command line program that shows what templates stand for, what a handshake compiles to, and what
typed utterances are recognized as.
-/

namespace SpokenCommand.Tool

/-- What the tool is asked to do. -/
inductive Command where
  /-- Show the texts of a phrase template. -/
  | phrase (template : String)
  /-- Show the sentences of a sentence template. -/
  | sentence (template : String)
  /-- Show the grammar of a handshake file. -/
  | compile (handshake name : String) (steps : Bool)
  /-- Recognize typed utterances with the grammar of a handshake file. -/
  | recognize (handshake : String) (order : StepOrder) (utterances : List String)
deriving DecidableEq, Repr

/-! ## The command line -/

/-- The only operand. -/
def template (args : List String) : Except Options.Stop String := do
  let g ← Options.parse { operands := some 1 } args
  match g.operands with
  | [template] => return template
  | _ => throw .usage

/-- The path of the handshake file, which has to be given. -/
def handshakePath (g : Options.Given) : Except Options.Stop String :=
  match g.value? "handshake" with
  | some path => if path.isEmpty then .error .usage else .ok path
  | none => .error .usage

/-- The order that an option names. -/
def order (g : Options.Given) : Except Options.Stop StepOrder :=
  match g.value? "order" with
  | none => .ok .reported
  | some "reported" => .ok .reported
  | some "position" => .ok .sentencePosition
  | some _ => .error .usage

def parse : List String → Except Options.Stop Command
  | "phrase" :: args => do return .phrase (← template args)
  | "sentence" :: args => do return .sentence (← template args)
  | "compile" :: args => do
    let g ← Options.parse { valued := ["handshake", "name"], switches := ["steps"] } args
    return .compile (← handshakePath g) ((g.value? "name").getD ({} : Compiler).name)
      (g.has "steps")
  | "recognize" :: args => do
    let g ← Options.parse { valued := ["handshake", "order"], operands := none } args
    if g.operands.isEmpty then throw .usage
    return .recognize (← handshakePath g) (← order g) g.operands
  -- No command: what counts is whether help or the version is asked for.
  | args => do
    let _ ← Options.parse { versioned := true } (args.take 1)
    throw .usage

/-! ## Commands -/

def loadHandshake (files : Files) (path : String) : Except Failure Handshake := do
  let bytes ← during ("reading handshake: " ++ path) .file (files path)
  during ("decoding handshake: " ++ path) .transport (Transport.decodeHandshake bytes)

def wildcards (g : Grammar) : Nat := (g.sentences.flatten.filter (· = .free)).length

/-- What a handshake compiles to. -/
def describe (h : Handshake) (name : String) (steps : Bool) : Except Failure (List String) := do
  let vocabulary := Vocabulary.ofEntries h.phrases
  let sentences := h.sentences.flatMap Sentence.variants
  let config : RecognitionConfig := { grammarName := name }
  let compiler ← plainly (.recognition ∘ .grammar) config.compiler
  let g ← plainly (.recognition ∘ .grammar) (compiler.assemble vocabulary sentences)
  let summary :=
    s!"vocabulary: {vocabulary.size} keys, {vocabulary.textCount} texts"
      :: (unspokenKeys vocabulary sentences).map fun key =>
        s!"  '{key}' has no phrases and matches its own text"
  let size :=
    s!"grammar '{g.name}' ({g.locale}): {g.sentences.length} sentences, {g.choiceCount} choices"
  let details :=
    if steps then
      (vocabulary.toList.map fun (key, texts) => "  " ++ key ++ ": " ++ " | ".intercalate texts)
        ++ g.sentences.map fun s => "  " ++ StepSequence.render s
    else [s!"  {wildcards g} wildcard steps"]
  return summary ++ size :: details

/-- What one utterance is recognized as. -/
def answer (session : Session Unit) (utterance : String) : String :=
  match session.say utterance typedConfidence with
  | (false, _) => Text.quoted utterance ++ ": no match"
  | (true, some (_, text)) => Text.quoted utterance ++ " -> " ++ text
  | (true, none) => Text.quoted utterance ++ ": matched free speech only"

/-- What utterances are recognized as. -/
def recognize (h : Handshake) (order : StepOrder) (utterances : List String) :
    Except Failure (List String) := do
  let config : RecognitionConfig := { order }
  let compiler ← plainly (.recognition ∘ .grammar) config.compiler
  let g ← plainly (.recognition ∘ .grammar) (compiler.compile h.phrases h.sentences)
  let session ← plainly .recognition (Session.ready config g ())
  return utterances.map (answer session)

/-- The lines that a command shows. -/
def execute (files : Files) : Command → Except Failure (List String)
  | .phrase template => .ok (Phrase.texts template)
  | .sentence template => .ok ((Sentence.variants template).map Sentence.Variant.render)
  | .compile path name steps => do describe (← loadHandshake files path) name steps
  | .recognize path order utterances => do recognize (← loadHandshake files path) order utterances

structure Run where
  exitCode : Nat
  stdout : String
  /-- What is written to standard error; nothing is said about a usage error. -/
  stderr : Option String
deriving DecidableEq, Repr

def unlines (lines : List String) : String := String.join (lines.map (· ++ "\n"))

def run (files : Files) (args : List String) : Run :=
  match parse args with
  | .error .version => ⟨0, "grammar 0.1.0\n", some ""⟩
  | .error .help => ⟨0, "", some ""⟩
  | .error .usage => ⟨2, "", none⟩
  | .ok command =>
    match execute files command with
    | .ok lines => ⟨0, unlines lines, some ""⟩
    | .error failure => ⟨1, "", some failure.report⟩

end SpokenCommand.Tool
