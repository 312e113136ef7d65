import SpokenCommand.Grammar
import SpokenCommand.Json.Schema

/-!
# Recognition settings
-/

namespace SpokenCommand

/-- In which order the values of an event are joined. -/
inductive StepOrder where
  /-- As the engine reported them. -/
  | reported
  /-- By the position in each step id. -/
  | sentencePosition
deriving DecidableEq, Repr

/-- How recognitions are filtered and named. -/
structure RecognitionConfig where
  /-- Events at or below this confidence are discarded. -/
  threshold : Numeral.Single := .ofRatio false 6 10
  /-- The name that grammars are compiled under. -/
  grammarName : String := "Command"
  locale : String := "en-US"
  order : StepOrder := .reported
deriving DecidableEq, Repr

namespace RecognitionConfig

def compiler (c : RecognitionConfig) : Except GrammarError Compiler :=
  (Compiler.named c.grammarName).map fun compiler => { compiler with locale := c.locale }

open Json in
/-- The settings as data; each of them may be left out. -/
def record : Record RecognitionConfig where
  name := "RecognizerConfig"
  blank := {}
  fields := [
    field "confidence_threshold" .defaulted .single fun threshold c => { c with threshold },
    field "grammar_name" .defaulted .string fun grammarName c => { c with grammarName },
    field "locale" .defaulted .string fun locale c => { c with locale },
    field "step_order" .defaulted
      (.choice [("reported", .reported), ("sentence_position", .sentencePosition)])
      fun order c => { c with order }]

end RecognitionConfig

end SpokenCommand
