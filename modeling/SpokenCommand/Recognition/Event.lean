import SpokenCommand.Json.Schema

/-!
# Recognition events

What a speech engine reports when it has recognized something: how sure it is, under which grammar,
and the steps it matched with their semantic values.
-/

namespace SpokenCommand

/-- One step of a recognized sentence. -/
structure EventStep where
  /-- The id of the step, which tells the repeated uses of one tag apart. -/
  step : String
  /-- Its semantic value; free speech has none. -/
  value : Option String
deriving DecidableEq, Repr

structure Event where
  confidence : Numeral.Single
  grammar : String
  steps : List EventStep
  /-- Whether the engine noted the time. -/
  stamped : Bool
deriving DecidableEq, Repr

open Json in
def EventStep.record : Record EventStep where
  name := "MatchedStep"
  blank := ⟨"", none⟩
  fields := [
    field "step" .required .string fun step s => { s with step },
    field "value" .nullable (.nullable .string) fun value s => { s with value }]

open Json in
/-- An event as data. Its time is never given. -/
def Event.record : Record Event where
  name := "RecognitionEvent"
  blank := ⟨.ofInt 0, "", [], false⟩
  fields := [
    field "confidence" .required .single fun confidence e => { e with confidence },
    field "grammar_name" .required .string fun grammar e => { e with grammar },
    field "matched_steps" .required (.list EventStep.record.schema) fun steps e =>
      { e with steps },
    field "ts" .nullable (.null "an `OffsetDateTime`") fun _ e => { e with stamped := false }]

end SpokenCommand
