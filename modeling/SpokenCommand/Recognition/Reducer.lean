import SpokenCommand.Recognition.Config
import SpokenCommand.Recognition.Event

/-!
# Reducing events

An event is reduced to one canonical string: the values of its steps with spaces between them.
Events below the threshold, events of another grammar and events without any value are discarded.
-/

namespace SpokenCommand

/-- What decides about the events of one grammar. -/
structure Reducer where
  threshold : Numeral.Single
  grammar : String
  order : StepOrder

namespace Reducer

def ofConfig (c : RecognitionConfig) (grammar : String) : Reducer :=
  ⟨c.threshold, grammar, c.order⟩

/-- Strictly above the threshold, and from the expected grammar. -/
def accepts (r : Reducer) (e : Event) : Bool :=
  decide (r.threshold < e.confidence) && e.grammar == r.grammar

/-- The position a step is sorted by; ids without one come last. -/
def position (id : String) : Nat :=
  ((StepId.parse? id).map Prod.snd).getD (StepId.positionLimit - 1)

/-- The ids and values of the steps that have a value, in the order asked for. -/
def tagged (r : Reducer) (e : Event) : List (String × String) :=
  let reported := e.steps.filterMap fun s => s.value.map (s.step, ·)
  match r.order with
  | .reported => reported
  | .sentencePosition => reported.mergeSort fun a b => position a.1 ≤ position b.1

/-- The canonical string of an accepted event. -/
def reduce (r : Reducer) (e : Event) : Option String :=
  if r.accepts e then
    let text := " ".intercalate ((r.tagged e).map Prod.snd)
    if text.isEmpty then none else some text
  else none

end Reducer

end SpokenCommand
