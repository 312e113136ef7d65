import SpokenCommand.Grammar
import SpokenCommand.Text.Case

/-!
# Matching utterances

An utterance is recognized by the first sentence that covers all of its words. Words are compared
in lower case. Free speech takes at least one word and as few as possible; a choice tries its texts
in order.
-/

namespace SpokenCommand

open Text

def spokenWords (s : String) : List String := (words s).map lowercase

/-- How many words a text covers at the front of what was said; a text without words covers
nothing. -/
def textLength? (text : String) (said : List String) : Option Nat :=
  let expected := spokenWords text
  if !expected.isEmpty && expected.isPrefixOf said then some expected.length else none

/-- What was said, cut into one piece for each step. -/
def cut? : List Step → List String → Option (List (List String))
  | [], said => if said.isEmpty then some [] else none
  | .free :: steps, said =>
    -- Free speech takes as few words as the steps behind it allow, but at least one.
    (List.range said.length).findSome? fun n =>
      (cut? steps (said.drop (n + 1))).map (said.take (n + 1) :: ·)
  | .choice _ _ texts :: steps, said =>
    -- The first text that fits need not be the one that leaves the rest a way on.
    texts.findSome? fun text =>
      match textLength? text said with
      | none => none
      | some n => (cut? steps (said.drop n)).map (said.take n :: ·)

/-- What one step of the recognized sentence covered. -/
structure StepMatch where
  id? : Option String
  tag? : Option String
  text : String
deriving DecidableEq, Repr

/-- A recognized utterance: which sentence it was, and what each step covered. -/
structure Match where
  sentence : Nat
  steps : List StepMatch
deriving DecidableEq, Repr

def Step.report (step : Step) (piece : List String) : StepMatch :=
  ⟨step.id?, step.tag?, " ".intercalate piece⟩

/-- The first sentence that covers the whole utterance. -/
def Grammar.recognize? (g : Grammar) (utterance : String) : Option Match :=
  let said := spokenWords utterance
  if said.isEmpty then none
  else
    g.sentences.zipIdx.findSome? fun (steps, index) =>
      (cut? steps said).map fun found => ⟨index, List.zipWith Step.report steps found⟩

end SpokenCommand
