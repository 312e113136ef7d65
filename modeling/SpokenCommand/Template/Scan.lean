import SpokenCommand.Template.Shape
import SpokenCommand.Text.Blank

/-!
# Scanning a template

A template is cut from left to right into pieces: a token wherever the shape of the language finds
one, and a single character elsewhere. `scan` keeps the tokens and, as rejected fragments, the
maximal runs of characters that are neither tokens nor blanks.
-/

namespace SpokenCommand.Template

open Text

/-- The text for free speech in both template languages. -/
def freeSpeech : String := "..."

inductive Piece (τ : Type) where
  /-- A token and the text it stands in. -/
  | token (value : τ) (source : List Char)
  /-- A blank between tokens. -/
  | blank (c : Char)
  /-- A character that begins no token. -/
  | stray (c : Char)

def Piece.source {τ : Type} : Piece τ → List Char
  | .token _ source => source
  | .blank c => [c]
  | .stray c => [c]

/-- A text cut into pieces: tokens where the shape finds them, single characters elsewhere. -/
def pieces {τ : Type} (shape : Shape τ) (input : List Char) : List (Piece τ) :=
  match input with
  | [] => []
  | c :: cs =>
    match found : shape.read (c :: cs) with
    | some lexeme => .token lexeme.token lexeme.source :: pieces shape lexeme.rest
    | none => (if isBlank c then .blank c else .stray c) :: pieces shape cs
termination_by input.length
decreasing_by
  · exact shape.length_rest_lt found
  · simp

/-- The maximal runs of adjacent stray characters; `run` is the one being read, reversed. -/
def strayRuns {τ : Type} (run : List Char) : List (Piece τ) → List (List Char)
  | [] => if run.isEmpty then [] else [run.reverse]
  | .stray c :: ps => strayRuns (c :: run) ps
  | .token _ _ :: ps => if run.isEmpty then strayRuns [] ps else run.reverse :: strayRuns [] ps
  | .blank _ :: ps => if run.isEmpty then strayRuns [] ps else run.reverse :: strayRuns [] ps

/-- The tokens of a template in order, and the fragments that were skipped. -/
structure Scan (τ : Type) where
  tokens : List τ
  rejected : List String
deriving DecidableEq, Repr

def Piece.value? {τ : Type} : Piece τ → Option τ
  | .token value _ => some value
  | _ => none

def scan {τ : Type} (shape : Shape τ) (template : List Char) : Scan τ :=
  let ps := pieces shape template
  { tokens := ps.filterMap Piece.value?, rejected := (strayRuns [] ps).map String.ofList }

/-- One or more groups of three dots. -/
def wildcard : Shape Unit :=
  .map (fun _ => ()) (.many (.seq (.char '.') (.seq (.char '.') (.char '.'))))

end SpokenCommand.Template
