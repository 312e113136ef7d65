import SpokenCommand.Template.Scan
import SpokenCommand.Text.Alphanumeric

/-!
# Phrase templates

A phrase template describes the spoken forms of one concept: `deploy ?light stick` is "deploy
stick" with an optional "light". `scan` reads a template, `expand` enumerates what its tokens can
stand for, and `texts` does both.
-/

namespace SpokenCommand.Phrase

open Template Text

inductive Token where
  /-- One or more words that are always said, with a space between them. -/
  | words (text : String)
  /-- Free speech, passed through as text. -/
  | free
  /-- A word that may be left out. -/
  | optional (word : String)
deriving DecidableEq, Repr

def Token.text : Token → String
  | .words text => text
  | .free => freeSpeech
  | .optional word => word

def Token.isOptional : Token → Bool
  | .optional _ => true
  | _ => false

/-! ## Scanning -/

/-- The characters that spell a word. -/
def isWordChar (c : Char) : Bool := isAlphanumeric c || c == '_' || c == '\'' || c == '-'

/-- A maximal run of words, each after any number of spaces. -/
def wordRun : Shape (List (List Char)) := .many (.afterSpaces (.run isWordChar))

def optionalWord : Shape (List Char) := .map Prod.snd (.seq (.char '?') (.run isWordChar))

/-- A token: words, free speech or an optional word, tried in this order. -/
def token : Shape Token :=
  .orElse (.map (fun ws => .words (" ".intercalate (ws.map String.ofList))) wordRun)
    (.orElse (.map (fun _ => .free) wildcard)
      (.map (fun w => .optional (String.ofList w)) optionalWord))

def scan (template : String) : Scan Token := Template.scan token template.toList

/-! ## Expansion -/

/-- `said`, then `text` behind a space, unless there is nothing or a space in front of it. -/
def glue (said text : String) : String :=
  if said.isEmpty || said.toList.getLast? == some ' ' then said ++ text else said ++ " " ++ text

/-- What can have been said after one more token. -/
def widen (variants : List String) (t : Token) : List String :=
  -- The texts without an optional word come behind all those with it.
  variants.map (glue · t.text) ++ (if t.isOptional then variants else [])

/-- Every text the tokens can stand for, the empty one left out. Each optional token doubles their
number. -/
def expand (tokens : List Token) : List String :=
  (tokens.foldl widen [""]).filter (!·.isEmpty)

def texts (template : String) : List String := expand (scan template).tokens

end SpokenCommand.Phrase
