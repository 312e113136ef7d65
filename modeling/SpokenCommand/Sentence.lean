import SpokenCommand.Template.Scan
import SpokenCommand.Text.Alphanumeric

/-!
# Sentence templates

A sentence template is a sequence of semantic keys: `... ?please (move|go) everyone`. A key names
vocabulary entries, `(a|b)` picks one of several keys, `?` makes a key or a group optional, and
`...` stands for free speech. `normalize` tidies the spaces of a template, `scan` reads it, `expand`
enumerates what its tokens can stand for, and `variants` does all three.
-/

namespace SpokenCommand.Sentence

open Template Text

inductive Token where
  | key (key : String) (optional : Bool)
  | group (keys : List String) (optional : Bool)
  | free
deriving DecidableEq, Repr

/-- One position of an expanded sentence. -/
inductive Term where
  | free
  | key (key : String)
deriving DecidableEq, Repr

/-- A sentence with every alternative and optional resolved. -/
abbrev Variant := List Term

def Token.isOptional : Token → Bool
  | .key _ optional => optional
  | .group _ optional => optional
  | .free => false

/-- The terms a token may contribute at its position. -/
def Token.choices : Token → List Term
  | .key k _ => [.key k]
  | .group ks _ => ks.map .key
  | .free => [.free]

def Term.text : Term → String
  | .free => freeSpeech
  | .key k => k

/-- The terms of a sentence with a space between them. -/
def Variant.render (v : Variant) : String := " ".intercalate (v.map Term.text)

/-! ## Normal spacing -/

def dropControls (cs : List Char) : List Char :=
  cs.filter fun c => !(c == '\n' || c == '\r' || c == '\t')

/-- Leaves out the spaces behind a mark; `behind` says whether the mark stands in front, with nothing
but spaces in between. -/
def dropSpacesBehind (mark : Char) (behind : Bool) : List Char → List Char
  | [] => []
  | c :: cs =>
    if behind && c == ' ' then dropSpacesBehind mark true cs
    else c :: dropSpacesBehind mark (c == mark) cs

/-- A template without line breaks, tabs, spaces behind a bar and repeated spaces. -/
def normalize (template : String) : String :=
  -- In this order: what stands between two spaces, or a bar and a space, may be a line break.
  let tight := dropSpacesBehind '|' false (dropControls template.toList)
  String.ofList (dropSpacesBehind ' ' false tight)

/-! ## Scanning -/

/-- The characters that spell a key. -/
def isKeyChar (c : Char) : Bool := isAlphanumeric c || c == '_'

def key : Shape (List Char) := .run isKeyChar

/-- Keys between parentheses with bars between them; a bar may also precede the closing
parenthesis. -/
def group : Shape (List (List Char)) :=
  .map (fun found => found.2.1.1 :: found.2.1.2)
    (.seq (.char '(')
      (.seq (.followedBy key (.afterOptional '|' key)) (.afterOptional '|' (.char ')'))))

def optionalGroup : Shape (List (List Char)) := .map Prod.snd (.seq (.char '?') group)

def optionalKey : Shape (List Char) := .map Prod.snd (.seq (.char '?') key)

/-- A token: an optional group, an optional key, a key, a group or free speech, tried in this
order. -/
def token : Shape Token :=
  .orElse (.map (fun ks => .group (ks.map String.ofList) true) optionalGroup)
    (.orElse (.map (fun k => .key (String.ofList k) true) optionalKey)
      (.orElse (.map (fun k => .key (String.ofList k) false) key)
        (.orElse (.map (fun ks => .group (ks.map String.ofList) false) group)
          (.map (fun _ => .free) wildcard))))

/-- The tokens of a sentence template, taken as it stands, and its rejected fragments. -/
def scan (template : String) : Scan Token := Template.scan token template.toList

/-- The tokens of a sentence template in normal spacing. -/
def tokens (template : String) : List Token := (scan (normalize template)).tokens

/-! ## Expansion -/

/-- What the first token can say; saying nothing comes last. -/
def seed (t : Token) : List Variant :=
  t.choices.map ([·]) ++ (if t.isOptional then [[]] else [])

/-- What can have been said after one more token; leaving it out comes first. -/
def widen (variants : List Variant) (t : Token) : List Variant :=
  (if t.isOptional then variants else [])
    ++ t.choices.flatMap fun choice => variants.map (· ++ [choice])

def expand : List Token → List Variant
  | [] => []
  | t :: ts => ts.foldl widen (seed t)

/-- The sentences a template stands for. One with no terms could not be recognized and is left
out. -/
def variants (template : String) : List Variant :=
  (expand (tokens template)).filter (!·.isEmpty)

end SpokenCommand.Sentence
