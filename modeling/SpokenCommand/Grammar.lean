import SpokenCommand.Sentence
import SpokenCommand.StepId
import SpokenCommand.Text.Quoted
import SpokenCommand.Vocabulary

/-!
# Grammars

A grammar is an alternation of step sequences. `Compiler.assemble` resolves the keys of expanded
sentences against a vocabulary; a key without texts matches its own text. `Compiler.compile`
starts from the templates themselves.
-/

namespace SpokenCommand

/-- One position of a compiled sentence. -/
inductive Step where
  /-- Free speech up to the next fixed step. -/
  | free
  /-- One of `texts`, reported under `tag`; `id` tells the repeated uses of a tag apart. -/
  | choice (id tag : String) (texts : List String)
deriving DecidableEq, Repr

def Step.id? : Step → Option String
  | .free => none
  | .choice id _ _ => some id

def Step.tag? : Step → Option String
  | .free => none
  | .choice _ tag _ => some tag

/-- The texts of a choice after its id, and dots for free speech. -/
def Step.render : Step → String
  | .free => Template.freeSpeech
  | .choice id _ texts => id ++ "\x7b" ++ "|".intercalate texts ++ "\x7d"

abbrev StepSequence := List Step

def StepSequence.render (steps : StepSequence) : String := " ".intercalate (steps.map Step.render)

/-- An alternation of step sequences under one name. -/
structure Grammar where
  name : String
  locale : String
  sentences : List StepSequence
  /-- Texts over all steps, free speech counting as one. -/
  choiceCount : Nat
deriving DecidableEq, Repr

inductive GrammarError where
  /-- There is no sentence to recognize. -/
  | empty (name : String)
  /-- The name holds nothing but blanks. -/
  | invalidName (name : String)
deriving DecidableEq, Repr

def GrammarError.message : GrammarError → String
  | .empty name => "no sentence variants to compile into grammar '" ++ name ++ "'"
  | .invalidName name => "invalid grammar name: " ++ Text.quoted name

/-- What a grammar is compiled under. -/
structure Compiler where
  name : String := "Command"
  locale : String := "en-US"
deriving DecidableEq, Repr

namespace Compiler

/-- A compiler for grammars of the given name, which may not be blank. -/
def named (name : String) : Except GrammarError Compiler :=
  if Text.allBlank name then .error (.invalidName name) else .ok { name }

/-! ## Compiling sentences -/

/-- What the compiler carries along: the texts of the keys met so far, each looked up once, and the
number of choices. -/
structure Work where
  cache : Std.HashMap String (List String) := ∅
  choices : Nat := 0

/-- The texts of a key: its vocabulary, or the key itself when that is empty. -/
def resolve (vocabulary : Vocabulary) (key : String) : List String :=
  (vocabulary.texts? key).getD [key]

/-- The texts of a key, from the cache where possible. -/
def Work.resolve (work : Work) (vocabulary : Vocabulary) (key : String) : Work × List String :=
  match work.cache[key]? with
  | some texts => (work, texts)
  | none =>
    let texts := Compiler.resolve vocabulary key
    ({ work with cache := work.cache.insert key texts }, texts)

def Work.step (work : Work) (vocabulary : Vocabulary) (position : Nat) :
    Sentence.Term → Work × Step
  | .free => ({ work with choices := work.choices + 1 }, .free)
  | .key key =>
    -- The id tells positions apart, so that a key may stand in a sentence twice.
    let (work, texts) := work.resolve vocabulary key
    ({ work with choices := work.choices + texts.length },
      .choice (StepId.render key position) key texts)

/-- The steps for the terms of a sentence from a position on. -/
def Work.steps (work : Work) (vocabulary : Vocabulary) (position : Nat) :
    List Sentence.Term → Work × List Step
  | [] => (work, [])
  | term :: terms =>
    let (work, step) := work.step vocabulary position term
    let (work, steps) := work.steps vocabulary (position + 1) terms
    (work, step :: steps)

/-- One more sentence, appended to those compiled so far. -/
def Work.sentence (vocabulary : Vocabulary) (state : Work × Array StepSequence)
    (sentence : Sentence.Variant) : Work × Array StepSequence :=
  let (work, steps) := state.1.steps vocabulary 0 sentence
  (work, state.2.push steps)

/-- The grammar of expanded sentences, with their keys resolved against a vocabulary. -/
def assemble (c : Compiler) (vocabulary : Vocabulary) (sentences : List Sentence.Variant) :
    Except GrammarError Grammar :=
  if sentences.isEmpty then .error (.empty c.name)
  else
    let (work, compiled) := sentences.foldl (Work.sentence vocabulary) ({}, #[])
    .ok {
      name := c.name
      locale := c.locale
      sentences := compiled.toList
      choiceCount := work.choices }

/-- Expands phrase and sentence templates and compiles the result. -/
def compile (c : Compiler) (phrases : List PhraseEntry) (sentences : List String) :
    Except GrammarError Grammar :=
  c.assemble (.ofEntries phrases) (sentences.flatMap Sentence.variants)

end Compiler

/-- Notes a key that matches its own text, unless it is noted already. -/
def noteUnspoken (vocabulary : Vocabulary) (noted : List String) : Sentence.Term → List String
  | .free => noted
  | .key key =>
    if vocabulary.contains key || noted.contains key then noted else noted ++ [key]

/-- The keys that match their own text, in order of first use. -/
def unspokenKeys (vocabulary : Vocabulary) (sentences : List Sentence.Variant) : List String :=
  sentences.flatten.foldl (noteUnspoken vocabulary) []

end SpokenCommand
