import Std.Data.HashMap
import SpokenCommand.Phrase

/-!
# Vocabulary

Every spoken form of every semantic key. Keys keep the order of their first use; the texts of a key
keep the order in which they were added, repetitions included.
-/

namespace SpokenCommand

/-- A semantic key and one phrase template that says it. -/
structure PhraseEntry where
  key : String
  template : String
deriving DecidableEq, Repr

/-- Expanded phrase texts, grouped by key. -/
structure Vocabulary where
  /-- The keys, in order of first use. -/
  order : Array String
  /-- The texts of each key. -/
  buckets : Std.HashMap String (Array String)

namespace Vocabulary

def empty : Vocabulary := ⟨#[], ∅⟩

/-! ## Adding texts -/

/-- Appends texts to a key. A key is in use from its first call on, even with no texts. -/
def extend (v : Vocabulary) (key : String) (texts : List String) : Vocabulary where
  order := if v.buckets.contains key then v.order else v.order.push key
  buckets := v.buckets.alter key fun bucket => some (bucket.getD #[] ++ texts)

/-- Appends the texts that an entry's template stands for. -/
def insert (v : Vocabulary) (entry : PhraseEntry) : Vocabulary :=
  v.extend entry.key (Phrase.texts entry.template)

def ofEntries (entries : List PhraseEntry) : Vocabulary := entries.foldl insert empty

/-! ## Looking texts up -/

/-- The texts added to a key so far. -/
def bucket (v : Vocabulary) (key : String) : List String := (v.buckets.getD key #[]).toList

/-- The texts of a key that has any. -/
def texts? (v : Vocabulary) (key : String) : Option (List String) :=
  let found := v.bucket key
  if found.isEmpty then none else some found

def contains (v : Vocabulary) (key : String) : Bool := (v.texts? key).isSome

def keys (v : Vocabulary) : List String := v.order.toList

/-- Every key with its texts, in order of first use. -/
def toList (v : Vocabulary) : List (String × List String) :=
  v.keys.filterMap fun key => v.buckets[key]?.map fun texts => (key, texts.toList)

def size (v : Vocabulary) : Nat := v.order.size

def isEmpty (v : Vocabulary) : Bool := v.order.isEmpty

def textCount (v : Vocabulary) : Nat :=
  v.buckets.fold (fun count _ texts => count + texts.size) 0

end Vocabulary

end SpokenCommand
