import SpokenCommand.Json.Text
import SpokenCommand.Vocabulary

/-!
# Handshakes

The first and only message of a client: the vocabulary and the sentences it wants to be understood,
and the versions of the exchange it speaks. A handshake is one line of JSON.
-/

namespace SpokenCommand

/-- What a client asks for. -/
structure Handshake where
  phrases : List PhraseEntry
  sentences : List String
  /-- The version of the exchange that the client speaks. -/
  version : Nat := 1
  /-- The oldest version that the client understands. -/
  minVersion : Nat := 1
deriving DecidableEq, Repr

open Json in
def PhraseEntry.record : Record PhraseEntry where
  name := "VocabularyEntry"
  blank := ⟨"", ""⟩
  fields := [
    field "key" .required .string fun key e => { e with key },
    field "template" .required .string fun template e => { e with template }]

def PhraseEntry.toJson (e : PhraseEntry) : Json.Value :=
  .object [("key", .string e.key), ("template", .string e.template)]

namespace Handshake

def hostVersion : Nat := 1

def hostMinVersion : Nat := 1

/-- Versions are machine words of 32 bits. -/
def versionLimit : Nat := Nat.pow 2 32

/-- Whether each side is at least as new as the other requires. -/
def isCompatible (h : Handshake) : Bool :=
  hostMinVersion ≤ h.version && h.minVersion ≤ hostVersion

open Json in
/-- A handshake as data; the versions may be left out. -/
def record : Record Handshake where
  name := "Handshake"
  blank := { phrases := [], sentences := [] }
  fields := [
    field "phrases" .required (.list PhraseEntry.record.schema) fun phrases h =>
      { h with phrases },
    field "sentences" .required (.list .string) fun sentences h => { h with sentences },
    field "api_version" .defaulted (.natural "u32" versionLimit) fun version h =>
      { h with version },
    field "min_api_version" .defaulted (.natural "u32" versionLimit) fun minVersion h =>
      { h with minVersion }]

def toJson (h : Handshake) : Json.Value :=
  .object [
    ("phrases", .array (h.phrases.map PhraseEntry.toJson)),
    ("sentences", .strings h.sentences),
    ("api_version", .nat h.version),
    ("min_api_version", .nat h.minVersion)]

/-- The line that a handshake travels as. -/
def line (h : Handshake) : String := h.toJson.write ++ "\n"

def encode (h : Handshake) : List UInt8 := Text.Utf8.encode h.line

/-- Reads a handshake; a newline at its end is allowed. -/
def decode (bytes : List UInt8) : Except Json.Fault Handshake := record.schema.read bytes

end Handshake

end SpokenCommand
