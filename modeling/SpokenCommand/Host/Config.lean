import SpokenCommand.Failure
import SpokenCommand.Numeral.Read
import SpokenCommand.Options
import SpokenCommand.Recognition.Config

/-!
# Settings of the host

The host takes its settings from a JSON file, in which everything may be left out, and from its
command line, which wins over the file.
-/

namespace SpokenCommand.Host

/-- How the host meets its client. -/
structure EndpointConfig where
  port : Nat := 9856
  /-- How many seconds the host waits for a client. -/
  idleSeconds : Nat := 10
  /-- Results have to stay shorter than this, their newline included. -/
  maxPayload : Nat := 4096
deriving DecidableEq, Repr

def EndpointConfig.idleTimeout (c : EndpointConfig) : Text.Span := .ofSeconds c.idleSeconds

/-- The number of ports. -/
def portLimit : Nat := Nat.pow 2 16

/-- Counts are machine words of 64 bits. -/
def wordLimit : Nat := Nat.pow 2 64

open Json in
def EndpointConfig.record : Record EndpointConfig where
  name := "ServerConfig"
  blank := {}
  fields := [
    field "port" .defaulted (.natural "u16" portLimit) fun port c => { c with port },
    field "idle_timeout_secs" .defaulted (.natural "u64" wordLimit) fun idleSeconds c =>
      { c with idleSeconds },
    field "max_payload_len" .defaulted (.natural "usize" wordLimit) fun maxPayload c =>
      { c with maxPayload }]

structure Config where
  endpoint : EndpointConfig := {}
  recognition : RecognitionConfig := {}
deriving DecidableEq, Repr

namespace Config

open Json in
def record : Record Config where
  name := "DaemonConfig"
  blank := {}
  fields := [
    field "server" .defaulted EndpointConfig.record.schema fun endpoint c => { c with endpoint },
    field "recognizer" .defaulted RecognitionConfig.record.schema fun recognition c =>
      { c with recognition }]

/-- Reads the settings from a file, which has to be text. -/
def load (files : Files) (path : String) : Except Failure Config := do
  let bytes ← during ("reading config: " ++ path) .file (readText (files path))
  during ("parsing config: " ++ path) .json (record.schema.read bytes)
where
  /-- The bytes of a file, if they are text. -/
  readText : Except FileError (List UInt8) → Except FileError (List UInt8)
    | .error e => .error e
    | .ok bytes => if (Text.Utf8.decode? bytes).isSome then .ok bytes else .error .notText

end Config

/-! ## The command line -/

/-- What the command line says. -/
structure Flags where
  config : Option String := none
  port : Option Nat := none
  idleSeconds : Option Nat := none
  threshold : Option Numeral.Single := none
  locale : Option String := none
  /-- Whether utterances are typed on standard input. -/
  stdin : Bool := false
deriving DecidableEq, Repr

namespace Flags

def spec : Options.Spec where
  valued := ["config", "port", "idle-timeout", "confidence-threshold", "locale"]
  switches := ["stdin"]

/-- The value of an option in the form it has to have. -/
def read {α : Type} (g : Options.Given) (name : String) (form : String → Option α) :
    Except Options.Stop (Option α) :=
  match g.value? name with
  | none => .ok none
  | some value => match form value with
    | some a => .ok (some a)
    | none => .error .usage

def path? (s : String) : Option String := if s.isEmpty then none else some s

def parse (args : List String) : Except Options.Stop Flags := do
  let g ← Options.parse spec args
  return {
    config := ← read g "config" path?
    port := ← read g "port" fun s => Numeral.signedNatural? portLimit s.toList
    idleSeconds := ← read g "idle-timeout" fun s => Numeral.natural? wordLimit s.toList
    threshold := ← read g "confidence-threshold" Numeral.single?
    locale := ← read g "locale" some
    stdin := g.has "stdin" }

/-- The settings: those of the file, or the usual ones, and on top of them what the command line
says. -/
def resolve (f : Flags) (files : Files) : Except Failure Config := do
  let c ← match f.config with
    | some path => Config.load files path
    | none => pure {}
  return {
    endpoint := { c.endpoint with
      port := f.port.getD c.endpoint.port
      idleSeconds := f.idleSeconds.getD c.endpoint.idleSeconds }
    recognition := { c.recognition with
      threshold := f.threshold.getD c.recognition.threshold
      locale := f.locale.getD c.recognition.locale } }

end Flags

end SpokenCommand.Host
