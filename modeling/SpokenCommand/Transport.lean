import SpokenCommand.Handshake
import SpokenCommand.Text.Span

/-!
# Exchange with a client

A client sends handshakes, one to a line, and gets results back, one to a line. Both directions have
a limit: `readHandshake` gives up on a line that is too long, and `frameResult` refuses a result
that is.
-/

namespace SpokenCommand

inductive TransportError where
  | portInUse (port : Nat)
  /-- Nobody came within this time. -/
  | idleTimeout (waited : Text.Span)
  /-- The client sends nothing any more. -/
  | connectionClosed
  | malformedHandshake (cause : Json.Fault)
  | handshakeTooLarge (limit : Nat)
  | payloadTooLarge (length limit : Nat)

def TransportError.message : TransportError → String
  | .portInUse port => "port " ++ toString port ++ " already in use"
  | .idleTimeout waited => "no client connected within " ++ waited.render
  | .connectionClosed => "connection closed by peer"
  | .malformedHandshake cause => "malformed handshake: " ++ cause.message
  | .handshakeTooLarge limit => "handshake exceeds " ++ toString limit ++ " bytes"
  | .payloadTooLarge length limit =>
    "payload of " ++ toString length ++ " bytes exceeds limit of " ++ toString limit

namespace Transport

/-- The greatest length of a handshake, its newline included. -/
def maxHandshake : Nat := 4 * 1024 * 1024

def newline : UInt8 := 0x0A

/-- Takes bytes up to a newline, and at most so many; `taken` holds those already taken,
reversed. -/
def takeLine (taken : List UInt8) : (limit : Nat) → List UInt8 → List UInt8 × List UInt8
  | 0, bytes => (taken.reverse, bytes)
  | _ + 1, [] => (taken.reverse, [])
  | limit + 1, b :: bytes =>
    if b = newline then ((b :: taken).reverse, bytes) else takeLine (b :: taken) limit bytes

def decodeHandshake (bytes : List UInt8) : Except TransportError Handshake :=
  match Handshake.decode bytes with
  | .ok h => .ok h
  | .error cause => .error (.malformedHandshake cause)

/-- Reads the next handshake from what a client has still to say, and gives back what follows. One
byte more than allowed is taken, to tell a handshake that is too long. -/
def readHandshake (stream : List UInt8) : Except TransportError Handshake × List UInt8 :=
  let (line, rest) := takeLine [] (maxHandshake + 1) stream
  -- A blank line still has its newline, so only the end of the stream gives an empty one.
  if line.isEmpty then (.error .connectionClosed, rest)
  else if maxHandshake < line.length then (.error (.handshakeTooLarge maxHandshake), rest)
  else (decodeHandshake line, rest)

/-- A result as a line, whose length has to stay below the limit. -/
def frameResult (text : String) (limit : Nat) : Except TransportError String :=
  let length := text.utf8ByteSize + 1
  -- A line of exactly the limit is too long already.
  if limit ≤ length then .error (.payloadTooLarge length limit) else .ok (text ++ "\n")

/-- What is sent for a result: its line, or nothing when that is too long. -/
def sendResult (text : String) (limit : Nat) : Option String :=
  match frameResult text limit with
  | .ok line => some line
  | .error _ => none

end Transport

end SpokenCommand
