import SpokenCommand.Json.Skip
import SpokenCommand.Numeral.Single

/-!
# Schemas

A `Schema α` says how data of type `α` is read, from a JSON text and from a value held in memory.
Either way the first thing wrong in reading order is the fault that is reported, be it the text
that is not JSON or data that is not what was expected.

`Schema.record` reads a structure from an object, whose unknown members are skipped, or from an array
of its fields in order.
-/

namespace SpokenCommand.Json

/-- Reads from the front of a text and gives back what follows. The number bounds the rounds of all
loops together; a few for each byte of the text are enough. -/
abbrev Reader (α : Type) := (fuel : Nat) → List UInt8 → Except Fault (α × List UInt8)

/-- How data is read from a text and from a value. -/
structure Schema (α : Type) where
  fromText : Reader α
  fromValue : Value → Except Fault α

def lift {α : Type} : Except Malformation α → Except Fault α
  | .ok a => .ok a
  | .error cause => .error (.malformed cause)

/-- The fault of finding something else than what was expected at the front of a text. A scalar is
read to its end first, which may bring another fault to light. -/
def wrongType (expected : String) (bytes : List UInt8) : Fault :=
  let report {α : Type} (read : Except Malformation α) (found : α → Found) : Fault :=
    match read with
    | .ok a => .invalidType (found a) expected
    | .error cause => .malformed cause
  match bytes with
  | [] => .malformed .expectedValue
  | b :: rest =>
    if b = byte 'n' then report (ident nullTail rest) fun _ => .null
    else if b = byte 't' then report (ident trueTail rest) fun _ => .bool true
    else if b = byte 'f' then report (ident falseTail rest) fun _ => .bool false
    else if b = byte '-' then report (numberPart true rest) fun n => .number n.1
    else if isDigit b then report (numberPart false bytes) fun n => .number n.1
    else if b = byte '"' then report (stringPart rest) fun s => .string s.1
    else if b = byte '[' then .invalidType .sequence expected
    else if b = byte '{' then .invalidType .map expected
    else .malformed .expectedValue

/-- Goes on with the first byte of a value. -/
def withValue {α : Type} (bytes : List UInt8)
    (read : UInt8 → List UInt8 → Except Fault α) : Except Fault α :=
  match skipSpace bytes with
  | [] => .error (.malformed .endInValue)
  | b :: rest => read b rest

def colon (bytes : List UInt8) : Except Malformation (List UInt8) :=
  match skipSpace bytes with
  | [] => .error .endInObject
  | b :: rest => if b = byte ':' then .ok rest else .error .expectedColon

/-! ## Elements of an array -/

/-- The bytes at which the next element of an array begins, or none before the closing bracket. -/
def nextElement (first : Bool) (bytes : List UInt8) : Except Malformation (Option (List UInt8)) :=
  match skipSpace bytes with
  | [] => .error .endInArray
  | b :: rest =>
    if b = byte ']' then .ok none
    else if first then .ok (some (b :: rest))
    else if b = byte ',' then
      match skipSpace rest with
      | [] => .error .endInValue
      | c :: rest => if c = byte ']' then .error .trailingComma else .ok (some (c :: rest))
    else .error .expectedCommaOrBracket

/-- The bytes behind the closing bracket, in front of which nothing may be left. -/
def endArray (bytes : List UInt8) : Except Malformation (List UInt8) :=
  match skipSpace bytes with
  | [] => .error .endInArray
  | b :: rest =>
    if b = byte ']' then .ok rest
    else if b = byte ',' then
      .error (if (skipSpace rest).head? = some (byte ']') then .trailingComma
        else .trailingCharacters)
    else .error .trailingCharacters

/-- All elements of an array behind its opening bracket; `read` holds those already read,
reversed. -/
def elements {α : Type} (item : Reader α) :
    (fuel : Nat) → (first : Bool) → (read : List α) → List UInt8 →
      Except Fault (List α × List UInt8)
  | 0, _, _, _ => .error (.malformed .endInArray)
  | fuel + 1, first, read, bytes => do
    match ← lift (nextElement first bytes) with
    -- The same bytes again: `nextElement` has left the bracket in place.
    | none => return (read.reverse, ← lift (endArray bytes))
    | some bytes =>
      let (a, bytes) ← item fuel bytes
      elements item fuel false (a :: read) bytes

/-! ## Members of an object -/

/-- The bytes behind the opening quote of the next key, or none before the closing brace. -/
def nextKey (first : Bool) (bytes : List UInt8) : Except Malformation (Option (List UInt8)) :=
  match skipSpace bytes with
  | [] => .error .endInObject
  | b :: rest =>
    if b = byte '}' then .ok none
    else if first then if b = byte '"' then .ok (some rest) else .error .keyNotString
    else if b = byte ',' then
      match skipSpace rest with
      | [] => .error .endInValue
      | c :: rest =>
        if c = byte '"' then .ok (some rest)
        else .error (if c = byte '}' then .trailingComma else .keyNotString)
    else .error .expectedCommaOrBrace

/-- The bytes behind the closing brace that `nextKey` stopped at. -/
def endObject (bytes : List UInt8) : List UInt8 := (skipSpace bytes).drop 1

/-! ## Scalars -/

namespace Schema

def string : Schema String where
  fromText _ bytes := withValue bytes fun b rest =>
    if b = byte '"' then lift (stringPart rest) else .error (wrongType "a string" (b :: rest))
  fromValue
    | .string s => .ok s
    | v => .error (.invalidType v.found "a string")

/-- A number that `accept` makes something of. -/
def numeral {α : Type} (expected : String) (accept : Number → Except Fault α) : Schema α where
  fromText _ bytes := withValue bytes fun b rest =>
    if b = byte '-' then do
      let (n, rest) ← lift (numberPart true rest)
      return (← accept n, rest)
    else if isDigit b then do
      let (n, rest) ← lift (numberPart false (b :: rest))
      return (← accept n, rest)
    else .error (wrongType expected (b :: rest))
  fromValue
    | .number n => accept n
    | v => .error (.invalidType v.found expected)

/-- An integer from zero up to a limit, which is named by its type. -/
def natural (expected : String) (limit : Nat) : Schema Nat :=
  numeral expected fun
    | .int n =>
      if 0 ≤ n ∧ n < limit then .ok n.toNat
      else .error (.invalidValue (.number (.int n)) expected)
    | .float x => .error (.invalidType (.number (.float x)) expected)

/-- A 32-bit number, the nearest one to what is written. -/
def single : Schema Numeral.Single :=
  numeral "f32" fun
    | .int n => .ok (.ofInt n)
    | .float x => .ok (.ofDouble x)

/-- Data, or null for none. -/
def nullable {α : Type} (s : Schema α) : Schema (Option α) where
  fromText fuel bytes :=
    match skipSpace bytes with
    | [] => .error (.malformed .endInValue)
    | b :: rest =>
      if b = byte 'n' then do return (none, ← lift (ident nullTail rest))
      else do
        let (a, rest) ← s.fromText fuel (b :: rest)
        return (some a, rest)
  fromValue
    | .null => .ok none
    | v => (s.fromValue v).map some

def null (expected : String) : Schema Unit where
  fromText _ bytes := withValue bytes fun b rest =>
    if b = byte 'n' then do return ((), ← lift (ident nullTail rest))
    else .error (wrongType expected (b :: rest))
  fromValue
    | .null => .ok ()
    | v => .error (.invalidType v.found expected)

def list {α : Type} (s : Schema α) : Schema (List α) where
  fromText fuel bytes := withValue bytes fun b rest =>
    if b = byte '[' then elements s.fromText fuel true [] rest
    else .error (wrongType "a sequence" (b :: rest))
  fromValue
    | .array items => items.mapM s.fromValue
    | v => .error (.invalidType v.found "a sequence")

/-! ## Choices -/

/-- The choice of a given name. -/
def choose {α : Type} (known : List (String × α)) (name : String) : Except Fault α :=
  match known.lookup name with
  | some a => .ok a
  | none => .error (.unknownVariant name (known.map Prod.fst))

/-- One of several names, written as a string or as the only key of an object with the value
null. -/
def choice {α : Type} (known : List (String × α)) : Schema α where
  fromText fuel bytes := withValue bytes fun b rest =>
    if b = byte '"' then do
      let (name, rest) ← lift (stringPart rest)
      return (← choose known name, rest)
    else if b = byte '{' then do
      let (name, rest) ← withValue rest fun b rest =>
        if b = byte '"' then lift (stringPart rest)
        else .error (wrongType "variant identifier" (b :: rest))
      let a ← choose known name
      let (_, rest) ← (null "unit").fromText fuel (← lift (colon rest))
      match skipSpace rest with
      | [] => throw (.malformed .endInObject)
      | b :: rest => if b = byte '}' then return (a, rest) else throw (.malformed .expectedValue)
    else .error (.malformed .expectedValue)
  fromValue
    | .string name => choose known name
    | .object [(name, content)] => do
      let a ← choose known name
      (null "unit").fromValue content
      return a
    | .object _ => .error (.invalidValue .map "map with a single key")
    | v => .error (.invalidType v.found "string or map")

end Schema

/-! ## Records -/

/-- When a field may be absent. -/
inductive Presence where
  /-- Never. -/
  | required
  /-- From an object, not from an array. -/
  | nullable
  /-- From an object, and at the end of an array. -/
  | defaulted
deriving DecidableEq, Repr

/-- A field of a record `σ`: reading it gives a record with the field set. -/
structure Field (σ : Type) where
  name : String
  presence : Presence
  schema : Schema (σ → σ)

/-- A field that is read by a schema and put in its place by `set`. -/
def field {σ α : Type} (name : String) (presence : Presence) (s : Schema α) (set : α → σ → σ) :
    Field σ where
  name := name
  presence := presence
  schema := {
    fromText := fun fuel bytes => do
      let (a, rest) ← s.fromText fuel bytes
      return (set a, rest)
    fromValue := fun v => do return set (← s.fromValue v) }

/-- A structure as data: its name, the record that fields are put into, and its fields in order. -/
structure Record (σ : Type) where
  name : String
  blank : σ
  fields : List (Field σ)

namespace Record

variable {σ : Type}

def expected (r : Record σ) : String := "struct " ++ r.name

/-- Too few elements for the fields. -/
def tooShort (r : Record σ) (length : Nat) : Fault :=
  .invalidLength length (r.expected ++ " with " ++ toString r.fields.length ++ " elements")

/-- The first field that is absent and may not be, once all members of an object are read. -/
def checkMissing (fields : List (Field σ)) (seen : List String) : Except Fault Unit :=
  match fields.find? fun f => f.presence = .required && !seen.contains f.name with
  | some f => .error (.missingField f.name)
  | none => .ok ()

/-- Fields from the elements of an array behind its opening bracket. -/
def fromElements (r : Record σ) (fuel : Nat) :
    List (Field σ) → (index : Nat) → σ → List UInt8 → Except Fault (σ × List UInt8)
  | [], _, record, bytes => do return (record, ← lift (endArray bytes))
  | f :: fields, index, record, bytes => do
    match ← lift (nextElement (index == 0) bytes) with
    | none =>
      -- The array has ended, so all fields that are left have to have defaults.
      if f.presence = .defaulted then r.fromElements fuel fields index record bytes
      else throw (r.tooShort index)
    | some bytes =>
      let (set, bytes) ← f.schema.fromText fuel bytes
      r.fromElements fuel fields (index + 1) (set record) bytes

/-- Fields from the members of an object behind its opening brace. -/
def fromMembers (r : Record σ) :
    (fuel : Nat) → (first : Bool) → (seen : List String) → σ → List UInt8 →
      Except Fault (σ × List UInt8)
  | 0, _, _, _, _ => .error (.malformed .endInObject)
  | fuel + 1, first, seen, record, bytes => do
    match ← lift (nextKey first bytes) with
    | none =>
      checkMissing r.fields seen
      return (record, endObject bytes)
    | some bytes =>
      let (key, bytes) ← lift (stringPart bytes)
      match r.fields.find? fun f => f.name == key with
      | none =>
        -- An unknown field may be repeated and may hold anything, as long as it is JSON.
        let bytes ← lift (skipValue fuel (← lift (colon bytes)))
        r.fromMembers fuel false seen record bytes
      | some f =>
        -- The repetition is noticed before the second value is read.
        if seen.contains key then throw (.duplicateField key)
        let (set, bytes) ← f.schema.fromText fuel (← lift (colon bytes))
        r.fromMembers fuel false (key :: seen) (set record) bytes

/-- Fields from the items of an array held in memory. -/
def fromItems (r : Record σ) (length : Nat) :
    List (Field σ) → (index : Nat) → σ → List Value → Except Fault σ
  | [], _, record, [] => .ok record
  | [], _, _, _ :: _ => .error (.invalidLength length "fewer elements in array")
  | f :: fields, index, record, [] =>
    if f.presence = .defaulted then r.fromItems length fields index record []
    else .error (r.tooShort index)
  | f :: fields, index, record, v :: vs => do
    let set ← f.schema.fromValue v
    r.fromItems length fields (index + 1) (set record) vs

/-- Fields from the members of an object held in memory. -/
def fromPairs (r : Record σ) :
    (seen : List String) → σ → List (String × Value) → Except Fault σ
  | seen, record, [] => do
    checkMissing r.fields seen
    return record
  | seen, record, (key, v) :: members => do
    match r.fields.find? fun f => f.name == key with
    | none => r.fromPairs seen record members
    | some f =>
      if seen.contains key then throw (.duplicateField key)
      let set ← f.schema.fromValue v
      r.fromPairs (key :: seen) (set record) members

def schema (r : Record σ) : Schema σ where
  fromText fuel bytes := withValue bytes fun b rest =>
    if b = byte '[' then r.fromElements fuel r.fields 0 r.blank rest
    else if b = byte '{' then r.fromMembers fuel true [] r.blank rest
    else .error (wrongType r.expected (b :: rest))
  fromValue
    | .array items => r.fromItems items.length r.fields 0 r.blank items
    | .object members => r.fromPairs [] r.blank members
    | v => .error (.invalidType v.found r.expected)

end Record

/-! ## Whole texts -/

/-- Reads a whole text, behind which only blanks may follow. -/
def Schema.read {α : Type} (s : Schema α) (bytes : List UInt8) : Except Fault α := do
  let (a, rest) ← s.fromText (4 * bytes.length + 4) bytes
  if (skipSpace rest).isEmpty then return a else throw (.malformed .trailingCharacters)

end SpokenCommand.Json
