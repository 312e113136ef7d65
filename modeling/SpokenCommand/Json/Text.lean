import SpokenCommand.Json.Schema

/-!
# JSON texts of values

`Value.write` writes a value without blanks. `Value.parse` reads one back; the members of an object
come in ascending order of their keys, and of several with one key the last one counts.
-/

namespace SpokenCommand.Json

/-! ## Writing -/

/-- One character inside a written string. Only quotes, backslashes and control characters are
escaped. -/
def escapeChar (c : Char) : List Char :=
  if c = '"' then ['\\', '"']
  else if c = '\\' then ['\\', '\\']
  else if c = '\x08' then ['\\', 'b']
  else if c = '\t' then ['\\', 't']
  else if c = '\n' then ['\\', 'n']
  else if c = '\x0c' then ['\\', 'f']
  else if c = '\r' then ['\\', 'r']
  else if c.toNat < 0x20 then
    ['\\', 'u', '0', '0', Nat.digitChar (c.toNat / 16), Nat.digitChar (c.toNat % 16)]
  else [c]

def writeString (s : String) : String :=
  String.ofList ('"' :: s.toList.flatMap escapeChar ++ ['"'])

def Number.write : Number → String
  | .int value => toString value
  | .float value => Numeral.showFloat value

mutual

def Value.write : Value → String
  | .null => "null"
  | .bool true => "true"
  | .bool false => "false"
  | .number n => n.write
  | .string s => writeString s
  | .array items => "[" ++ ",".intercalate (writeItems items) ++ "]"
  | .object members => "\x7b" ++ ",".intercalate (writeMembers members) ++ "\x7d"

def writeItems : List Value → List String
  | [] => []
  | v :: vs => v.write :: writeItems vs

def writeMembers : List (String × Value) → List String
  | [] => []
  | (key, v) :: members => (writeString key ++ ":" ++ v.write) :: writeMembers members

end

/-! ## Reading -/

/-- Sets a member in a list that ascends by key. -/
def setMember (key : String) (v : Value) : List (String × Value) → List (String × Value)
  | [] => [(key, v)]
  | (k, w) :: members =>
    if key < k then (key, v) :: (k, w) :: members
    -- The later value replaces the earlier one.
    else if key = k then (key, v) :: members
    else (k, w) :: setMember key v members

/-- All members of an object behind its opening brace. -/
def membersText (item : Reader Value) :
    (fuel : Nat) → (first : Bool) → (read : List (String × Value)) → List UInt8 →
      Except Fault (List (String × Value) × List UInt8)
  | 0, _, _, _ => .error (.malformed .endInObject)
  | fuel + 1, first, read, bytes => do
    match ← lift (nextKey first bytes) with
    | none => return (read, endObject bytes)
    | some bytes =>
      let (key, bytes) ← lift (stringPart bytes)
      let (v, bytes) ← item fuel (← lift (colon bytes))
      membersText item fuel false (setMember key v read) bytes

/-- A value with containers nested up to the given depth. -/
def valueText : (depth : Nat) → Reader Value
  | 0 => fun _ bytes => scalar (fun _ _ => .error (.malformed .tooDeep)) bytes
  | depth + 1 => fun fuel bytes => scalar (container depth fuel) bytes
where
  /-- A scalar, or what `container` makes of the byte that opens a container. -/
  scalar (container : UInt8 → List UInt8 → Except Fault (Value × List UInt8))
      (bytes : List UInt8) : Except Fault (Value × List UInt8) :=
    withValue bytes fun b rest =>
      if b = byte 'n' then do return (.null, ← lift (ident nullTail rest))
      else if b = byte 't' then do return (.bool true, ← lift (ident trueTail rest))
      else if b = byte 'f' then do return (.bool false, ← lift (ident falseTail rest))
      else if b = byte '-' then do
        let (n, rest) ← lift (numberPart true rest)
        return (.number n, rest)
      else if isDigit b then do
        let (n, rest) ← lift (numberPart false (b :: rest))
        return (.number n, rest)
      else if b = byte '"' then do
        let (s, rest) ← lift (stringPart rest)
        return (.string s, rest)
      else if b = byte '[' ∨ b = byte '{' then container b rest
      else .error (.malformed .expectedValue)
  /-- An array or an object behind its opening byte. -/
  container (depth fuel : Nat) (b : UInt8) (rest : List UInt8) :
      Except Fault (Value × List UInt8) :=
    if b = byte '[' then do
      let (items, rest) ← elements (valueText depth) fuel true [] rest
      return (.array items, rest)
    else do
      let (members, rest) ← membersText (valueText depth) fuel true [] rest
      return (.object members, rest)

/-- How deep containers may be nested. -/
def maxDepth : Nat := 127

def Value.parse (bytes : List UInt8) : Except Fault Value :=
  Schema.read ⟨valueText maxDepth, .ok⟩ bytes

end SpokenCommand.Json
