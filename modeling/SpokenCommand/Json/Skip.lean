import SpokenCommand.Json.Lexical

/-!
# Skipping values

The value of a field that nobody asked for is skipped. It has to be JSON, but numbers may have any
size, strings any bytes and any units of a pair, and containers any depth.
-/

namespace SpokenCommand.Json

/-- An exponent behind its `e`. -/
def skipExponent (bytes : List UInt8) : Except Malformation (List UInt8) :=
  let digits := match bytes with
    | [] => []
    | b :: rest => if b = byte '+' ∨ b = byte '-' then rest else bytes
  if (digits.head?.map isDigit).getD false then .ok (digits.dropWhile isDigit)
  else .error .invalidNumber

/-- What may follow the whole digits of a number. -/
def skipFraction (bytes : List UInt8) : Except Malformation (List UInt8) :=
  match bytes with
  | [] => .ok []
  | b :: rest =>
    if b = byte '.' then
      if (rest.head?.map isDigit).getD false then
        match rest.dropWhile isDigit with
        | [] => .ok []
        | e :: tail => if e = byte 'e' ∨ e = byte 'E' then skipExponent tail else .ok (e :: tail)
      else .error .invalidNumber
    else if b = byte 'e' ∨ b = byte 'E' then skipExponent rest
    else .ok bytes

/-- A number behind its sign. -/
def skipNumber (bytes : List UInt8) : Except Malformation (List UInt8) :=
  match bytes with
  | [] => .error .invalidNumber
  | b :: rest =>
    if b = byte '0' then
      if (rest.head?.map isDigit).getD false then .error .invalidNumber else skipFraction rest
    else if isDigit b then skipFraction (bytes.dropWhile isDigit)
    else .error .invalidNumber

/-- A string behind its opening quote. -/
def skipString : List UInt8 → Except Malformation (List UInt8)
  | [] => .error .endInString
  | b :: rest =>
    if b = byte '"' then .ok rest
    else if b = byte '\\' then
      match rest with
      | [] => .error .endInString
      | e :: rest =>
        if (escaped? e).isSome then skipString rest
        else if e = byte 'u' then
          match rest with
          | h₁ :: h₂ :: h₃ :: h₄ :: rest =>
            if (hexUnit? h₁ h₂ h₃ h₄).isSome then skipString rest else .error .invalidEscape
          | _ => .error .endInString
        else .error .invalidEscape
    else if b < 0x20 then .error .controlCharacter
    else skipString rest

/-! ## Containers -/

/-- A container that is still open. -/
inductive Frame where
  | array
  | object
deriving DecidableEq, Repr

/-- The byte that closes a container. -/
def Frame.close : Frame → UInt8
  | .array => byte ']'
  | .object => byte '}'

/-- The text ends inside a container. -/
def Frame.atEnd : Frame → Malformation
  | .array => .endInArray
  | .object => .endInObject

/-- Something else than a comma or the end follows a value in a container. -/
def Frame.noComma : Frame → Malformation
  | .array => .expectedCommaOrBracket
  | .object => .expectedCommaOrBrace

/-- What comes next in a value that is being skipped. -/
inductive Expecting where
  /-- A value. -/
  | value
  /-- The first member of the innermost container, or its end. -/
  | firstOrClose
  /-- A member of the innermost container. -/
  | member
  /-- What follows a value. -/
  | afterValue

/-- A scalar that begins with the byte `b`. -/
def skipScalar (b : UInt8) (bytes : List UInt8) : Except Malformation (List UInt8) :=
  if b = byte 'n' then ident nullTail bytes
  else if b = byte 't' then ident trueTail bytes
  else if b = byte 'f' then ident falseTail bytes
  else if b = byte '-' then skipNumber bytes
  else if isDigit b then skipNumber (b :: bytes)
  else if b = byte '"' then skipString bytes
  else .error .expectedValue

/-- Goes on skipping with the open containers `stack`. Of four rounds at least one takes a byte. -/
def skipFrom : (fuel : Nat) → Expecting → (stack : List Frame) → List UInt8 →
    Except Malformation (List UInt8)
  | 0, _, _, _ => .error .endInValue
  | fuel + 1, .value, stack, bytes =>
    match skipSpace bytes with
    | [] => .error .endInValue
    | b :: rest =>
      if b = byte '[' then skipFrom fuel .firstOrClose (.array :: stack) rest
      else if b = byte '{' then skipFrom fuel .firstOrClose (.object :: stack) rest
      else do skipFrom fuel .afterValue stack (← skipScalar b rest)
  | _ + 1, .firstOrClose, [], bytes => .ok bytes
  | fuel + 1, .firstOrClose, frame :: stack, bytes =>
    match skipSpace bytes with
    | [] => .error frame.atEnd
    | b :: rest =>
      -- A container may be empty, but a comma promises a member.
      if b = frame.close then skipFrom fuel .afterValue stack rest
      else skipFrom fuel .member (frame :: stack) (b :: rest)
  | _ + 1, .member, [], bytes => .ok bytes
  | fuel + 1, .member, .array :: stack, bytes => skipFrom fuel .value (.array :: stack) bytes
  | fuel + 1, .member, .object :: stack, bytes =>
    match skipSpace bytes with
    | [] => .error .endInObject
    | b :: rest =>
      if b = byte '"' then do
        match skipSpace (← skipString rest) with
        | [] => .error .endInObject
        | c :: rest =>
          if c = byte ':' then skipFrom fuel .value (.object :: stack) rest
          else .error .expectedColon
      else .error .keyNotString
  | _ + 1, .afterValue, [], bytes => .ok bytes
  | fuel + 1, .afterValue, frame :: stack, bytes =>
    match skipSpace bytes with
    | [] => .error frame.atEnd
    | b :: rest =>
      if b = byte ',' then skipFrom fuel .member (frame :: stack) rest
      else if b = frame.close then skipFrom fuel .afterValue stack rest
      else .error frame.noComma

/-- The bytes behind one value. -/
def skipValue (fuel : Nat) (bytes : List UInt8) : Except Malformation (List UInt8) :=
  skipFrom fuel .value [] bytes

end SpokenCommand.Json
