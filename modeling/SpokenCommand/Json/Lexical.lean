import SpokenCommand.Json.Value
import SpokenCommand.Text.Utf8

/-!
# Words of a JSON text

How the scalars of a JSON text are read from its bytes: blanks, `true`, `false` and `null`, numbers
and strings. Every function takes the bytes from where it stands and gives back what follows.

A number is kept as an integer while it fits 64 bits and has neither point nor exponent. Digits
beyond 64 bits only move the decimal point, and the value is one multiplication or division by a
power of ten away from its digits.
-/

namespace SpokenCommand.Json

/-- The bytes that have a meaning in a JSON text. -/
def byte (c : Char) : UInt8 := c.toUInt8

/-- Space, tab and line breaks. -/
def isSpace (b : UInt8) : Bool := b == 0x20 || b == 0x09 || b == 0x0A || b == 0x0D

def isDigit (b : UInt8) : Bool := 0x30 ≤ b && b ≤ 0x39

def skipSpace (bytes : List UInt8) : List UInt8 := bytes.dropWhile isSpace

/-- The bytes behind a fixed word, of which the first letter is already read. -/
def ident : (letters bytes : List UInt8) → Except Malformation (List UInt8)
  | [], bytes => .ok bytes
  | _ :: _, [] => .error .endInValue
  | letter :: letters, b :: bytes =>
    if b = letter then ident letters bytes else .error .expectedIdent

/-- The letters of `null` behind its first. -/
def nullTail : List UInt8 := [byte 'u', byte 'l', byte 'l']

def trueTail : List UInt8 := [byte 'r', byte 'u', byte 'e']

def falseTail : List UInt8 := [byte 'a', byte 'l', byte 's', byte 'e']

/-! ## Numbers -/

def digit (b : UInt8) : Nat := b.toNat - 0x30

/-- The greatest significand that is kept. -/
def maxSignificand : Nat := Nat.pow 2 64 - 1

/-- Takes digits into a significand as long as it stays within 64 bits; also the number of digits
left over. -/
def absorb (significand : Nat) : List UInt8 → Nat × Nat
  | [] => (significand, 0)
  | b :: bytes =>
    if significand * 10 + digit b ≤ maxSignificand then absorb (significand * 10 + digit b) bytes
    else (significand, bytes.length + 1)

/-- The power of ten nearest to `10 ^ n`. -/
def powerOfTen (n : Nat) : Float :=
  Float.ofBits (UInt64.ofNat (Numeral.nearest .double (Nat.pow 10 n) 1))

/-- The greatest exponent of a power of ten that is finite. -/
def maxPower : Nat := 308

/-- A value times a power of ten. Exponents beyond the powers of ten are taken off in steps, and
after two of these nothing is left of the value. -/
def scale : (fuel : Nat) → (value : Float) → (exponent : Int) → Except Malformation Float
  | 0, value, _ => .ok value
  | fuel + 1, value, exponent =>
    if exponent.natAbs ≤ maxPower then
      if 0 ≤ exponent then
        let scaled := value * powerOfTen exponent.natAbs
        if scaled.isInf then .error .numberOutOfRange else .ok scaled
      else .ok (value / powerOfTen exponent.natAbs)
    -- Zero stays zero, however great the exponent.
    else if value == 0 then .ok value
    else if 0 ≤ exponent then .error .numberOutOfRange
    else scale fuel (value / powerOfTen maxPower) (exponent + maxPower)

def ofParts (negative : Bool) (significand : Nat) (exponent : Int) :
    Except Malformation Number := do
  let whole := Float.ofBits (UInt64.ofNat (Numeral.nearest .double significand 1))
  let value ← scale 8 whole exponent
  return .float (if negative then -value else value)

/-- A number without point and exponent. Zero with a minus sign is a float, and so is what is too
small for 64 bits. -/
def ofInteger (negative : Bool) (significand : Nat) : Except Malformation Number :=
  if !negative then .ok (.int significand)
  else if 0 < significand ∧ significand ≤ Nat.pow 2 63 then .ok (.int (-(significand : Int)))
  else ofParts true significand 0

/-- The greatest exponent that is read in full. -/
def maxExponent : Nat := Nat.pow 2 31 - 1

/-- The rest of a number behind its `e`. An exponent beyond all bounds makes the number zero or puts
it out of range. -/
def exponentPart (negative : Bool) (significand : Nat) (start : Int) (bytes : List UInt8) :
    Except Malformation (Number × List UInt8) :=
  let (down, bytes) := match bytes with
    | [] => (false, [])
    | b :: rest =>
      if b = byte '-' then (true, rest) else if b = byte '+' then (false, rest) else (false, bytes)
  match bytes with
  | [] => .error .endInValue
  | b :: _ =>
    if isDigit b then
      let rest := bytes.dropWhile isDigit
      let exponent := (bytes.takeWhile isDigit).foldl (fun n d => 10 * n + digit d) 0
      if maxExponent < exponent then
        -- The exponent is too great to add up; its sign alone decides.
        if significand ≠ 0 ∧ !down then .error .numberOutOfRange
        else .ok (.float (if negative then -0.0 else 0.0), rest)
      else do
        let number ← ofParts negative significand
          (if down then start - exponent else start + exponent)
        return (number, rest)
    else .error .invalidNumber

/-- The rest of a number behind its whole digits, of which `dropped` are not in the significand. -/
def fractionPart (negative : Bool) (significand dropped : Nat) (bytes : List UInt8) :
    Except Malformation (Number × List UInt8) :=
  let integral : Except Malformation (Number × List UInt8) := do
    let number ← if dropped = 0 then ofInteger negative significand
      else ofParts negative significand dropped
    return (number, bytes)
  match bytes with
  | [] => integral
  | b :: rest =>
    if b = byte '.' then
      let places := rest.takeWhile isDigit
      let rest := rest.dropWhile isDigit
      if places.isEmpty then .error (if rest.isEmpty then .endInValue else .invalidNumber)
      else
        let (significand, left) := absorb significand places
        -- Whole digits that were left over raise the exponent, places that were taken lower it.
        let exponent : Int := (dropped : Int) - (places.length - left : Nat)
        match rest with
        | e :: tail =>
          if e = byte 'e' ∨ e = byte 'E' then exponentPart negative significand exponent tail
          else do return (← ofParts negative significand exponent, rest)
        | [] => do return (← ofParts negative significand exponent, rest)
    else if b = byte 'e' ∨ b = byte 'E' then exponentPart negative significand dropped rest
    else integral

/-- A number behind its sign. It does not begin with a zero unless that is all there is in front of
the point. -/
def numberPart (negative : Bool) (bytes : List UInt8) :
    Except Malformation (Number × List UInt8) :=
  match bytes with
  | [] => .error .endInValue
  | b :: rest =>
    if b = byte '0' then
      if (rest.head?.map isDigit).getD false then .error .invalidNumber
      else fractionPart negative 0 0 rest
    else if isDigit b then
      let (significand, dropped) := absorb 0 (bytes.takeWhile isDigit)
      fractionPart negative significand dropped (bytes.dropWhile isDigit)
    else .error .invalidNumber

/-! ## Strings -/

/-- The byte that a one-letter escape stands for. -/
def escaped? (b : UInt8) : Option UInt8 :=
  if b = byte '"' || b = byte '\\' || b = byte '/' then some b
  else if b = byte 'b' then some 0x08
  else if b = byte 'f' then some 0x0C
  else if b = byte 'n' then some 0x0A
  else if b = byte 'r' then some 0x0D
  else if b = byte 't' then some 0x09
  else none

def hexDigit? (b : UInt8) : Option Nat :=
  if isDigit b then some (digit b)
  else if 0x41 ≤ b && b ≤ 0x46 then some (b.toNat - 0x41 + 10)
  else if 0x61 ≤ b && b ≤ 0x66 then some (b.toNat - 0x61 + 10)
  else none

def hexUnit? (a b c d : UInt8) : Option Nat := do
  let a ← hexDigit? a
  let b ← hexDigit? b
  let c ← hexDigit? c
  let d ← hexDigit? d
  return ((a * 16 + b) * 16 + c) * 16 + d

/-- The first unit of a pair. -/
def isLeading (n : Nat) : Bool := 0xD800 ≤ n && n ≤ 0xDBFF

/-- The second unit of a pair. -/
def isTrailing (n : Nat) : Bool := 0xDC00 ≤ n && n ≤ 0xDFFF

def codePointBytes (n : Nat) : List UInt8 := String.utf8EncodeChar (Char.ofNat n)

/-- The bytes of a string up to its closing quote; `read` holds those already read, reversed. Two
units of a pair stand for one code point, and no unit of a pair stands alone. -/
def stringBytes (read : List UInt8) : List UInt8 → Except Malformation (List UInt8 × List UInt8)
  | [] => .error .endInString
  | b :: rest =>
    if b = byte '"' then .ok (read.reverse, rest)
    else if b = byte '\\' then
      match rest with
      | [] => .error .endInString
      | e :: rest =>
        match escaped? e with
        | some code => stringBytes (code :: read) rest
        | none =>
          if e = byte 'u' then
            match rest with
            | h₁ :: h₂ :: h₃ :: h₄ :: rest =>
              match hexUnit? h₁ h₂ h₃ h₄ with
              | none => .error .invalidEscape
              | some unit =>
                if isTrailing unit then .error .loneSurrogate
                else if isLeading unit then
                  match rest with
                  | [] => .error .endInString
                  | x :: rest =>
                    if x ≠ byte '\\' then .error .unexpectedEndOfHexEscape
                    else match rest with
                      | [] => .error .endInString
                      | y :: rest =>
                        if y ≠ byte 'u' then .error .unexpectedEndOfHexEscape
                        else match rest with
                          | k₁ :: k₂ :: k₃ :: k₄ :: rest =>
                            match hexUnit? k₁ k₂ k₃ k₄ with
                            | none => .error .invalidEscape
                            | some second =>
                              if isTrailing second then
                                -- Ten bits from each unit of the pair.
                                let code := (unit - 0xD800) * 0x400 + (second - 0xDC00) + 0x10000
                                stringBytes ((codePointBytes code).reverse ++ read) rest
                              else .error .loneSurrogate
                          | _ => .error .endInString
                else stringBytes ((codePointBytes unit).reverse ++ read) rest
            | _ => .error .endInString
          else .error .invalidEscape
    else if b < 0x20 then .error .controlCharacter
    else stringBytes (b :: read) rest

/-- A string behind its opening quote. Its bytes have to be UTF-8, which is looked at last. -/
def stringPart (bytes : List UInt8) : Except Malformation (String × List UInt8) := do
  let (content, rest) ← stringBytes [] bytes
  match Text.Utf8.decode? content with
  | some s => return (s, rest)
  | none => throw .invalidCodePoint

end SpokenCommand.Json
