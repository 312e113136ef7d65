import SpokenCommand.Numeral.Single

/-!
# Numbers in plain text

How numbers are spelled in step ids and on the command line: a run of ASCII digits with an optional
sign, and decimals with a point and an exponent.
-/

namespace SpokenCommand.Numeral

/-! ## Integers -/

def digitValue (c : Char) : Nat := c.toNat - '0'.toNat

def digitsValue (ds : List Char) : Nat := ds.foldl (fun n c => 10 * n + digitValue c) 0

/-- One or more digits and nothing else. -/
def digits? (cs : List Char) : Option Nat :=
  if !cs.isEmpty && cs.all Char.isDigit then some (digitsValue cs) else none

/-- One or more digits, after a plus sign or not, whose value stays below the limit. -/
def natural? (limit : Nat) (cs : List Char) : Option Nat :=
  let ds := match cs with
    | '+' :: rest => rest
    | _ => cs
  (digits? ds).filter (· < limit)

/-- Like `natural?`, but zero may also carry a minus sign. -/
def signedNatural? (limit : Nat) (cs : List Char) : Option Nat :=
  match cs with
  | '-' :: rest => (digits? rest).filter (· = 0)
  | _ => natural? limit cs

/-! ## Decimals -/

/-- A decimal: `digits * 10 ^ exponent`. -/
structure Decimal where
  digits : Nat
  exponent : Int
deriving DecidableEq, Repr

/-- The exponent part: nothing, or `e`, an optional sign and digits. -/
def exponent? : List Char → Option Int
  | [] => some 0
  | c :: cs =>
    if c = 'e' ∨ c = 'E' then
      match cs with
      | '-' :: ds => (digits? ds).map fun n => -(n : Int)
      | '+' :: ds => (digits? ds).map Int.ofNat
      | ds => (digits? ds).map Int.ofNat
    else none

/-- Digits with an optional point, at least one digit on either side of it, and an optional
exponent. -/
def decimal? (cs : List Char) : Option Decimal :=
  let whole := cs.takeWhile Char.isDigit
  let afterWhole := cs.dropWhile Char.isDigit
  let (fraction, tail) := match afterWhole with
    | '.' :: rest => (rest.takeWhile Char.isDigit, rest.dropWhile Char.isDigit)
    | rest => ([], rest)
  -- A point by itself is no number, but a digit on one side of it is enough.
  if whole.isEmpty && fraction.isEmpty then none
  else (exponent? tail).map fun e =>
    { digits := digitsValue (whole ++ fraction), exponent := e - fraction.length }

/-- The pattern nearest to a decimal. An exponent far outside the format decides by itself, so the
power of ten is never written out for it. -/
def Decimal.nearest (f : BinaryFormat) (d : Decimal) : Nat :=
  let count : Int := (Nat.toDigits 10 d.digits).length
  if d.digits = 0 then 0
  else if 400 < count + d.exponent then f.infinity
  else if count + d.exponent < -400 then 0
  else
    let (num, den) := decimalRatio d.digits d.exponent
    Numeral.nearest f num den

/-- The unsigned pattern that a text spells: a decimal, an infinity or not-a-number, the latter two
in either case. -/
def singlePattern? (cs : List Char) : Option Nat :=
  let lower := String.ofList (cs.map Char.toLower)
  if lower = "inf" ∨ lower = "infinity" then some BinaryFormat.single.infinity
  else if lower = "nan" then
    some (BinaryFormat.single.infinity + Nat.pow 2 (BinaryFormat.single.fraction - 1))
  else (decimal? cs).map (Decimal.nearest .single)

/-- The 32-bit number that a text spells, with an optional sign in front. -/
def single? (s : String) : Option Single :=
  match s.toList with
  | '-' :: cs => (singlePattern? cs).map (.ofMagnitude true)
  | '+' :: cs => (singlePattern? cs).map (.ofMagnitude false)
  | cs => (singlePattern? cs).map (.ofMagnitude false)

end SpokenCommand.Numeral
