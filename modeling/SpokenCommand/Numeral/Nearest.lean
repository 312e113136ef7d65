/-!
# Nearest binary fractions

A decimal is stored as the nearest value of a binary format, a tie going to the even neighbour.
Everything here is exact arithmetic on a ratio of natural numbers; the result is a bit pattern.
-/

namespace SpokenCommand.Numeral

/-- A binary interchange format: how many bits hold the fraction and how many the exponent. -/
structure BinaryFormat where
  fraction : Nat
  exponent : Nat
deriving DecidableEq, Repr

namespace BinaryFormat

/-- 32 bits: the format of confidences. -/
def single : BinaryFormat := ⟨23, 8⟩

/-- 64 bits: the format of numbers with a point or an exponent. -/
def double : BinaryFormat := ⟨52, 11⟩

/-- The exponent field of 1 is stored as this number. -/
def bias (f : BinaryFormat) : Nat := Nat.pow 2 (f.exponent - 1) - 1

def infinity (f : BinaryFormat) : Nat := (Nat.pow 2 f.exponent - 1) * Nat.pow 2 f.fraction

/-- The pattern of the sign bit alone. -/
def signBit (f : BinaryFormat) : Nat := Nat.pow 2 (f.fraction + f.exponent)

end BinaryFormat

/-- The quotient rounded to the nearest natural number, a tie going to the even one. -/
def roundDiv (num den : Nat) : Nat :=
  let q := num / den
  let r := num % den
  if 2 * r < den then q
  else if den < 2 * r then q + 1
  else if q % 2 = 0 then q else q + 1

/-- The greatest `e` with `2 ^ e ≤ num / den`, for positive arguments. -/
def floorLog2 (num den : Nat) : Int :=
  -- The difference of the two logarithms is at most one too great.
  let e : Int := (num.log2 : Int) - den.log2
  if den * Nat.pow 2 e.toNat ≤ num * Nat.pow 2 (-e).toNat then e else e - 1

/-- The pattern of the value nearest to `num / den`; too large a ratio becomes infinity.

A value is `m * 2 ^ q` with `q` fixed by the size of the ratio. Adding `m`, hidden bit included, to
the exponent field below it gives the pattern, and a carry out of `m` steps to the next exponent. -/
def nearest (f : BinaryFormat) (num den : Nat) : Nat :=
  if num = 0 then 0
  else
    -- Below the least exponent the values are spaced as they are at it.
    let e := max (floorLog2 num den) (1 - (f.bias : Int))
    let q := e - f.fraction
    let m := roundDiv (num * Nat.pow 2 (-q).toNat) (den * Nat.pow 2 q.toNat)
    min ((e + f.bias - 1).toNat * Nat.pow 2 f.fraction + m) f.infinity

/-- A finite value as `num / den`, from the pattern without its sign. -/
def ratioOfBits (f : BinaryFormat) (bits : Nat) : Nat × Nat :=
  let field := bits / Nat.pow 2 f.fraction
  let low := bits % Nat.pow 2 f.fraction
  -- The hidden bit is missing from the smallest values only.
  let m := if field = 0 then low else low + Nat.pow 2 f.fraction
  let q : Int := (max field 1 : Nat) - (f.bias : Int) - f.fraction
  (m * Nat.pow 2 q.toNat, Nat.pow 2 (-q).toNat)

/-- The ratio `digits * 10 ^ exponent` as numerator and denominator. -/
def decimalRatio (digits : Nat) (exponent : Int) : Nat × Nat :=
  (digits * Nat.pow 10 exponent.toNat, Nat.pow 10 (-exponent).toNat)

end SpokenCommand.Numeral
