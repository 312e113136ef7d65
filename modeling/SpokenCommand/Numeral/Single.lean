import SpokenCommand.Numeral.Nearest

/-!
# 32-bit numbers

Confidences and thresholds are 32-bit binary fractions. A number is held as its bit pattern: a sign
bit above a magnitude. Patterns above infinity are not-a-number, which still has a sign and is
neither less nor greater than anything.
-/

namespace SpokenCommand.Numeral

/-- A 32-bit number as its pattern. -/
structure Single where
  bits : UInt32
deriving DecidableEq, Repr

namespace Single

/-- The pattern without its sign. -/
def magnitude (x : Single) : Nat := x.bits.toNat % BinaryFormat.single.signBit

def isNegative (x : Single) : Bool := BinaryFormat.single.signBit ≤ x.bits.toNat

def isNaN (x : Single) : Bool := BinaryFormat.single.infinity < x.magnitude

/-- The place of a number among all numbers; both zeros have the same. Magnitudes grow with the
numbers they stand for. -/
def rank (x : Single) : Int := if x.isNegative then -(x.magnitude : Int) else x.magnitude

/-- One number is less than another; not-a-number never is. -/
instance : LT Single where
  lt x y := !x.isNaN ∧ !y.isNaN ∧ x.rank < y.rank

instance (x y : Single) : Decidable (x < y) :=
  inferInstanceAs (Decidable (!x.isNaN ∧ !y.isNaN ∧ x.rank < y.rank))

/-! ## Building numbers -/

def ofMagnitude (negative : Bool) (magnitude : Nat) : Single :=
  ⟨UInt32.ofNat (magnitude + if negative then BinaryFormat.single.signBit else 0)⟩

/-- The number nearest to a ratio. -/
def ofRatio (negative : Bool) (num den : Nat) : Single :=
  ofMagnitude negative (nearest .single num den)

def ofInt (n : Int) : Single := ofRatio (n < 0) n.natAbs 1

/-- The number nearest to a finite 64-bit one. -/
def ofDouble (x : Float) : Single :=
  let bits := x.toBits.toNat
  let (num, den) := ratioOfBits .double (bits % BinaryFormat.double.signBit)
  ofRatio (BinaryFormat.double.signBit ≤ bits) num den

end Single

end SpokenCommand.Numeral
