import SpokenCommand.Numeral.Nearest

/-!
# Shortest decimals

A number with a point is shown with the fewest digits that read back as the same value, and of those
with the digits nearest to it. `shortest` finds the digits, `showFloat` places the point.
-/

namespace SpokenCommand.Numeral

/-! ## Digits -/

/-- The greatest `e` between the bounds with `10 ^ e ≤ num / den`, found from above; the fuel is the
width of the interval. -/
def floorLog10 (num den : Nat) : (fuel : Nat) → (e : Int) → Int
  | 0, e => e
  | fuel + 1, e =>
    if den * Nat.pow 10 e.toNat ≤ num * Nat.pow 10 (-e).toNat then e else floorLog10 num den fuel (e - 1)

/-- Of the decimals with `count` digits around `num / den`, the nearest one whose nearest binary
value is `bits`. The decimal is `digits * 10 ^ exponent`. -/
def decimalWith (f : BinaryFormat) (bits num den : Nat) (top : Int) (count : Nat) :
    Option (Nat × Int) :=
  let unit := top - count + 1
  let n := num * Nat.pow 10 (-unit).toNat
  let d := den * Nat.pow 10 unit.toNat
  let low := n / d
  let readsBack (digits : Nat) : Bool :=
    let (a, b) := decimalRatio digits unit
    nearest f a b = bits
  -- Both neighbours may read back; the nearer one is shown.
  let lowFirst := 2 * (n % d) ≤ d
  match readsBack low, readsBack (low + 1) with
  | true, true => some (if lowFirst then low else low + 1, unit)
  | true, false => some (low, unit)
  | false, true => some (low + 1, unit)
  | false, false => none

/-- The fewest digits that read back as the positive finite pattern `bits`. Seventeen are always
enough for the wider format. -/
def shortest (f : BinaryFormat) (bits : Nat) : Nat × Int :=
  let (num, den) := ratioOfBits f bits
  let top := floorLog10 num den 800 400
  match (List.range 17).findSome? fun k => decimalWith f bits num den top (k + 1) with
  | some found => found
  -- Never reached for positive finite patterns.
  | none => (num / den, 0)

/-! ## Placing the point -/

/-- The digits without the zeros at their end, each of which raises the exponent. -/
def dropZeros : (fuel digits : Nat) → (exponent : Int) → Nat × Int
  | 0, digits, exponent => (digits, exponent)
  | fuel + 1, digits, exponent =>
    if digits ≠ 0 ∧ digits % 10 = 0 then dropZeros fuel (digits / 10) (exponent + 1)
    else (digits, exponent)

/-- A positive decimal, written out between `10 ^ -5` and `10 ^ 16` and with an exponent elsewhere.
What is written out always has a point. -/
def placePoint (digits : Nat) (exponent : Int) : String :=
  let ds := Nat.toDigits 10 digits
  let count : Int := ds.length
  let point := count + exponent
  if 0 ≤ exponent ∧ point ≤ 16 then
    String.ofList (ds ++ List.replicate exponent.toNat '0' ++ ['.', '0'])
  else if 0 < point ∧ point ≤ 16 then
    String.ofList (ds.take point.toNat ++ '.' :: ds.drop point.toNat)
  else if -5 < point ∧ point ≤ 0 then
    String.ofList ('0' :: '.' :: List.replicate (-point).toNat '0' ++ ds)
  else
    let fraction := if ds.length = 1 then [] else '.' :: ds.drop 1
    String.ofList (ds.take 1 ++ fraction ++ ['e']) ++ toString (point - 1)

/-- A finite number with the fewest digits that read back, and its sign, which zero has too. -/
def showFloat (x : Float) : String :=
  let bits := x.toBits.toNat
  let sign := if bits < BinaryFormat.double.signBit then "" else "-"
  let magnitude := bits % BinaryFormat.double.signBit
  if magnitude = 0 then sign ++ "0.0"
  else
    let (digits, exponent) := shortest .double magnitude
    let (digits, exponent) := dropZeros 20 digits exponent
    sign ++ placePoint digits exponent

end SpokenCommand.Numeral
