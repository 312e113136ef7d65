import SpokenCommand.Numeral.Read

/-!
# Step ids

A step of a sentence is reported under `tag#position`, which tells the repeated uses of one tag
apart.
-/

namespace SpokenCommand.StepId

/-- Positions are machine words of 64 bits. -/
def positionLimit : Nat := Nat.pow 2 64

def render (tag : String) (position : Nat) : String :=
  tag ++ "#" ++ String.ofList (Nat.toDigits 10 position)

/-- The tag and position of an id, cut at its last `#`. -/
def parse? (id : String) : Option (String × Nat) :=
  let reversed := id.toList.reverse
  let position := (reversed.takeWhile (· != '#')).reverse
  match reversed.dropWhile (· != '#') with
  | [] => none
  -- The mark itself is dropped; tags may hold marks of their own.
  | _ :: tag =>
    (Numeral.natural? positionLimit position).map fun n => (String.ofList tag.reverse, n)

end SpokenCommand.StepId
