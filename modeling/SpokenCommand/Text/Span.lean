/-!
# Spans of time

Messages show a span of time in the largest unit that it fills, with as many places as it needs.
-/

namespace SpokenCommand.Text

structure Span where
  nanoseconds : Nat
deriving DecidableEq, Repr

namespace Span

def ofSeconds (n : Nat) : Span := ⟨n * 1000000000⟩

/-- A count of units with the places left over, zeros at the end dropped; `width` is the number of
places of one unit. -/
def places (count rest width : Nat) : String :=
  let ds := Nat.toDigits 10 rest
  let padded := List.replicate (width - ds.length) '0' ++ ds
  let kept := (padded.reverse.dropWhile (· = '0')).reverse
  if rest = 0 then toString count else toString count ++ "." ++ String.ofList kept

/-- Seconds, milliseconds, microseconds or nanoseconds, whichever the span fills first. -/
def render (s : Span) : String :=
  let n := s.nanoseconds
  if 1000000000 ≤ n then places (n / 1000000000) (n % 1000000000) 9 ++ "s"
  else if 1000000 ≤ n then places (n / 1000000) (n % 1000000) 6 ++ "ms"
  else if 1000 ≤ n then places (n / 1000) (n % 1000) 3 ++ "µs"
  else toString n ++ "ns"

end Span

end SpokenCommand.Text
