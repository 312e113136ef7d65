/-!
# Code point ranges

A character property of the Unicode standard is a sorted table of inclusive code point ranges.
`Ranges.contains` looks a code point up by halving the table.
-/

namespace SpokenCommand.Text

/-- Inclusive code point ranges, in ascending order and pairwise disjoint. -/
abbrev Ranges := Array (Nat × Nat)

namespace Ranges

/-- Looks for `code` among the ranges numbered `lo` up to `hi`; each step halves the interval, so
the size of the table is always fuel enough. -/
def search (table : Ranges) (code : Nat) : (fuel lo hi : Nat) → Bool
  | 0, _, _ => false
  | fuel + 1, lo, hi =>
    if lo < hi then
      let mid := (lo + hi) / 2
      match table[mid]? with
      | none => false
      | some (first, last) =>
        if code < first then search table code fuel lo mid
        else if last < code then search table code fuel (mid + 1) hi
        else true
    else false

def contains (table : Ranges) (code : Nat) : Bool :=
  table.search code table.size 0 table.size

end Ranges

end SpokenCommand.Text
