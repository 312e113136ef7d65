import Mathlib.Logic.Function.Basic
import SpokenCommand.Proofs.StepIds

/-!
# Which texts are step ids

A text is read as a step id exactly when it is a tag, a mark, and the digits of a position that is a
machine word, with a plus sign in front of them or not (`StepId.parse?_eq_some_iff`). There is no mark
behind the one that is cut at, so it is the last one, whatever the tag holds; this makes the tag and
the position unique, and ids of different steps different.
-/

namespace SpokenCommand

open Text

namespace Numeral

/-- One or more decimal digits of the given value. -/
structure Digits (n : Nat) (ds : List Char) : Prop where
  nonempty : ds ≠ []
  all : ∀ c ∈ ds, c.isDigit = true
  value : Nat.ofDigitChars 10 ds 0 = n

/-- How a number may be spelled: its digits, after a plus sign or not, with any number of zeros in
front. -/
inductive Spells (n : Nat) : List Char → Prop
  | plain {ds : List Char} : Digits n ds → Spells n ds
  | signed {ds : List Char} : Digits n ds → Spells n ('+' :: ds)

theorem digits?_eq_some_iff {cs : List Char} {n : Nat} : digits? cs = some n ↔ Digits n cs := by
  have value : digitsValue cs = Nat.ofDigitChars 10 cs 0 := Nat.ofDigitChars_eq_foldl.symm
  constructor
  · intro read
    obtain ⟨⟨nonempty, all⟩, same⟩ : (cs ≠ [] ∧ ∀ c ∈ cs, c.isDigit = true) ∧ digitsValue cs = n := by
      simpa [digits?] using read
    exact ⟨nonempty, all, value ▸ same⟩
  · intro digits
    have allDigits : cs.all Char.isDigit = true := List.all_eq_true.mpr digits.all
    simp [digits?, digits.nonempty, allDigits, value, digits.value]

theorem Digits.head_ne {n : Nat} {c mark : Char} {ds : List Char} (digits : Digits n (c :: ds))
    (other : mark.isDigit = false) : c ≠ mark := by
  rintro rfl
  have digit := digits.all c (by simp)
  simp [other] at digit

theorem natural?_eq_some_iff {limit n : Nat} {cs : List Char} :
    natural? limit cs = some n ↔ n < limit ∧ Spells n cs := by
  have bounded : ∀ ds, (digits? ds).filter (· < limit) = some n ↔ n < limit ∧ Digits n ds := by
    intro ds
    rw [Option.filter_eq_some_iff, digits?_eq_some_iff, decide_eq_true_eq, and_comm]
  -- A sign is taken off by its look alone; no digit looks like one.
  by_cases signed : ∃ ds, cs = '+' :: ds
  · obtain ⟨ds, rfl⟩ := signed
    have read : natural? limit ('+' :: ds) = (digits? ds).filter (· < limit) := rfl
    rw [read, bounded]
    refine and_congr_right fun _ => ⟨.signed, fun spells => ?_⟩
    cases spells with
    | plain digits => exact absurd rfl (digits.head_ne (by decide))
    | signed digits => exact digits
  · have read : natural? limit cs = (digits? cs).filter (· < limit) := by
      rw [natural?]
      exact fun ds same => signed ⟨ds, same⟩
    rw [read, bounded]
    refine and_congr_right fun _ => ⟨.plain, fun spells => ?_⟩
    cases spells with
    | plain digits => exact digits
    | signed digits => exact absurd ⟨_, rfl⟩ signed

end Numeral

namespace StepId

/-- A text with a mark in it is cut at the last one. -/
theorem parse?_append_mark (tag : String) {digits : String} (noMark : '#' ∉ digits.toList) :
    parse? (tag ++ "#" ++ digits) =
      (Numeral.natural? positionLimit digits.toList).map fun n => (tag, n) := by
  obtain ⟨front, rest⟩ := cut_at_mark tag noMark
  simp only [parse?, front, rest, List.reverse_reverse, String.ofList_toList]

/-- Only a text with a mark in it is read. -/
theorem exists_mark_of_parse? {id : String} (read : (parse? id).isSome) :
    ∃ tag digits : String, id = tag ++ "#" ++ digits ∧ '#' ∉ digits.toList := by
  let reversed := id.toList.reverse
  have whole : reversed.takeWhile (· != '#') ++ reversed.dropWhile (· != '#') = reversed :=
    List.takeWhile_append_dropWhile
  have stops := stops_dropWhile (· != '#') reversed
  cases behind : reversed.dropWhile (· != '#') with
  | nil => simp [parse?, reversed, behind] at read
  | cons mark tag =>
    rw [behind] at whole stops
    -- Read backwards, the digits end at the first mark, which is the last one of the text.
    obtain rfl : mark = '#' := by simpa using stops
    refine ⟨String.ofList tag.reverse, String.ofList (reversed.takeWhile (· != '#')).reverse, ?_, ?_⟩
    · apply String.toList_injective
      have forwards := congrArg List.reverse whole
      simpa [reversed] using forwards.symm
    · intro member
      have inFront : '#' ∈ reversed.takeWhile (· != '#') := by simpa using member
      simpa using List.all_eq_true.mp List.all_takeWhile '#' inFront

theorem parse?_eq_some_iff {id tag : String} {position : Nat} :
    parse? id = some (tag, position) ↔
      ∃ digits : String, id = tag ++ "#" ++ digits ∧ '#' ∉ digits.toList ∧
        Numeral.Spells position digits.toList ∧ position < positionLimit := by
  constructor
  · intro read
    have succeeds : (parse? id).isSome := by rw [read]; rfl
    obtain ⟨front, digits, rfl, noMark⟩ := exists_mark_of_parse? succeeds
    rw [parse?_append_mark front noMark] at read
    obtain ⟨n, number, same⟩ := Option.map_eq_some_iff.mp read
    obtain ⟨rfl, rfl⟩ : front = tag ∧ n = position := by simpa using same
    obtain ⟨below, spells⟩ := Numeral.natural?_eq_some_iff.mp number
    exact ⟨digits, rfl, noMark, spells, below⟩
  · rintro ⟨digits, rfl, noMark, spells, below⟩
    rw [parse?_append_mark tag noMark, Numeral.natural?_eq_some_iff.mpr ⟨below, spells⟩]
    rfl

/-- A step id is a tag, a mark and a spelled position, and nothing else is read as one. The id of a
step reads back to its tag and position, so different steps have different ids. -/
theorem parse?_reads_exactly :
    (∀ (id tag : String) (position : Nat), parse? id = some (tag, position) ↔
      ∃ digits : String, id = tag ++ "#" ++ digits ∧ '#' ∉ digits.toList ∧
        Numeral.Spells position digits.toList ∧ position < positionLimit) ∧
    (∀ (tag : String) (position : Nat), position < positionLimit →
      parse? (render tag position) = some (tag, position)) ∧
    Function.Injective fun step : String × Nat => render step.1 step.2 := by
  refine ⟨fun id tag position => parse?_eq_some_iff, fun tag position below => ?_, ?_⟩
  · rw [parse?_render, if_pos below]
  · intro step other same
    exact Prod.ext_iff.mpr (render_inj.mp same)

/-- A tag that ends like an id, zeros behind a plus sign, and the greatest position. -/
theorem parse?_reads_exactly_marked_tag :
    parse? "go#1#+007" = some ("go#1", 7) ∧
      positionLimit - 1 < positionLimit ∧
      parse? (render "go#1" (positionLimit - 1)) = some ("go#1", positionLimit - 1) := by
  obtain ⟨readIff, readBack, -⟩ := parse?_reads_exactly
  have below : positionLimit - 1 < positionLimit := by decide
  have digits : Numeral.Digits 7 ['0', '0', '7'] :=
    ⟨by simp, List.all_iff_forall_prop.mp (by decide), by decide⟩
  exact ⟨(readIff _ _ _).mpr ⟨"+007", by decide, by decide, .signed digits, by decide⟩, below,
    readBack _ _ below⟩

end StepId

end SpokenCommand
