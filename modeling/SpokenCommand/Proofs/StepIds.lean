import Mathlib.Data.List.Basic
import SpokenCommand.Proofs.Assembly
import SpokenCommand.Proofs.Derivations
import SpokenCommand.Proofs.Words
import SpokenCommand.Recognition.Recognizer
import SpokenCommand.Recognition.Reducer

/-!
# Step ids and the order of values

The id of a step reads back to its tag and position (`StepId.parse?_render`). A sentence whose steps
carry the ids of their positions is therefore reported in the order that its ids ask for, so that
both orders of a reducer bring its tags in sentence order (`Reducer.values_of_numbered`).
-/

namespace SpokenCommand

open Text

namespace Numeral

theorem digitsValue_toDigits (n : Nat) : digitsValue (Nat.toDigits 10 n) = n := by
  have spelled : Nat.ofDigitChars 10 (Nat.toDigits 10 n) 0 = n := Nat.ofDigitChars_ten_toDigits
  rwa [Nat.ofDigitChars_eq_foldl] at spelled

theorem natural?_toDigits (limit n : Nat) :
    natural? limit (Nat.toDigits 10 n) = if n < limit then some n else none := by
  have read : digits? (Nat.toDigits 10 n) = some n := by
    have allDigits : (Nat.toDigits 10 n).all Char.isDigit = true :=
      List.all_eq_true.mpr (isDigit_toDigits n)
    simp [digits?, Nat.toDigits_ne_nil, allDigits, digitsValue_toDigits]
  have noSign : natural? limit (Nat.toDigits 10 n) =
      (digits? (Nat.toDigits 10 n)).filter (· < limit) := by
    obtain ⟨c, ds, digits⟩ := List.exists_cons_of_ne_nil (Nat.toDigits_ne_nil (n := n) (b := 10))
    have notPlus : c ≠ '+' := by
      rintro rfl
      have member : '+' ∈ Nat.toDigits 10 n := by simp [digits]
      exact notMem_toDigits (by decide) n member
    rw [digits]
    simp [natural?, notPlus]
  rw [noSign, read]
  simp [Option.filter]

end Numeral

namespace StepId

/-- A text is cut at its last mark, whatever marks are in front of it. -/
theorem cut_at_mark (tag : String) {digits : String} (noMark : '#' ∉ digits.toList) :
    (tag ++ "#" ++ digits).toList.reverse.takeWhile (· != '#') = digits.toList.reverse ∧
      (tag ++ "#" ++ digits).toList.reverse.dropWhile (· != '#') = '#' :: tag.toList.reverse := by
  have reversed : (tag ++ "#" ++ digits).toList.reverse =
      digits.toList.reverse ++ '#' :: tag.toList.reverse := by
    simp
  have others : ∀ c ∈ digits.toList.reverse, (c != '#') = true := by
    intro c member
    rw [bne_iff_ne]
    rintro rfl
    exact noMark (List.mem_reverse.mp member)
  have stops : Stops (· != '#') ('#' :: tag.toList.reverse) := by simp
  rw [reversed]
  exact ⟨stops.takeWhile_append others, stops.dropWhile_append others⟩

theorem cut_render (tag : String) (position : Nat) :
    (render tag position).toList.reverse.takeWhile (· != '#') =
        (Nat.toDigits 10 position).reverse ∧
      (render tag position).toList.reverse.dropWhile (· != '#') = '#' :: tag.toList.reverse := by
  have noMark : '#' ∉ (String.ofList (Nat.toDigits 10 position)).toList := by
    rw [String.toList_ofList]
    exact notMem_toDigits (by decide) position
  have cut := cut_at_mark tag noMark
  rwa [String.toList_ofList] at cut

theorem parse?_render (tag : String) (position : Nat) :
    parse? (render tag position) =
      if position < positionLimit then some (tag, position) else none := by
  obtain ⟨digits, rest⟩ := cut_render tag position
  have number := Numeral.natural?_toDigits positionLimit position
  simp only [parse?, digits, rest, List.reverse_reverse, number]
  by_cases below : position < positionLimit <;> simp [below]

theorem render_inj {tag other : String} {position place : Nat} :
    render tag position = render other place ↔ tag = other ∧ position = place := by
  constructor
  · intro same
    obtain ⟨digits, rest⟩ := cut_render tag position
    obtain ⟨otherDigits, otherRest⟩ := cut_render other place
    rw [same, otherDigits, List.reverse_inj] at digits
    rw [same, otherRest, List.cons.injEq, List.reverse_inj] at rest
    have values := congrArg Numeral.digitsValue digits
    rw [Numeral.digitsValue_toDigits, Numeral.digitsValue_toDigits] at values
    exact ⟨(String.toList_injective rest.2).symm, values.symm⟩
  · rintro ⟨rfl, rfl⟩
    rfl

end StepId

/-! ## Sentences whose steps are numbered -/

namespace StepSequence

/-- Each choice of a sentence carries the id of its position. -/
def Numbered (steps : StepSequence) : Prop :=
  ∀ position id tag texts, steps[position]? = some (.choice id tag texts) →
    id = StepId.render tag position

/-- The tags of a sentence, in order. -/
def tags (steps : StepSequence) : List String := steps.filterMap Step.tag?

end StepSequence

theorem Compiler.numbered_plainSteps (vocabulary : Vocabulary) (sentence : Sentence.Variant) :
    StepSequence.Numbered (plainSteps vocabulary sentence) := by
  intro position id tag texts there
  rw [getElem?_plainSteps, Option.map_eq_some_iff] at there
  obtain ⟨term, -, same⟩ := there
  cases term with
  | free => simp [plainStep] at same
  | key key =>
    obtain ⟨rfl, rfl, -⟩ : StepId.render key position = id ∧ key = tag ∧ _ = texts := by
      simpa [plainStep] using same
    rfl

/-- The id and the tag of a choice. -/
def Step.idAndTag? : Step → Option (String × String)
  | .free => none
  | .choice id tag _ => some (id, tag)

/-- What an event reports for a step at a position. -/
def Step.reported (position : Nat) : Step → EventStep
  | .free => ⟨StepId.render Template.freeSpeech position, none⟩
  | .choice id tag _ => ⟨id, some tag⟩

theorem Grammar.recognize?_eq_some {g : Grammar} {utterance : String} {m : Match}
    (recognized : g.recognize? utterance = some m) :
    ∃ steps pieces, g.sentences[m.sentence]? = some steps ∧
      cut? steps (spokenWords utterance) = some pieces ∧
      m.steps = List.zipWith Step.report steps pieces := by
  obtain ⟨-, steps, pieces, sentence, cut, entries, -⟩ := Grammar.recognize?_at_index recognized
  exact ⟨steps, pieces, sentence, cut, entries⟩

/-- The event of a recognized utterance reports the steps of its sentence. -/
theorem Match.eventSteps_eq {m : Match} {steps : StepSequence} {pieces : List (List String)}
    (sameLength : steps.length = pieces.length)
    (reports : m.steps = List.zipWith Step.report steps pieces) :
    m.eventSteps = steps.zipIdx.map fun (step, position) => step.reported position := by
  apply List.ext_getElem?
  intro i
  rw [Match.eventSteps, reports]
  simp only [List.getElem?_map, List.getElem?_zipIdx, List.getElem?_zipWith, Nat.zero_add]
  cases there : steps[i]? with
  | none => simp
  | some step =>
    have bound : i < pieces.length := by
      rw [← sameLength]
      exact (List.getElem?_eq_some_iff.mp there).1
    -- A choice brings its own id; free speech gets the one of its position.
    cases step <;>
      simp [List.getElem?_eq_getElem bound, Step.report, Step.id?, Step.tag?, Step.reported]

namespace Reducer

theorem position_render (tag : String) (position : Nat) :
    Reducer.position (StepId.render tag position) = min position (StepId.positionLimit - 1) := by
  rw [Reducer.position, StepId.parse?_render]
  by_cases below : position < StepId.positionLimit
  · simp [below]
    omega
  · simp [below]
    omega

theorem filterMap_idAndTag? (steps : StepSequence) :
    steps.filterMap Step.idAndTag? = steps.zipIdx.filterMap fun entry => entry.1.idAndTag? := by
  have firsts := List.filterMap_map (f := Prod.fst) (g := Step.idAndTag?) (l := steps.zipIdx)
  rwa [List.zipIdx_map_fst] at firsts

theorem position_of_numbered {steps : StepSequence} (numbered : steps.Numbered) {index : Nat}
    {step : Step} (there : steps[index]? = some step) {pair : String × String}
    (named : step.idAndTag? = some pair) :
    position pair.1 = min index (StepId.positionLimit - 1) := by
  cases step with
  | free => contradiction
  | choice id tag texts =>
    obtain rfl : (id, tag) = pair := by simpa [Step.idAndTag?] using named
    have own : id = StepId.render tag index := numbered index id tag texts there
    rw [own]
    exact position_render tag index

/-- The positions in the ids of a sentence ascend, up to the greatest word. -/
theorem pairwise_position_of_numbered {steps : StepSequence} (numbered : steps.Numbered)
    {R : Nat → Nat → Prop}
    (ascending : ∀ i j, i < j → j < steps.length →
      R (min i (StepId.positionLimit - 1)) (min j (StepId.positionLimit - 1))) :
    (steps.filterMap Step.idAndTag?).Pairwise fun a b => R (position a.1) (position b.1) := by
  have indices : steps.zipIdx.Pairwise fun a b => a.2 < b.2 := by
    rw [← List.pairwise_map (f := Prod.snd), List.zipIdx_map_snd]
    exact List.pairwise_lt_range' 1
  rw [filterMap_idAndTag?, List.pairwise_filterMap]
  -- The number in an id is its position, or the greatest word where it does not fit.
  refine indices.imp_of_mem fun {a b} inFront inBack before first named second namedLater => ?_
  have front := List.mem_zipIdx_iff_getElem?.mp inFront
  have back := List.mem_zipIdx_iff_getElem?.mp inBack
  rw [position_of_numbered numbered front named, position_of_numbered numbered back namedLater]
  exact ascending a.2 b.2 before (List.getElem?_eq_some_iff.mp back).1

theorem sorted_of_numbered {steps : StepSequence} (numbered : steps.Numbered) :
    (steps.filterMap Step.idAndTag?).Pairwise fun a b =>
      decide (position a.1 ≤ position b.1) = true := by
  refine pairwise_position_of_numbered numbered (R := fun i j => decide (i ≤ j) = true) ?_
  intro i j before _
  rw [decide_eq_true_eq]
  omega

theorem filterMap_reported (steps : StepSequence) :
    ((steps.zipIdx.map fun (step, position) => step.reported position).filterMap fun s =>
      s.value.map (s.step, ·)) = steps.filterMap Step.idAndTag? := by
  rw [List.filterMap_map, filterMap_idAndTag?]
  refine List.filterMap_congr fun entry _ => ?_
  obtain ⟨step, position⟩ := entry
  cases step <;> rfl

/-- Both orders bring the tags of a sentence in its own order. -/
theorem values_of_numbered (r : Reducer) {e : Event} {steps : StepSequence}
    (numbered : steps.Numbered)
    (reports : e.steps = steps.zipIdx.map fun (step, position) => step.reported position) :
    (r.tagged e).map Prod.snd = steps.tags := by
  have pairs : (e.steps.filterMap fun s => s.value.map (s.step, ·)) =
      steps.filterMap Step.idAndTag? := by
    rw [reports, filterMap_reported]
  have values : (steps.filterMap Step.idAndTag?).map Prod.snd = steps.tags := by
    rw [List.map_filterMap]
    refine List.filterMap_congr fun step _ => ?_
    cases step <;> rfl
  cases order : r.order with
  | reported => simp only [tagged, order, pairs, values]
  -- The positions ascend already, so sorting by them changes nothing.
  | sentencePosition =>
    simp only [tagged, order, pairs, List.mergeSort_of_pairwise (sorted_of_numbered numbered),
      values]

end Reducer

end SpokenCommand
