import Mathlib.Data.List.Nodup
import SpokenCommand.Proofs.RecognizerRuns
import SpokenCommand.Proofs.Reduction
import SpokenCommand.Proofs.StepIds

/-!
# Both orders of steps agree

The recognizer reports the steps of a sentence under ids that tell their positions. No two of them
tell the same one, so the steps can be put back in order from any permutation, and a reducer that
sorts them brings what one that takes them as reported brings (`step_orders_agree`).
-/

namespace SpokenCommand

/-- A list in strictly ascending order is what sorting makes of each of its permutations. -/
theorem mergeSort_of_perm {α : Type} {key : α → Nat} {sorted permuted : List α}
    (strict : sorted.Pairwise fun a b => key a < key b) (perm : permuted.Perm sorted) :
    permuted.mergeSort (fun a b => key a ≤ key b) = sorted := by
  have distinct : (sorted.map key).Nodup := by
    rw [List.nodup_iff_pairwise_ne, List.pairwise_map]
    exact strict.imp Nat.ne_of_lt
  have stable := stableSort_mergeSort key permuted
  refine List.Perm.eq_of_pairwise ?_ stable.ascending (strict.imp Nat.le_of_lt)
    (stable.perm.trans perm)
  -- Entries with the same key are the same entry, as no two of the list share one.
  intro a b inMerged inSorted forth back
  have inSortedToo : a ∈ sorted := perm.mem_iff.mp (stable.perm.mem_iff.mp inMerged)
  exact List.inj_on_of_nodup_map distinct inSortedToo inSorted (Nat.le_antisymm forth back)

/-! ## Reported steps -/

theorem Step.value_reported (step : Step) (position : Nat) :
    (step.reported position).value = step.tag? := by
  cases step <;> rfl

theorem Step.tag?_eq_none_iff {step : Step} : step.tag? = none ↔ step = .free := by
  cases step <;> simp [Step.tag?]

namespace StepSequence

variable {steps : StepSequence}

/-- The id that a step is reported under tells its position. -/
theorem Numbered.parse?_reported (numbered : steps.Numbered) {position : Nat} {step : Step}
    (there : steps[position]? = some step) (below : position < StepId.positionLimit) :
    ∃ tag, StepId.parse? (step.reported position).step = some (tag, position) := by
  cases step with
  | free => exact ⟨Template.freeSpeech, by simp [Step.reported, StepId.parse?_render, below]⟩
  | choice id tag texts =>
    have own : id = StepId.render tag position := numbered position id tag texts there
    exact ⟨tag, by simp [Step.reported, own, StepId.parse?_render, below]⟩

/-- Sorting the reported steps of a sentence undoes any permutation of them. -/
theorem Numbered.tagged_permuted (numbered : steps.Numbered)
    (counted : steps.length ≤ StepId.positionLimit) {e : Event}
    (reports : e.steps = steps.zipIdx.map fun (step, position) => step.reported position)
    {permuted : List EventStep} (perm : permuted.Perm e.steps) (threshold : Numeral.Single)
    (name : String) :
    (Reducer.mk threshold name .sentencePosition).tagged { e with steps := permuted } =
      (Reducer.mk threshold name .reported).tagged e := by
  have strict : (steps.filterMap Step.idAndTag?).Pairwise fun a b =>
      Reducer.position a.1 < Reducer.position b.1 := by
    refine Reducer.pairwise_position_of_numbered numbered (R := (· < ·)) ?_
    intro i j before inside
    omega
  have pairs := perm.filterMap fun s => s.value.map (s.step, ·)
  rw [reports, Reducer.filterMap_reported] at pairs
  simp only [Reducer.tagged, reports, Reducer.filterMap_reported]
  exact mergeSort_of_perm strict pairs

end StepSequence

/-! ## Compiled sentences -/

/-- For every grammar that is compiled from a vocabulary and expanded sentences, the event of an
utterance tells the position of each step in its id, and has values for all steps but free speech.
However its steps are shuffled, a reducer that goes by the positions brings what one that goes by the
reported order makes of the original. -/
theorem step_orders_agree {κ : Type} {c : Compiler} {vocabulary : Vocabulary}
    {sentences : List Sentence.Variant} {g : Grammar}
    (assembled : c.assemble vocabulary sentences = .ok g)
    (counted : ∀ sentence ∈ sentences, sentence.length ≤ StepId.positionLimit)
    {utterance : String} {m : Match} (recognized : g.recognize? utterance = some m)
    (confidence : Numeral.Single) :
    let e : Event := ⟨confidence, g.name, m.eventSteps, true⟩
    (∀ (r : Recognizer κ) (channel : κ) (front back : List Grammar), r.channel = some channel →
      r.grammars = front ++ g :: back → (∀ other ∈ front, other.recognize? utterance = none) →
      r.hear utterance confidence = some (channel, e)) ∧
    (∃ steps, g.sentences[m.sentence]? = some steps ∧ e.steps.length = steps.length ∧
      ∀ i step, steps[i]? = some step → ∃ reported tag, e.steps[i]? = some reported ∧
        StepId.parse? reported.step = some (tag, i) ∧ (reported.value = none ↔ step = .free)) ∧
    ∀ permuted : List EventStep, permuted.Perm e.steps → ∀ threshold name,
      (Reducer.mk threshold name .sentencePosition).reduce { e with steps := permuted } =
        (Reducer.mk threshold name .reported).reduce e := by
  intro e
  obtain ⟨steps, pieces, there, cut, reports⟩ := Grammar.recognize?_eq_some recognized
  have reported : e.steps = steps.zipIdx.map fun (step, position) => step.reported position :=
    Match.eventSteps_eq (cut?_sound cut).takes.length_eq reports
  -- The sentence comes from one of the expanded ones, which has a term for each of its steps.
  obtain ⟨sentence, member, rfl⟩ : ∃ sentence ∈ sentences,
      Compiler.plainSteps vocabulary sentence = steps := by
    have inGrammar := List.mem_of_getElem? there
    rw [Compiler.eq_plainGrammar_of_assemble assembled] at inGrammar
    exact List.mem_map.mp inGrammar
  have numbered := Compiler.numbered_plainSteps vocabulary sentence
  have short : (Compiler.plainSteps vocabulary sentence).length ≤ StepId.positionLimit := by
    rw [Compiler.length_plainSteps]
    exact counted sentence member
  refine ⟨?_, ⟨_, there, by simp [reported], ?_⟩, ?_⟩
  · intro r channel front back held loaded earlier
    exact Recognizer.hear_eq_some_iff.mpr
      ⟨held, Recognizer.eventFor_eq_some_iff.mpr ⟨front, g, back, m, loaded, earlier, recognized, rfl⟩⟩
  · intro i step stepThere
    have inside := (List.getElem?_eq_some_iff.mp stepThere).1
    obtain ⟨tag, parsed⟩ := numbered.parse?_reported stepThere (Nat.lt_of_lt_of_le inside short)
    refine ⟨step.reported i, tag, by simp [reported, stepThere], parsed, ?_⟩
    rw [Step.value_reported, Step.tag?_eq_none_iff]
  · intro permuted perm threshold name
    have tagged := numbered.tagged_permuted short reported perm threshold name
    simp only [Reducer.reduce, tagged]
    rfl

/-- A key with a mark and a digit in it, and the steps of its sentence from back to front. -/
theorem step_orders_agree_marked_key :
    let g : Grammar := ⟨"Command", "en-US",
      [[.choice (StepId.render "go#7" 0) "go#7" ["go#7"], .free,
        .choice (StepId.render "door" 2) "door" ["door"]]], 3⟩
    let m : Match := ⟨0, [⟨some (StepId.render "go#7" 0), some "go#7", "go#7"⟩,
      ⟨none, none, "to the"⟩, ⟨some (StepId.render "door" 2), some "door", "door"⟩]⟩
    let e : Event := ⟨typedConfidence, "Command", m.eventSteps, true⟩
    ({} : Compiler).assemble .empty [[.key "go#7", .free, .key "door"]] = .ok g ∧
      g.recognize? "GO#7 to the door" = some m ∧
      (Reducer.mk (.ofInt 0) "Command" .reported).reduce e = some "go#7 door" ∧
      (Reducer.mk (.ofInt 0) "Command" .sentencePosition).reduce
        { e with steps := e.steps.reverse } = some "go#7 door" := by
  intro g m e
  have assembled : ({} : Compiler).assemble .empty [[.key "go#7", .free, .key "door"]] = .ok g := by
    rw [Compiler.assemble_eq_ok _ _ (by simp)]
    simp [Compiler.plainGrammar, Compiler.plainSteps, Compiler.plainStepsFrom, Compiler.plainStep,
      Compiler.totalWeight, Compiler.weightOf, Step.weight, Compiler.resolve_eq, g]
  have recognized : g.recognize? "GO#7 to the door" = some m := by decide +kernel
  have counted : ∀ sentence ∈ [[Sentence.Term.key "go#7", .free, .key "door"]],
      sentence.length ≤ StepId.positionLimit := by simp [StepId.positionLimit]
  obtain ⟨-, -, agree⟩ :=
    step_orders_agree (κ := Unit) assembled counted recognized typedConfidence
  have reduced : (Reducer.mk (.ofInt 0) "Command" .reported).reduce e = some "go#7 door" := by
    decide +kernel
  exact ⟨assembled, recognized, reduced, (agree _ (List.reverse_perm _) _ _).trans reduced⟩

end SpokenCommand
