import Mathlib.Data.List.Forall2
import SpokenCommand.Proofs.Assembly
import SpokenCommand.Proofs.FirstMatch
import SpokenCommand.Recognition.Recognizer
import SpokenCommand.Recognition.Reducer

/-!
# The order of a vocabulary does not matter

Two lists with the same entries give each key the same texts, in another order and with other
repetitions. The steps compiled from them are then alike (`Step.Alike`): they take the same pieces, so
the search succeeds for one where it does for the other. Which piece a step takes may differ, but no
event tells the pieces, so the two grammars lead to the same events
(`Compiler.compile_listing_independent`).
-/

namespace SpokenCommand

/-- Steps that differ at most in how their texts are listed. -/
inductive Step.Alike : Step → Step → Prop
  | free : Alike .free .free
  | choice {id tag : String} {texts others : List String} :
      (∀ text, text ∈ texts ↔ text ∈ others) → Alike (.choice id tag texts) (.choice id tag others)

/-- Sentences whose steps are alike, one by one. -/
abbrev StepSequence.Alike : StepSequence → StepSequence → Prop := List.Forall₂ Step.Alike

/-- What is recognized, without the pieces: the sentence, and the ids and the tags of its steps. -/
def Match.outline (m : Match) : Nat × List (Option String) × List (Option String) :=
  (m.sentence, m.steps.map StepMatch.id?, m.steps.map StepMatch.tag?)

/-! ## Steps that are alike -/

theorem map_eq_of_forall₂ {α β γ : Type} {R : α → β → Prop} {f : α → γ} {h : β → γ}
    {as : List α} {bs : List β} (related : List.Forall₂ R as bs)
    (same : ∀ {a b}, R a b → f a = h b) : as.map f = bs.map h := by
  induction related with
  | nil => rfl
  | cons first _ ih => rw [List.map_cons, List.map_cons, same first, ih]

namespace Step.Alike

variable {step other : Step}

theorem id?_eq (alike : step.Alike other) : step.id? = other.id? := by
  cases alike <;> rfl

theorem tag?_eq (alike : step.Alike other) : step.tag? = other.tag? := by
  cases alike <;> rfl

theorem takes_iff (alike : step.Alike other) (piece : List String) :
    step.Takes piece ↔ other.Takes piece := by
  cases alike with
  | free => rfl
  | choice same => simp only [Step.Takes, same]

end Step.Alike

namespace StepSequence.Alike

variable {steps others : StepSequence}

theorem symm (alike : steps.Alike others) : others.Alike steps := by
  refine alike.flip.imp fun step other same => ?_
  cases same with
  | free => exact .free
  | choice same => exact .choice fun text => (same text).symm

/-- The same cut is a derivation from either. -/
theorem derives (alike : steps.Alike others) {said : List String} {pieces : List (List String)}
    (derives : Derives steps said pieces) : Derives others said pieces := by
  refine ⟨?_, derives.covers⟩
  have takes := derives.takes
  clear derives
  induction alike generalizing pieces with
  | nil =>
    cases takes
    exact .nil
  | cons same _ ih =>
    cases takes with
    | cons taken rest => exact .cons ((same.takes_iff _).mp taken) (ih rest)

theorem cut?_isSome (alike : steps.Alike others) {said : List String}
    (found : (cut? steps said).isSome) : (cut? others said).isSome := by
  obtain ⟨pieces, derives⟩ := cut?_isSome_iff.mp found
  exact cut?_isSome_iff.mpr ⟨pieces, alike.derives derives⟩

theorem cut?_eq_none (alike : steps.Alike others) {said : List String}
    (failed : cut? steps said = none) : cut? others said = none := by
  rw [← Option.not_isSome_iff_eq_none] at failed ⊢
  exact fun found => failed (alike.symm.cut?_isSome found)

end StepSequence.Alike

/-! ## Recognition -/

theorem outline_report {steps : StepSequence} {said : List String} {pieces : List (List String)}
    (found : cut? steps said = some pieces) (index : Nat) :
    (Match.mk index (List.zipWith Step.report steps pieces)).outline =
      (index, steps.map Step.id?, steps.map Step.tag?) := by
  obtain ⟨ids, tags, -⟩ := map_report (cut?_sound found).takes
  rw [Match.outline, ids, tags]

theorem findSome?_outline {sentences others : List StepSequence}
    (alike : List.Forall₂ StepSequence.Alike sentences others) (said : List String) (index : Nat) :
    ((sentences.zipIdx index).findSome? fun (steps, index) => (cut? steps said).map fun found =>
        Match.mk index (List.zipWith Step.report steps found)).map Match.outline =
      ((others.zipIdx index).findSome? fun (steps, index) => (cut? steps said).map fun found =>
        Match.mk index (List.zipWith Step.report steps found)).map Match.outline := by
  -- The search numbers the sentences, so the number it starts from goes along.
  induction alike generalizing index with
  | nil => rfl
  | @cons steps other sentences others same _ ih =>
    simp only [List.zipIdx_cons, List.findSome?_cons]
    cases found : cut? steps said with
    | none =>
      have otherFails : cut? other said = none := same.cut?_eq_none found
      simp only [otherFails, Option.map_none]
      exact ih (index + 1)
    | some pieces =>
      have otherFound : (cut? other said).isSome := same.cut?_isSome (by simp [found])
      obtain ⟨otherPieces, otherFound⟩ := Option.isSome_iff_exists.mp otherFound
      simp only [otherFound, Option.map_some, outline_report found, outline_report otherFound,
        map_eq_of_forall₂ same Step.Alike.id?_eq, map_eq_of_forall₂ same Step.Alike.tag?_eq]

theorem Grammar.outline_recognize? {g other : Grammar}
    (alike : List.Forall₂ StepSequence.Alike g.sentences other.sentences) (utterance : String) :
    (g.recognize? utterance).map Match.outline = (other.recognize? utterance).map Match.outline := by
  by_cases silent : spokenWords utterance = []
  · simp [recognize?, silent]
  · simp only [recognize?, silent, List.isEmpty_iff, if_false]
    exact findSome?_outline alike (spokenWords utterance) 0

/-- An event tells of a recognized utterance no more than its outline. -/
theorem Match.eventSteps_of_outline {m other : Match} (same : m.outline = other.outline) :
    m.eventSteps = other.eventSteps := by
  obtain ⟨-, ids, tags⟩ : _ ∧ _ ∧ _ := by simpa [outline] using same
  -- Position by position, since the position goes into the id of free speech.
  apply List.ext_getElem?
  intro i
  have sameId := congrArg (·[i]?) ids
  have sameTag := congrArg (·[i]?) tags
  simp only [List.getElem?_map] at sameId sameTag
  simp only [eventSteps, List.getElem?_map, List.getElem?_zipIdx]
  cases here : m.steps[i]? with
  | none =>
    have there : other.steps[i]? = none := by simpa [here] using sameId.symm
    rw [there]
  | some step =>
    cases there : other.steps[i]? with
    | none => simp [here, there] at sameId
    | some otherStep =>
      have id : step.id? = otherStep.id? := by simpa [here, there] using sameId
      have tag : step.tag? = otherStep.tag? := by simpa [here, there] using sameTag
      simp only [Option.map_some, id, tag]

theorem Recognizer.eventFor_of_outline {κ : Type} (r : Recognizer κ) {g other : Grammar}
    {utterance : String}
    (same : (g.recognize? utterance).map Match.outline =
      (other.recognize? utterance).map Match.outline)
    (name : g.name = other.name) (front back : List Grammar) (confidence : Numeral.Single) :
    { r with grammars := front ++ g :: back }.eventFor utterance confidence =
      { r with grammars := front ++ other :: back }.eventFor utterance confidence := by
  have event : (g.recognize? utterance).map (fun m => Event.mk confidence g.name m.eventSteps true) =
      (other.recognize? utterance).map fun m =>
        Event.mk confidence other.name m.eventSteps true := by
    cases found : g.recognize? utterance with
    | none =>
      have otherFails : other.recognize? utterance = none := by simpa [found] using same.symm
      rw [otherFails]
      rfl
    | some m =>
      cases otherFound : other.recognize? utterance with
      | none => simp [found, otherFound] at same
      | some otherMatch =>
        have outline : m.outline = otherMatch.outline := by simpa [found, otherFound] using same
        rw [Option.map_some, Option.map_some, name, Match.eventSteps_of_outline outline]
  simp only [eventFor, List.findSome?_append, List.findSome?_cons, event]

/-! ## Vocabularies -/

namespace Compiler

section Listing

variable {v w : Vocabulary}

/-- What holds of the texts of a key, and of the key alone, holds of what the key stands for. -/
theorem resolve_rel {R : List String → List String → Prop} {key : String}
    (buckets : R (v.bucket key) (w.bucket key)) (own : R [key] [key])
    (empty : v.bucket key = [] ↔ w.bucket key = []) : R (resolve v key) (resolve w key) := by
  rw [resolve_eq, resolve_eq]
  by_cases nothing : w.bucket key = []
  · rwa [if_pos (empty.mpr nothing), if_pos nothing]
  · rwa [if_neg (mt empty.mp nothing), if_neg nothing]

theorem alike_plainSteps (same : ∀ key text, text ∈ v.bucket key ↔ text ∈ w.bucket key)
    (sentence : Sentence.Variant) : (plainSteps v sentence).Alike (plainSteps w sentence) := by
  rw [plainSteps, plainSteps, plainStepsFrom, plainStepsFrom, StepSequence.Alike,
    List.forall₂_map_left_iff, List.forall₂_map_right_iff, List.forall₂_same]
  intro entry _
  obtain ⟨term, position⟩ := entry
  cases term with
  | free => exact .free
  | key key =>
    have empty : v.bucket key = [] ↔ w.bucket key = [] := by
      simp only [List.eq_nil_iff_forall_not_mem, same]
    exact .choice (resolve_rel (R := fun texts others => ∀ text, text ∈ texts ↔ text ∈ others)
      (same key) (fun _ => Iff.rfl) empty)

theorem alike_plainGrammar (c : Compiler)
    (same : ∀ key text, text ∈ v.bucket key ↔ text ∈ w.bucket key)
    (sentences : List Sentence.Variant) :
    List.Forall₂ StepSequence.Alike (c.plainGrammar v sentences).sentences
      (c.plainGrammar w sentences).sentences := by
  rw [plainGrammar, plainGrammar, List.forall₂_map_left_iff, List.forall₂_map_right_iff,
    List.forall₂_same]
  exact fun sentence _ => alike_plainSteps same sentence

theorem weightOf_congr (perm : ∀ key, (v.bucket key).Perm (w.bucket key)) (position : Nat)
    (terms : Sentence.Variant) :
    weightOf (plainStepsFrom v position terms) = weightOf (plainStepsFrom w position terms) := by
  induction terms generalizing position with
  | nil => rfl
  | cons term terms ih =>
    have first : (plainStep v position term).weight = (plainStep w position term).weight := by
      cases term with
      | free => rfl
      | key key =>
        have empty : v.bucket key = [] ↔ w.bucket key = [] := by
          rw [← List.length_eq_zero_iff, (perm key).length_eq, List.length_eq_zero_iff]
        exact (resolve_rel (perm key) (.refl _) empty).length_eq
    rw [plainStepsFrom_cons, plainStepsFrom_cons, weightOf, weightOf, first, ih]

theorem totalWeight_congr (perm : ∀ key, (v.bucket key).Perm (w.bucket key))
    (sentences : List Sentence.Variant) :
    totalWeight (sentences.map (plainSteps v)) = totalWeight (sentences.map (plainSteps w)) := by
  induction sentences with
  | nil => rfl
  | cons sentence sentences ih =>
    rw [List.map_cons, List.map_cons, totalWeight, totalWeight, ih, plainSteps, plainSteps,
      weightOf_congr perm]

end Listing

/-- Two lists with the same entries, in whatever order and however often each, fail to compile for the
same reason or compile to grammars that nobody can tell apart by what they recognize: the same
sentences under the same ids and tags, and the same events and canonical strings whatever is said.
Where neither list repeats an entry more often than the other, the choices are as many. -/
theorem compile_listing_independent (c : Compiler) (templates : List String)
    {entries others : List PhraseEntry} (same : ∀ entry, entry ∈ entries ↔ entry ∈ others) :
    (∃ e, c.compile entries templates = .error e ∧ c.compile others templates = .error e) ∨
    ∃ g other, c.compile entries templates = .ok g ∧ c.compile others templates = .ok other ∧
      g.sentences.map (·.map Step.id?) = other.sentences.map (·.map Step.id?) ∧
      g.sentences.map (·.map Step.tag?) = other.sentences.map (·.map Step.tag?) ∧
      (∀ utterance, (g.recognize? utterance).map Match.outline =
        (other.recognize? utterance).map Match.outline) ∧
      (∀ (κ : Type) (r : Recognizer κ) (front back : List Grammar) utterance confidence
          (reducer : Reducer),
        ({ r with grammars := front ++ g :: back }.eventFor utterance confidence).bind
            reducer.reduce =
          ({ r with grammars := front ++ other :: back }.eventFor utterance confidence).bind
            reducer.reduce) ∧
      (entries.Perm others → g.choiceCount = other.choiceCount) := by
  by_cases nothing : templates.flatMap Sentence.variants = []
  · left
    refine ⟨.empty c.name, ?_, ?_⟩
    · rw [compile, nothing, assemble_nil]
    · rw [compile, nothing, assemble_nil]
  · right
    have texts : ∀ key text, text ∈ (Vocabulary.ofEntries entries).bucket key ↔
        text ∈ (Vocabulary.ofEntries others).bucket key := by
      intro key text
      simp only [Vocabulary.mem_bucket_ofEntries, same]
    have alike := alike_plainGrammar c texts (templates.flatMap Sentence.variants)
    refine ⟨_, _, assemble_eq_ok c _ nothing, assemble_eq_ok c _ nothing, ?_, ?_,
      Grammar.outline_recognize? alike, ?_, ?_⟩
    · exact map_eq_of_forall₂ alike fun steps => map_eq_of_forall₂ steps Step.Alike.id?_eq
    · exact map_eq_of_forall₂ alike fun steps => map_eq_of_forall₂ steps Step.Alike.tag?_eq
    · intro κ r front back utterance confidence reducer
      have outline := Grammar.outline_recognize? alike utterance
      exact congrArg (·.bind reducer.reduce) (r.eventFor_of_outline outline rfl front back confidence)
    · intro perm
      refine totalWeight_congr (fun key => ?_) _
      rw [Vocabulary.bucket_ofEntries, Vocabulary.bucket_ofEntries]
      exact (perm.filter _).flatMap_right _

/-- Listed the other way round and with a repetition, the texts of a key lead to other pieces, but to
the same sentence, ids and tags. -/
theorem compile_listing_independent_other_pieces :
    let entries : List PhraseEntry := [⟨"go", "go"⟩, ⟨"go", "go on"⟩]
    let others : List PhraseEntry := [⟨"go", "go on"⟩, ⟨"go", "go"⟩, ⟨"go", "go on"⟩]
    (∀ entry, entry ∈ entries ↔ entry ∈ others) ∧
    ∃ g other, ({} : Compiler).compile entries ["go ... north"] = .ok g ∧
      ({} : Compiler).compile others ["go ... north"] = .ok other ∧
      g.recognize? "go on there north" ≠ other.recognize? "go on there north" ∧
      (g.recognize? "go on there north").map Match.outline =
        (other.recognize? "go on there north").map Match.outline := by
  intro entries others
  have same : ∀ entry, entry ∈ entries ↔ entry ∈ others := by
    intro entry
    simp only [entries, others, List.mem_cons, List.not_mem_nil, or_false]
    grind
  refine ⟨same, ?_⟩
  have variants : ["go ... north"].flatMap Sentence.variants =
      [[.key "go", .free, .key "north"]] := by decide +kernel
  have short : Phrase.texts "go" = ["go"] := by decide +kernel
  have long : Phrase.texts "go on" = ["go on"] := by decide +kernel
  have compiled : ∀ list : List PhraseEntry, ({} : Compiler).compile list ["go ... north"] =
      .ok (({} : Compiler).plainGrammar (.ofEntries list) [[.key "go", .free, .key "north"]]) := by
    intro list
    rw [compile, variants, assemble_eq_ok _ _ (by simp)]
  obtain ⟨e, failed, -⟩ | ⟨g, other, made, otherMade, -, -, recognized, -⟩ :=
    compile_listing_independent {} ["go ... north"] same
  · rw [compiled] at failed
    cases failed
  · refine ⟨g, other, made, otherMade, ?_, recognized _⟩
    rw [compiled] at made otherMade
    cases made
    cases otherMade
    have steps : plainSteps (.ofEntries entries) [.key "go", .free, .key "north"] =
        [.choice (StepId.render "go" 0) "go" ["go", "go on"], .free,
          .choice (StepId.render "north" 2) "north" ["north"]] := by
      simp [plainSteps, plainStepsFrom, plainStep, resolve_eq, Vocabulary.bucket_ofEntries, entries,
        short, long]
    have otherSteps : plainSteps (.ofEntries others) [.key "go", .free, .key "north"] =
        [.choice (StepId.render "go" 0) "go" ["go on", "go", "go on"], .free,
          .choice (StepId.render "north" 2) "north" ["north"]] := by
      simp [plainSteps, plainStepsFrom, plainStep, resolve_eq, Vocabulary.bucket_ofEntries, others,
        short, long]
    simp only [plainGrammar, List.map_cons, List.map_nil, steps, otherSteps]
    decide +kernel

end Compiler

end SpokenCommand
