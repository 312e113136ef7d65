import SpokenCommand.Proofs.StepIds

/-!
# What a sentence compiles to

The compiler carries a cache of texts and a count from step to step and from sentence to sentence.
Neither shows in the grammar: each step is what its own term and position say, by the buckets of the
vocabulary alone (`Resolves`), and the count is the sum over the steps of the grammar. The ids of a
sentence are distinct because an id tells its position, and the steps of one key have the same texts
in all sentences (`Compiler.assemble_resolves`).
-/

namespace SpokenCommand

theorem StepSequence.Numbered.nodup_ids {steps : StepSequence} (numbered : steps.Numbered) :
    (steps.filterMap Step.id?).Nodup := by
  rw [List.Nodup, List.pairwise_filterMap, List.pairwise_iff_getElem]
  intro i j iBound jBound before id idThere other otherThere same
  have here := numbered i id
  have there := numbered j other
  rw [List.getElem?_eq_getElem iBound] at here
  rw [List.getElem?_eq_getElem jBound] at there
  -- A step with an id is a choice, and the id of a choice ends in its position.
  cases first : steps[i] with
  | free => simp [first, Step.id?] at idThere
  | choice ownId tag texts =>
    cases second : steps[j] with
    | free => simp [second, Step.id?] at otherThere
    | choice otherId otherTag otherTexts =>
      obtain rfl : ownId = id := by simpa [first, Step.id?] using idThere
      obtain rfl : otherId = other := by simpa [second, Step.id?] using otherThere
      have ownRendered := here tag texts (by rw [first])
      have otherRendered := there otherTag otherTexts (by rw [second])
      rw [ownRendered, otherRendered, StepId.render_inj] at same
      omega

namespace Compiler

/-- What a term stands for at its position, by the buckets of the vocabulary alone. -/
inductive Resolves (vocabulary : Vocabulary) (position : Nat) : Sentence.Term → Step → Prop
  | free : Resolves vocabulary position .free .free
  | spoken {key : String} {bucket : Array String} (found : vocabulary.buckets[key]? = some bucket)
      (nonempty : bucket ≠ #[]) :
      Resolves vocabulary position (.key key)
        (.choice (StepId.render key position) key bucket.toList)
  | silent {key : String} (found : vocabulary.buckets[key]? = some #[]) :
      Resolves vocabulary position (.key key) (.choice (StepId.render key position) key [key])
  | absent {key : String} (missing : vocabulary.buckets[key]? = none) :
      Resolves vocabulary position (.key key) (.choice (StepId.render key position) key [key])

/-- One step for each term of a sentence, and each as its term and position say. -/
structure ResolvesAll (vocabulary : Vocabulary) (sentence : Sentence.Variant)
    (steps : StepSequence) : Prop where
  length : steps.length = sentence.length
  step : ∀ position term step, sentence[position]? = some term → steps[position]? = some step →
    Resolves vocabulary position term step

theorem resolves_plainStep (vocabulary : Vocabulary) (position : Nat) (term : Sentence.Term) :
    Resolves vocabulary position term (plainStep vocabulary position term) := by
  cases term with
  | free => exact .free
  | key key =>
    -- The compiler does not tell a key without a bucket from one whose bucket is empty.
    rw [plainStep, resolve_eq, Vocabulary.bucket, Std.HashMap.getD_eq_getD_getElem?]
    cases found : vocabulary.buckets[key]? with
    | none => exact .absent found
    | some bucket =>
      by_cases empty : bucket = #[]
      · subst empty
        exact .silent found
      · have someText : bucket.toList ≠ [] := by simpa using empty
        rw [Option.getD_some, if_neg someText]
        exact .spoken found empty

theorem resolvesAll_plainSteps (vocabulary : Vocabulary) (sentence : Sentence.Variant) :
    ResolvesAll vocabulary sentence (plainSteps vocabulary sentence) where
  length := length_plainSteps vocabulary sentence
  step position term step there compiled := by
    rw [getElem?_plainSteps, there] at compiled
    obtain rfl : plainStep vocabulary position term = step := by simpa using compiled
    exact resolves_plainStep vocabulary position term

theorem texts_of_mem_plainSteps {vocabulary : Vocabulary} {sentence : Sentence.Variant}
    {id key : String} {texts : List String}
    (member : Step.choice id key texts ∈ plainSteps vocabulary sentence) :
    texts = resolve vocabulary key := by
  obtain ⟨⟨term, position⟩, -, same⟩ := List.mem_map.mp member
  cases term with
  | free => simp [plainStep] at same
  | key own =>
    obtain ⟨-, rfl, rfl⟩ : _ ∧ own = key ∧ resolve vocabulary own = texts := by
      simpa [plainStep] using same
    rfl

/-- Sentences compile, if there are any, one by one to the steps that their terms and positions say, and
the count is the sum over these steps. So the ids of a sentence are distinct, and the steps of one key
have the same texts in the whole grammar. -/
theorem assemble_resolves (c : Compiler) (vocabulary : Vocabulary)
    {sentences : List Sentence.Variant} (nonempty : sentences ≠ []) :
    ∃ g, c.assemble vocabulary sentences = .ok g ∧ g.name = c.name ∧ g.locale = c.locale ∧
      List.Forall₂ (ResolvesAll vocabulary) sentences g.sentences ∧
      g.choiceCount = totalWeight g.sentences ∧
      (∀ steps ∈ g.sentences, (steps.filterMap Step.id?).Nodup) ∧
      ∀ id other key texts others, Step.choice id key texts ∈ g.sentences.flatten →
        Step.choice other key others ∈ g.sentences.flatten → texts = others := by
  refine ⟨c.plainGrammar vocabulary sentences, assemble_eq_ok c vocabulary nonempty, rfl, rfl, ?_,
    rfl, ?_, ?_⟩
  · rw [plainGrammar, List.forall₂_map_right_iff, List.forall₂_same]
    exact fun sentence _ => resolvesAll_plainSteps vocabulary sentence
  · intro steps member
    obtain ⟨sentence, -, rfl⟩ := List.mem_map.mp member
    exact (numbered_plainSteps vocabulary sentence).nodup_ids
  · have resolved : ∀ {id key texts},
        Step.choice id key texts ∈ (c.plainGrammar vocabulary sentences).sentences.flatten →
          texts = resolve vocabulary key := by
      intro id key texts member
      obtain ⟨steps, stepsMember, inSteps⟩ := List.mem_flatten.mp member
      obtain ⟨sentence, -, rfl⟩ := List.mem_map.mp stepsMember
      exact texts_of_mem_plainSteps inSteps
    intro id other key texts others member otherMember
    rw [resolved member, resolved otherMember]

/-- A key may have marks of its own, a bucket without texts, or no bucket; a sentence may be empty. -/
theorem assemble_resolves_marked_keys :
    let vocabulary := (Vocabulary.empty.extend "a" ["x", "y"]).extend "a#1" []
    let sentences : List Sentence.Variant :=
      [[.key "a", .key "a#1", .free, .key "b"], [], [.key "a#1", .key "a"]]
    sentences ≠ [] ∧
    ∃ g, ({} : Compiler).assemble vocabulary sentences = .ok g ∧
      g.sentences =
        [[.choice "a#0" "a" ["x", "y"], .choice "a#1#1" "a#1" ["a#1"], .free,
          .choice "b#3" "b" ["b"]], [],
          [.choice "a#1#0" "a#1" ["a#1"], .choice "a#1" "a" ["x", "y"]]] ∧
      g.choiceCount = 8 ∧ ∀ steps ∈ g.sentences, (steps.filterMap Step.id?).Nodup := by
  intro vocabulary sentences
  have nonempty : sentences ≠ [] := by simp [sentences]
  obtain ⟨g, assembled, -, -, -, counted, distinct, -⟩ :=
    assemble_resolves {} vocabulary nonempty
  have steps : g.sentences =
      [[.choice "a#0" "a" ["x", "y"], .choice "a#1#1" "a#1" ["a#1"], .free,
        .choice "b#3" "b" ["b"]], [],
        [.choice "a#1#0" "a#1" ["a#1"], .choice "a#1" "a" ["x", "y"]]] := by
    have ids : StepId.render "a" 0 = "a#0" ∧ StepId.render "a#1" 1 = "a#1#1" ∧
        StepId.render "b" 3 = "b#3" ∧ StepId.render "a#1" 0 = "a#1#0" ∧
        StepId.render "a" 1 = "a#1" := by decide
    rw [eq_plainGrammar_of_assemble assembled]
    simp [plainGrammar, plainSteps, plainStepsFrom, plainStep, resolve_eq, Vocabulary.bucket_extend,
      vocabulary, sentences, ids]
  refine ⟨nonempty, g, assembled, steps, ?_, distinct⟩
  rw [counted, steps]
  rfl

end Compiler

end SpokenCommand
