import SpokenCommand.Grammar

/-!
# Vocabularies and compiled grammars

The texts of a key are what its entries stand for, in the order of the entries
(`Vocabulary.bucket_ofEntries`). The compiler looks each key up once and remembers its texts; the
cache only ever holds what the vocabulary says (`Work.Faithful`), so the grammar is the one that a
compiler without a cache would give (`Compiler.assemble_eq_ok`).
-/

namespace SpokenCommand.Vocabulary

/-! ## Buckets -/

@[simp]
theorem bucket_empty (key : String) : empty.bucket key = [] := by simp [bucket, empty]

/-- Adding texts to a key changes the bucket of that key only. -/
theorem bucket_extend (v : Vocabulary) (key asked : String) (texts : List String) :
    (v.extend key texts).bucket asked = v.bucket asked ++ (if key = asked then texts else []) := by
  by_cases same : key = asked
  · subst same
    cases found : v.buckets[key]? <;>
      simp [bucket, extend, Std.HashMap.getD_eq_getD_getElem?, found]
  · simp [bucket, extend, Std.HashMap.getD_alter, same]

theorem bucket_foldl_insert (entries : List PhraseEntry) (v : Vocabulary) (key : String) :
    (entries.foldl insert v).bucket key =
      v.bucket key ++
        (entries.filter (·.key = key)).flatMap fun entry => Phrase.texts entry.template := by
  induction entries generalizing v with
  | nil => simp
  | cons entry entries ih =>
    rw [List.foldl_cons, ih, insert, bucket_extend]
    by_cases same : entry.key = key <;> simp [same]

/-- The texts of a key are those of its entries, in order. -/
theorem bucket_ofEntries (entries : List PhraseEntry) (key : String) :
    (ofEntries entries).bucket key =
      (entries.filter (·.key = key)).flatMap fun entry => Phrase.texts entry.template := by
  rw [ofEntries, bucket_foldl_insert, bucket_empty, List.nil_append]

theorem mem_bucket_ofEntries {entries : List PhraseEntry} {key text : String} :
    text ∈ (ofEntries entries).bucket key ↔
      ∃ entry ∈ entries, entry.key = key ∧ text ∈ Phrase.texts entry.template := by
  simp [bucket_ofEntries, and_assoc]

end SpokenCommand.Vocabulary

namespace SpokenCommand

/-- How many choices a step counts for. -/
def Step.weight : Step → Nat
  | .free => 1
  | .choice _ _ texts => texts.length

namespace Compiler

/-! ## Compiling without a cache -/

/-- A key stands for its bucket, and for itself where that is empty. -/
theorem resolve_eq (vocabulary : Vocabulary) (key : String) :
    resolve vocabulary key =
      if vocabulary.bucket key = [] then [key] else vocabulary.bucket key := by
  by_cases empty : vocabulary.bucket key = [] <;> simp [resolve, Vocabulary.texts?, empty]

/-- The step for a term, straight from the vocabulary. -/
def plainStep (vocabulary : Vocabulary) (position : Nat) : Sentence.Term → Step
  | .free => .free
  | .key key => .choice (StepId.render key position) key (resolve vocabulary key)

/-- The steps for the terms from a position on, straight from the vocabulary. -/
def plainStepsFrom (vocabulary : Vocabulary) (position : Nat) (terms : Sentence.Variant) :
    StepSequence :=
  (terms.zipIdx position).map fun (term, position) => plainStep vocabulary position term

theorem plainStepsFrom_cons (vocabulary : Vocabulary) (position : Nat) (term : Sentence.Term)
    (terms : Sentence.Variant) :
    plainStepsFrom vocabulary position (term :: terms) =
      plainStep vocabulary position term :: plainStepsFrom vocabulary (position + 1) terms := rfl

/-- The steps of a sentence, straight from the vocabulary. -/
def plainSteps (vocabulary : Vocabulary) (sentence : Sentence.Variant) : StepSequence :=
  plainStepsFrom vocabulary 0 sentence

theorem length_plainSteps (vocabulary : Vocabulary) (sentence : Sentence.Variant) :
    (plainSteps vocabulary sentence).length = sentence.length := by
  simp [plainSteps, plainStepsFrom]

theorem getElem?_plainSteps (vocabulary : Vocabulary) (sentence : Sentence.Variant)
    (position : Nat) :
    (plainSteps vocabulary sentence)[position]? =
      sentence[position]?.map (plainStep vocabulary position) := by
  cases there : sentence[position]? <;> simp [plainSteps, plainStepsFrom, there]

/-- The number of choices of a step sequence. -/
def weightOf : StepSequence → Nat
  | [] => 0
  | step :: steps => step.weight + weightOf steps

/-- The number of choices of step sequences. -/
def totalWeight : List StepSequence → Nat
  | [] => 0
  | steps :: sentences => weightOf steps + totalWeight sentences

/-! ## The cache -/

/-- The cache says of no key anything else than the vocabulary does. -/
def Work.Faithful (work : Work) (vocabulary : Vocabulary) : Prop :=
  ∀ key texts, work.cache[key]? = some texts → texts = Compiler.resolve vocabulary key

variable {vocabulary : Vocabulary} {work : Work}

theorem Work.faithful_start : ({} : Work).Faithful vocabulary := by
  intro key texts cached
  simp at cached

/-- A key resolves through the cache to what the vocabulary says. -/
theorem Work.Faithful.resolve (faithful : work.Faithful vocabulary) (key : String) :
    ∃ next : Work, work.resolve vocabulary key = (next, Compiler.resolve vocabulary key) ∧
      next.Faithful vocabulary ∧ next.choices = work.choices := by
  cases cached : work.cache[key]? with
  | some texts =>
    have known : texts = Compiler.resolve vocabulary key := faithful key texts cached
    exact ⟨work, by simp [Work.resolve, cached, known], faithful, rfl⟩
  | none =>
    -- What is looked up is remembered, so the one new entry of the cache is right as well.
    let next : Work :=
      { work with cache := work.cache.insert key (Compiler.resolve vocabulary key) }
    refine ⟨next, by simp [Work.resolve, cached, next], ?_, rfl⟩
    intro asked texts found
    rw [Std.HashMap.getElem?_insert] at found
    by_cases same : key = asked
    · subst same
      simpa using found.symm
    · exact faithful asked texts (by simpa [same] using found)

theorem Work.Faithful.step (faithful : work.Faithful vocabulary) (position : Nat)
    (term : Sentence.Term) :
    ∃ next : Work, work.step vocabulary position term = (next, plainStep vocabulary position term) ∧
      next.Faithful vocabulary ∧
      next.choices = work.choices + (plainStep vocabulary position term).weight := by
  cases term with
  | free => exact ⟨{ work with choices := work.choices + 1 }, rfl, faithful, rfl⟩
  | key key =>
    obtain ⟨next, resolved, nextFaithful, sameChoices⟩ := faithful.resolve key
    let counted : Work :=
      { next with choices := next.choices + (Compiler.resolve vocabulary key).length }
    refine ⟨counted, by simp [Work.step, resolved, plainStep, counted], nextFaithful, ?_⟩
    simp [counted, plainStep, Step.weight, sameChoices]

theorem Work.Faithful.steps (faithful : work.Faithful vocabulary) (position : Nat)
    (terms : Sentence.Variant) :
    ∃ next : Work,
      work.steps vocabulary position terms = (next, plainStepsFrom vocabulary position terms) ∧
      next.Faithful vocabulary ∧
      next.choices = work.choices + weightOf (plainStepsFrom vocabulary position terms) := by
  induction terms generalizing work position with
  | nil => exact ⟨work, rfl, faithful, rfl⟩
  | cons term terms ih =>
    obtain ⟨middle, stepped, middleFaithful, middleChoices⟩ := faithful.step position term
    obtain ⟨next, rest, nextFaithful, nextChoices⟩ := ih middleFaithful (position + 1)
    refine ⟨next, by simp [Work.steps, stepped, rest, plainStepsFrom_cons], nextFaithful, ?_⟩
    rw [nextChoices, middleChoices, plainStepsFrom_cons, weightOf, Nat.add_assoc]

/-- The sentences are compiled one after the other, and behind those compiled before. -/
theorem Work.Faithful.sentences (faithful : work.Faithful vocabulary)
    (sentences : List Sentence.Variant) (compiled : Array StepSequence) :
    ∃ next : Work,
      sentences.foldl (Work.sentence vocabulary) (work, compiled) =
        (next, compiled ++ sentences.map (plainSteps vocabulary)) ∧
      next.choices = work.choices + totalWeight (sentences.map (plainSteps vocabulary)) := by
  -- The cache is carried from sentence to sentence; that it stays faithful is the invariant.
  induction sentences generalizing work compiled with
  | nil => exact ⟨work, by simp, rfl⟩
  | cons sentence sentences ih =>
    obtain ⟨middle, stepped, middleFaithful, middleChoices⟩ := faithful.steps 0 sentence
    obtain ⟨next, rest, nextChoices⟩ :=
      ih middleFaithful (compiled.push (plainSteps vocabulary sentence))
    have one : Work.sentence vocabulary (work, compiled) sentence =
        (middle, compiled.push (plainSteps vocabulary sentence)) := by
      simp [Work.sentence, stepped, plainSteps]
    refine ⟨next, ?_, ?_⟩
    · rw [List.foldl_cons, one, rest]
      simp
    · rw [nextChoices, middleChoices]
      simp [totalWeight, plainSteps, Nat.add_assoc]

/-! ## The compiled grammar -/

/-- What a compiler without a cache makes of expanded sentences. -/
def plainGrammar (c : Compiler) (vocabulary : Vocabulary) (sentences : List Sentence.Variant) :
    Grammar where
  name := c.name
  locale := c.locale
  sentences := sentences.map (plainSteps vocabulary)
  choiceCount := totalWeight (sentences.map (plainSteps vocabulary))

/-- The compiler gives the grammar that one without a cache would give. -/
theorem assemble_eq_ok (c : Compiler) (vocabulary : Vocabulary)
    {sentences : List Sentence.Variant} (nonempty : sentences ≠ []) :
    c.assemble vocabulary sentences = .ok (c.plainGrammar vocabulary sentences) := by
  have start : ({} : Work).Faithful vocabulary := Work.faithful_start
  obtain ⟨work, compiled, choices⟩ := start.sentences sentences #[]
  have counted : work.choices = totalWeight (sentences.map (plainSteps vocabulary)) := by
    simpa using choices
  simp [assemble, nonempty, compiled, counted, plainGrammar]

theorem assemble_nil (c : Compiler) (vocabulary : Vocabulary) :
    c.assemble vocabulary [] = .error (.empty c.name) := rfl

theorem assemble_eq_ok_iff {c : Compiler} {sentences : List Sentence.Variant} {g : Grammar} :
    c.assemble vocabulary sentences = .ok g ↔
      sentences ≠ [] ∧ c.plainGrammar vocabulary sentences = g := by
  by_cases nothing : sentences = []
  · simp [nothing, assemble_nil]
  · simp [nothing, assemble_eq_ok]

theorem assemble_eq_error_iff {c : Compiler} {sentences : List Sentence.Variant}
    {e : GrammarError} :
    c.assemble vocabulary sentences = .error e ↔ sentences = [] ∧ .empty c.name = e := by
  by_cases nothing : sentences = []
  · simp [nothing, assemble_nil]
  · simp [nothing, assemble_eq_ok]

theorem eq_plainGrammar_of_assemble {c : Compiler} {sentences : List Sentence.Variant} {g : Grammar}
    (assembled : c.assemble vocabulary sentences = .ok g) :
    g = c.plainGrammar vocabulary sentences :=
  (assemble_eq_ok_iff.mp assembled).2.symm

/-- The grammar of templates is the plain one of the sentences they stand for. -/
theorem eq_plainGrammar_of_compile {c : Compiler} {entries : List PhraseEntry}
    {templates : List String} {g : Grammar} (compiled : c.compile entries templates = .ok g) :
    g = c.plainGrammar (.ofEntries entries) (templates.flatMap Sentence.variants) :=
  eq_plainGrammar_of_assemble compiled

end Compiler

end SpokenCommand
