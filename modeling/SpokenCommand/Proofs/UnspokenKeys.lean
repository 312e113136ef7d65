import SpokenCommand.Proofs.CompiledSteps
import SpokenCommand.Proofs.VocabularyRuns

/-!
# Keys that match their own text

Two traversals of the same sentences decide which keys have no texts. The compiler asks the vocabulary
for a key that is not in its cache and falls back on the key itself; the report asks for every key and
keeps a list of those it has noted. The keys without texts that the cache holds are at each point the
noted ones (`Abreast`), so the report lists just the fallbacks of the compiler, in the order in which
they happen (`fallbacks_eq_unspokenKeys`).

The report alone is characterized by the terms that it has met (`Noted`).
-/

namespace SpokenCommand

variable {vocabulary : Vocabulary}

/-! ## Keys without texts -/

theorem Vocabulary.texts?_eq_none_iff_buckets {key : String} :
    vocabulary.texts? key = none ↔
      vocabulary.buckets[key]? = none ∨ vocabulary.buckets[key]? = some #[] := by
  rw [texts?_eq_none_iff, bucket, Std.HashMap.getD_eq_getD_getElem?]
  cases vocabulary.buckets[key]? <;> simp

/-- A key that has texts resolves to its bucket. -/
theorem Compiler.exists_bucket_of_texts? {key : String} (spoken : vocabulary.texts? key ≠ none) :
    ∃ bucket, vocabulary.buckets[key]? = some bucket ∧ bucket ≠ #[] ∧
      resolve vocabulary key = bucket.toList := by
  have resolves := resolves_plainStep vocabulary 0 (.key key)
  generalize made : plainStep vocabulary 0 (.key key) = step at resolves
  cases resolves with
  | spoken found nonempty => exact ⟨_, found, nonempty, by simpa [plainStep] using made⟩
  | silent found => exact absurd (Vocabulary.texts?_eq_none_iff_buckets.mpr (.inr found)) spoken
  | absent missing => exact absurd (Vocabulary.texts?_eq_none_iff_buckets.mpr (.inl missing)) spoken

theorem noteUnspoken_key (noted : List String) (key : String) :
    noteUnspoken vocabulary noted (.key key) =
      if vocabulary.texts? key = none ∧ key ∉ noted then noted ++ [key] else noted := by
  cases found : vocabulary.texts? key <;>
    simp [noteUnspoken, Vocabulary.contains, found]

/-- A term adds its key to the noted ones if the vocabulary has no texts for it. -/
theorem mem_noteUnspoken {noted : List String} {term : Sentence.Term} {key : String} :
    key ∈ noteUnspoken vocabulary noted term ↔
      key ∈ noted ∨ term = .key key ∧ vocabulary.texts? key = none := by
  cases term with
  | free => simp [noteUnspoken]
  | key own =>
    rw [noteUnspoken_key]
    by_cases same : own = key
    · subst same
      by_cases there : own ∈ noted <;> by_cases silent : vocabulary.texts? own = none <;>
        simp [there, silent]
    · split <;> simp [same, Ne.symm same]

/-! ## What the report has noted -/

/-- The report after some terms: their keys without texts, in order of first use. -/
structure Noted (vocabulary : Vocabulary) (met : List Sentence.Term) (noted : List String) :
    Prop where
  mem : ∀ key, key ∈ noted ↔ .key key ∈ met ∧ vocabulary.texts? key = none
  ordered : noted.Pairwise fun key later => met.idxOf (.key key) < met.idxOf (.key later)

theorem noted_start : Noted vocabulary [] [] where
  mem := by simp
  ordered := .nil

namespace Noted

variable {met : List Sentence.Term} {noted : List String}

theorem met_of_mem (correct : Noted vocabulary met noted) :
    ∀ key ∈ noted, Sentence.Term.key key ∈ met :=
  fun key member => ((correct.mem key).mp member).1

theorem ordered_noteUnspoken (correct : Noted vocabulary met noted) (term : Sentence.Term) :
    (noteUnspoken vocabulary noted term).Pairwise fun key later =>
      (met ++ [term]).idxOf (.key key) < (met ++ [term]).idxOf (.key later) := by
  have kept := pairwise_idxOf_append correct.met_of_mem correct.ordered [term]
  cases term with
  | free => exact kept
  | key key =>
    rw [noteUnspoken_key]
    split
    case isTrue new =>
      -- A key without texts that is not noted was not met either.
      have unmet : Sentence.Term.key key ∉ met :=
        fun member => new.2 ((correct.mem key).mpr ⟨member, new.1⟩)
      exact pairwise_idxOf_concat correct.met_of_mem correct.ordered unmet
    case isFalse => exact kept

theorem step (correct : Noted vocabulary met noted) (term : Sentence.Term) :
    Noted vocabulary (met ++ [term]) (noteUnspoken vocabulary noted term) where
  mem key := by
    rw [mem_noteUnspoken, correct.mem, List.mem_append, List.mem_singleton, or_and_right,
      eq_comm (a := term)]
  ordered := correct.ordered_noteUnspoken term

theorem run (correct : Noted vocabulary met noted) (terms : List Sentence.Term) :
    Noted vocabulary (met ++ terms) (terms.foldl (noteUnspoken vocabulary) noted) := by
  induction terms generalizing met noted with
  | nil => simpa using correct
  | cons term terms ih => simpa using ih (correct.step term)

end Noted

theorem noted_unspokenKeys (vocabulary : Vocabulary) (sentences : List Sentence.Variant) :
    Noted vocabulary sentences.flatten (unspokenKeys vocabulary sentences) :=
  noted_start.run sentences.flatten

namespace Compiler

/-! ## Where the compiler falls back -/

/-- The key that is taken for its own text when a term is compiled: it is not in the cache, and the
vocabulary has no texts for it. -/
def Work.fallback (work : Work) (vocabulary : Vocabulary) : Sentence.Term → List String
  | .free => []
  | .key key =>
    match work.cache[key]?, vocabulary.texts? key with
    | none, none => [key]
    | _, _ => []

/-- The fallbacks while the terms of a sentence are compiled from a position on. -/
def Work.fallbacks (work : Work) (vocabulary : Vocabulary) (position : Nat) :
    Sentence.Variant → List String
  | [] => []
  | term :: terms =>
    work.fallback vocabulary term ++
      (work.step vocabulary position term).1.fallbacks vocabulary (position + 1) terms

/-- The fallbacks while sentences are compiled behind others. -/
def fallbacksFrom (vocabulary : Vocabulary) (state : Work × Array StepSequence) :
    List Sentence.Variant → List String
  | [] => []
  | sentence :: sentences =>
    state.1.fallbacks vocabulary 0 sentence ++
      fallbacksFrom vocabulary (Work.sentence vocabulary state sentence) sentences

/-- The keys that the compiler takes for their own text, in the order in which it does so. -/
def fallbacks (vocabulary : Vocabulary) (sentences : List Sentence.Variant) : List String :=
  fallbacksFrom vocabulary ({}, #[]) sentences

variable {work : Work} {noted : List String}

theorem Work.mem_cache_step (work : Work) (position : Nat) (term : Sentence.Term) (key : String) :
    key ∈ (work.step vocabulary position term).1.cache ↔ key ∈ work.cache ∨ term = .key key := by
  cases term with
  | free => simp [Work.step]
  | key own =>
    cases cached : work.cache[own]? with
    | none => simp [Work.step, Work.resolve, cached, or_comm]
    | some texts =>
      have there : own ∈ work.cache := Std.HashMap.mem_iff_isSome_getElem?.mpr (by simp [cached])
      simp only [Work.step, Work.resolve, cached, Sentence.Term.key.injEq]
      exact ⟨.inl, fun either => either.elim id fun same => same ▸ there⟩

theorem Work.fallback_key (work : Work) (key : String) :
    work.fallback vocabulary (.key key) =
      if vocabulary.texts? key = none ∧ key ∉ work.cache then [key] else [] := by
  by_cases there : key ∈ work.cache
  · simp [Work.fallback, there]
  · cases found : vocabulary.texts? key <;> simp [Work.fallback, there, found]

/-! ## The two side by side -/

/-- Of the keys without texts, the cache holds those that are noted. -/
def Abreast (vocabulary : Vocabulary) (work : Work) (noted : List String) : Prop :=
  ∀ key, vocabulary.texts? key = none → (key ∈ work.cache ↔ key ∈ noted)

theorem abreast_start : Abreast vocabulary {} [] := by
  intro key _
  simp

namespace Abreast

/-- A key is noted where the compiler falls back on it. -/
theorem note (abreast : Abreast vocabulary work noted) (term : Sentence.Term) :
    noteUnspoken vocabulary noted term = noted ++ work.fallback vocabulary term := by
  cases term with
  | free => simp [noteUnspoken, Work.fallback]
  | key key =>
    rw [noteUnspoken_key, Work.fallback_key]
    by_cases silent : vocabulary.texts? key = none
    · simp only [silent, abreast key silent, true_and]
      split <;> simp
    · simp [silent]

theorem step (abreast : Abreast vocabulary work noted) (position : Nat) (term : Sentence.Term) :
    Abreast vocabulary (work.step vocabulary position term).1
      (noteUnspoken vocabulary noted term) := by
  intro asked silent
  rw [Work.mem_cache_step, abreast asked silent, mem_noteUnspoken]
  simp [silent]

theorem steps (abreast : Abreast vocabulary work noted) (position : Nat)
    (terms : Sentence.Variant) :
    terms.foldl (noteUnspoken vocabulary) noted =
        noted ++ work.fallbacks vocabulary position terms ∧
      Abreast vocabulary (work.steps vocabulary position terms).1
        (terms.foldl (noteUnspoken vocabulary) noted) := by
  induction terms generalizing work noted position with
  | nil => exact ⟨by simp [Work.fallbacks], abreast⟩
  | cons term terms ih =>
    obtain ⟨same, next⟩ := ih (abreast.step position term) (position + 1)
    refine ⟨?_, next⟩
    rw [List.foldl_cons, same, abreast.note, Work.fallbacks, List.append_assoc]

theorem sentences {state : Work × Array StepSequence} (abreast : Abreast vocabulary state.1 noted)
    (sentences : List Sentence.Variant) :
    sentences.flatten.foldl (noteUnspoken vocabulary) noted =
      noted ++ fallbacksFrom vocabulary state sentences := by
  -- The cache and the list of noted keys are both carried from sentence to sentence.
  induction sentences generalizing state noted with
  | nil => simp [fallbacksFrom]
  | cons sentence sentences ih =>
    obtain ⟨same, next⟩ := abreast.steps 0 sentence
    have carried : Abreast vocabulary (Work.sentence vocabulary state sentence).1
        (sentence.foldl (noteUnspoken vocabulary) noted) := next
    rw [List.flatten_cons, List.foldl_append, ih carried, same, fallbacksFrom, List.append_assoc]

end Abreast

theorem fallbacks_eq_unspokenKeys (vocabulary : Vocabulary) (sentences : List Sentence.Variant) :
    fallbacks vocabulary sentences = unspokenKeys vocabulary sentences := by
  have start : Abreast vocabulary (({}, #[]) : Work × Array StepSequence).1 [] := abreast_start
  exact (start.sentences sentences).symm

/-! ## The choices of a grammar -/

theorem exists_choice_mem_plainSteps {sentence : Sentence.Variant} {key : String}
    {texts : List String} :
    (∃ id, Step.choice id key texts ∈ plainSteps vocabulary sentence) ↔
      .key key ∈ sentence ∧ texts = resolve vocabulary key := by
  constructor
  · rintro ⟨id, member⟩
    obtain ⟨position, there⟩ := List.mem_iff_getElem?.mp member
    rw [getElem?_plainSteps, Option.map_eq_some_iff] at there
    obtain ⟨term, termThere, same⟩ := there
    cases term with
    | free => simp [plainStep] at same
    | key own =>
      obtain ⟨-, rfl, -⟩ : _ ∧ own = key ∧ _ := by simpa [plainStep] using same
      exact ⟨List.mem_of_getElem? termThere, texts_of_mem_plainSteps member⟩
  · rintro ⟨member, rfl⟩
    -- The id is the one of the position where the key stands.
    obtain ⟨position, there⟩ := List.mem_iff_getElem?.mp member
    refine ⟨StepId.render key position, List.mem_of_getElem? (i := position) ?_⟩
    rw [getElem?_plainSteps, there]
    rfl

/-- A grammar has a choice for each key of the sentences, with the texts that it resolves to. -/
theorem exists_choice_mem_plainGrammar {c : Compiler} {sentences : List Sentence.Variant}
    {key : String} {texts : List String} :
    (∃ id, Step.choice id key texts ∈ (c.plainGrammar vocabulary sentences).sentences.flatten) ↔
      .key key ∈ sentences.flatten ∧ texts = resolve vocabulary key := by
  simp only [plainGrammar, List.mem_flatten, List.mem_map]
  constructor
  · rintro ⟨id, -, ⟨sentence, listed, rfl⟩, member⟩
    obtain ⟨used, resolved⟩ := exists_choice_mem_plainSteps.mp ⟨id, member⟩
    exact ⟨⟨sentence, listed, used⟩, resolved⟩
  · rintro ⟨⟨sentence, listed, used⟩, resolved⟩
    obtain ⟨id, member⟩ := exists_choice_mem_plainSteps.mpr ⟨used, resolved⟩
    exact ⟨id, _, ⟨sentence, listed, rfl⟩, member⟩

/-- The report lists the keys that the compiler takes for their own text, as it comes to them: once
each, by first use, and just those of the sentences that have no bucket or an empty one. In the grammar
a listed key is a choice of its own text only, and any other choice has the texts of its bucket. -/
theorem unspokenKeys_are_fallbacks (c : Compiler) (vocabulary : Vocabulary)
    (sentences : List Sentence.Variant) :
    let listed := unspokenKeys vocabulary sentences
    listed = fallbacks vocabulary sentences ∧ listed.Nodup ∧
      (listed.Pairwise fun key later =>
        sentences.flatten.idxOf (.key key) < sentences.flatten.idxOf (.key later)) ∧
      (∀ key, key ∈ listed ↔ .key key ∈ sentences.flatten ∧
        (vocabulary.buckets[key]? = none ∨ vocabulary.buckets[key]? = some #[])) ∧
      (sentences = [] ∧ c.assemble vocabulary sentences = .error (.empty c.name) ∨
        ∃ g, c.assemble vocabulary sentences = .ok g ∧
          (∀ key ∈ listed, ∃ id, .choice id key [key] ∈ g.sentences.flatten) ∧
          ∀ id tag texts, .choice id tag texts ∈ g.sentences.flatten →
            (tag ∈ listed → texts = [tag]) ∧
            (tag ∉ listed → ∃ bucket, vocabulary.buckets[tag]? = some bucket ∧ bucket ≠ #[] ∧
              texts = bucket.toList)) := by
  intro listed
  have correct : Noted vocabulary sentences.flatten listed := noted_unspokenKeys vocabulary sentences
  have own : ∀ key ∈ listed, resolve vocabulary key = [key] := fun key member => by
    simp [resolve, ((correct.mem key).mp member).2]
  refine ⟨(fallbacks_eq_unspokenKeys vocabulary sentences).symm,
    nodup_of_pairwise_idxOf correct.ordered, correct.ordered, fun key => ?_, ?_⟩
  · rw [correct.mem, Vocabulary.texts?_eq_none_iff_buckets]
  by_cases nothing : sentences = []
  · exact .inl ⟨nothing, nothing ▸ assemble_nil c vocabulary⟩
  refine .inr ⟨_, assemble_eq_ok c vocabulary nothing, fun key member => ?_,
    fun id tag texts member => ?_⟩
  · have used := correct.met_of_mem key member
    exact exists_choice_mem_plainGrammar.mpr ⟨used, (own key member).symm⟩
  · obtain ⟨used, rfl⟩ := exists_choice_mem_plainGrammar.mp ⟨id, member⟩
    refine ⟨own tag, fun unlisted => exists_bucket_of_texts? fun silent => ?_⟩
    exact unlisted ((correct.mem tag).mpr ⟨used, silent⟩)

/-- A key with an empty bucket is listed like one without; a key that is said by its own name is not,
although its choice looks the same. -/
theorem unspokenKeys_are_fallbacks_mixed :
    let vocabulary :=
      ((Vocabulary.empty.extend "cmd_go" ["go", "walk"]).extend "noise" []).extend "halt" ["halt"]
    let sentences : List Sentence.Variant :=
      [[.key "now", .free, .key "cmd_go", .key "noise"], [], [.key "halt", .key "noise", .key "now"]]
    unspokenKeys vocabulary sentences = ["now", "noise"] ∧
      fallbacks vocabulary sentences = ["now", "noise"] ∧
      ∃ g, ({} : Compiler).assemble vocabulary sentences = .ok g ∧
        (∃ id, .choice id "noise" ["noise"] ∈ g.sentences.flatten) ∧
        .choice "halt#0" "halt" ["halt"] ∈ g.sentences.flatten ∧
        vocabulary.buckets["halt"]? = some #["halt"] := by
  intro vocabulary sentences
  have listed : unspokenKeys vocabulary sentences = ["now", "noise"] := by
    simp [unspokenKeys, noteUnspoken, Vocabulary.contains, Vocabulary.texts?,
      Vocabulary.bucket_extend, vocabulary, sentences]
  obtain ⟨same, -, -, -, ⟨nothing, -⟩ | ⟨g, assembled, own, others⟩⟩ :=
    unspokenKeys_are_fallbacks {} vocabulary sentences
  · simp [sentences] at nothing
  have halt : Step.choice "halt#0" "halt" ["halt"] ∈ g.sentences.flatten := by
    have id : StepId.render "halt" 0 = "halt#0" := by decide
    rw [eq_plainGrammar_of_assemble assembled]
    simp [plainGrammar, plainSteps, plainStepsFrom, plainStep, resolve_eq, Vocabulary.bucket_extend,
      vocabulary, sentences, id]
  obtain ⟨bucket, found, -, texts⟩ := (others _ _ _ halt).2 (by simp [listed])
  refine ⟨listed, same ▸ listed, g, assembled, own "noise" (by simp [listed]), halt, ?_⟩
  rw [found, Array.toList_inj.mp texts.symm]

end Compiler

end SpokenCommand
