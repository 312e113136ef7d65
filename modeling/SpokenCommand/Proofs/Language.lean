import SpokenCommand.Proofs.Assembly
import SpokenCommand.Proofs.Derivations
import SpokenCommand.Proofs.Meaning

/-!
# The language of a grammar

Templates have a meaning of their own (`Phrase.Means`, `Sentence.Means`); so has a key under a list
of vocabulary entries (`KeyMeans`). A compiled grammar recognizes exactly the utterances whose words
can be cut into pieces along a sequence that one of the sentence templates means
(`recognize?_isSome_iff_follows`): no variant is lost on the way through scanning, expansion,
vocabulary, compilation and search, and none is added.
-/

namespace SpokenCommand

open Text

/-- The word lists that the entries of a key mean together. -/
def EntriesMean (entries : List PhraseEntry) (key : String) (ws : List String) : Prop :=
  ∃ entry ∈ entries, entry.key = key ∧ Phrase.Means entry.template ws

/-- A key means what its entries mean, and itself where they mean nothing. -/
def KeyMeans (entries : List PhraseEntry) (key : String) (ws : List String) : Prop :=
  EntriesMean entries key ws ∨ (¬ ∃ vs, EntriesMean entries key vs) ∧ ws = [key]

/-- The pieces a term can take: free speech is one or more words, a key is one of the word lists it
means, in lower case. -/
def Sentence.Term.Takes (entries : List PhraseEntry) : Sentence.Term → List String → Prop
  | .free, piece => piece ≠ []
  | .key k, piece => ∃ ws, KeyMeans entries k ws ∧ ws.map lowercase = piece

/-- What was said can be cut into consecutive pieces, one for each term of the sequence. -/
def Follows (entries : List PhraseEntry) (sequence : Sentence.Variant) (said : List String) : Prop :=
  ∃ pieces, List.Forall₂ (Sentence.Term.Takes entries) sequence pieces ∧ pieces.flatten = said

/-! ## Keys -/

/-- The entries of a key mean the words of the texts in its bucket. -/
theorem entriesMean_iff_mem_bucket (entries : List PhraseEntry) (key : String) (ws : List String) :
    EntriesMean entries key ws ↔
      ∃ text ∈ (Vocabulary.ofEntries entries).bucket key, words text = ws := by
  simp only [Vocabulary.mem_bucket_ofEntries]
  constructor
  · rintro ⟨entry, member, same, means⟩
    obtain ⟨text, textMember, spoken⟩ := (Phrase.means_iff_mem_texts _ _).mp means
    exact ⟨text, ⟨entry, member, same, textMember⟩, spoken⟩
  · rintro ⟨text, ⟨entry, member, same, textMember⟩, spoken⟩
    exact ⟨entry, member, same, (Phrase.means_iff_mem_texts _ _).mpr ⟨text, textMember, spoken⟩⟩

/-- A key means the words of the texts that the compiler gives it. The key of a sentence is one word,
so it may stand for itself. -/
theorem keyMeans_iff_mem_resolve (entries : List PhraseEntry) {key : String}
    (spelled : Spelled Sentence.isKeyChar key) (ws : List String) :
    KeyMeans entries key ws ↔
      ∃ text ∈ Compiler.resolve (.ofEntries entries) key, words text = ws := by
  have oneWord : words key = [key] := spelled.words_eq Sentence.noBlank_of_isKeyChar
  rw [KeyMeans, Compiler.resolve_eq]
  simp only [entriesMean_iff_mem_bucket]
  by_cases empty : (Vocabulary.ofEntries entries).bucket key = []
  · simp [empty, oneWord, eq_comm]
  · obtain ⟨text, member⟩ := List.exists_mem_of_ne_nil _ empty
    have meansSomething : ∃ vs, ∃ text ∈ (Vocabulary.ofEntries entries).bucket key, words text = vs :=
      ⟨words text, text, member, rfl⟩
    simp only [meansSomething, not_true_eq_false, false_and, or_false, empty, if_false]

theorem KeyMeans.ne_nil {entries : List PhraseEntry} {key : String} {ws : List String}
    (means : KeyMeans entries key ws) : ws ≠ [] := by
  rcases means with ⟨entry, _, _, _, _, _, nonempty⟩ | ⟨_, rfl⟩
  · exact nonempty
  · simp

/-! ## Sequences -/

/-- The step compiled for a term takes what the term can take. -/
theorem takes_plainStep_iff (entries : List PhraseEntry) (position : Nat) {term : Sentence.Term}
    (spelled : ∀ k, term = .key k → Spelled Sentence.isKeyChar k) (piece : List String) :
    (Compiler.plainStep (.ofEntries entries) position term).Takes piece ↔ term.Takes entries piece := by
  cases term with
  | free => rfl
  | key key =>
    simp only [Compiler.plainStep, Step.Takes, Sentence.Term.Takes, spokenWords]
    constructor
    · rintro ⟨-, text, member, spoken⟩
      exact ⟨words text, (keyMeans_iff_mem_resolve entries (spelled key rfl) _).mpr
        ⟨text, member, rfl⟩, spoken⟩
    · -- The compiled step also asks for a piece that is not empty; a key never means nothing.
      rintro ⟨ws, means, rfl⟩
      obtain ⟨text, member, rfl⟩ := (keyMeans_iff_mem_resolve entries (spelled key rfl) ws).mp means
      exact ⟨by simpa using means.ne_nil, text, member, rfl⟩

/-- The steps compiled for a sequence take what its terms can take, wherever it begins. -/
theorem forall₂_plainStepsFrom_iff (entries : List PhraseEntry) {sequence : Sentence.Variant}
    (spelled : ∀ k, .key k ∈ sequence → Spelled Sentence.isKeyChar k) (position : Nat)
    (pieces : List (List String)) :
    List.Forall₂ Step.Takes (Compiler.plainStepsFrom (.ofEntries entries) position sequence) pieces ↔
      List.Forall₂ (Sentence.Term.Takes entries) sequence pieces := by
  induction sequence generalizing position pieces with
  | nil => simp [Compiler.plainStepsFrom]
  | cons term sequence ih =>
    have first : ∀ piece, (Compiler.plainStep (.ofEntries entries) position term).Takes piece ↔
        term.Takes entries piece :=
      takes_plainStep_iff entries position fun k same => spelled k (by simp [same])
    have rest := ih (fun k member => spelled k (by simp [member])) (position + 1)
    rw [Compiler.plainStepsFrom_cons, List.forall₂_cons_left_iff, List.forall₂_cons_left_iff]
    simp only [first, rest]

/-- The steps compiled for a sequence derive exactly what follows it. -/
theorem derives_plainSteps_iff (entries : List PhraseEntry) {sequence : Sentence.Variant}
    (spelled : ∀ k, .key k ∈ sequence → Spelled Sentence.isKeyChar k) (said : List String) :
    (∃ pieces, Derives (Compiler.plainSteps (.ofEntries entries) sequence) said pieces) ↔
      Follows entries sequence said := by
  have takes := forall₂_plainStepsFrom_iff entries spelled 0
  constructor
  · rintro ⟨pieces, derived, covers⟩
    exact ⟨pieces, (takes pieces).mp derived, covers⟩
  · rintro ⟨pieces, followed, covers⟩
    exact ⟨pieces, (takes pieces).mpr followed, covers⟩

theorem Sentence.Term.Takes.ne_nil {entries : List PhraseEntry} {term : Sentence.Term}
    {piece : List String} (takes : term.Takes entries piece) : piece ≠ [] := by
  cases term with
  | free => exact takes
  | key k =>
    obtain ⟨ws, means, rfl⟩ := takes
    simpa using means.ne_nil

/-- A sequence that is not empty is never followed by silence. -/
theorem Follows.ne_nil {entries : List PhraseEntry} {sequence : Sentence.Variant}
    {said : List String} (follows : Follows entries sequence said) (nonempty : sequence ≠ []) :
    said ≠ [] := by
  obtain ⟨pieces, taken, rfl⟩ := follows
  cases taken with
  | nil => exact absurd rfl nonempty
  | cons first _ => simp [first.ne_nil]

/-! ## Recognition -/

/-- A compiled grammar recognizes an utterance exactly when its words follow a sequence that one of
the sentence templates means. -/
theorem recognize?_isSome_iff_follows {compiler : Compiler} {entries : List PhraseEntry}
    {templates : List String} {g : Grammar} (compiled : compiler.compile entries templates = .ok g)
    (utterance : String) :
    (g.recognize? utterance).isSome ↔
      ∃ template ∈ templates, ∃ sequence,
        Sentence.Means template sequence ∧ Follows entries sequence (spokenWords utterance) := by
  rw [Grammar.recognize?_isSome_iff, Compiler.eq_plainGrammar_of_compile compiled]
  constructor
  · rintro ⟨-, steps, member, derived⟩
    obtain ⟨sequence, sequenceMember, rfl⟩ := List.mem_map.mp member
    obtain ⟨template, templateMember, expanded⟩ := List.mem_flatMap.mp sequenceMember
    have means := (Sentence.mem_variants_iff_means template sequence).mp expanded
    exact ⟨template, templateMember, sequence, means,
      (derives_plainSteps_iff entries means.spelled _).mp derived⟩
  · rintro ⟨template, templateMember, sequence, means, follows⟩
    have expanded := (Sentence.mem_variants_iff_means template sequence).mpr means
    refine ⟨follows.ne_nil means.2, _, ?_, (derives_plainSteps_iff entries means.spelled _).mpr follows⟩
    exact List.mem_map_of_mem (List.mem_flatMap.mpr ⟨template, templateMember, expanded⟩)

/-- A key without entries is said as it stands, and an optional word of a phrase may be said. -/
theorem recognize?_please_go_now :
    ∃ g, ({} : Compiler).compile [⟨"go", "go ?now"⟩] ["?please (go|stop) ..."] = .ok g ∧
      (g.recognize? "PLEASE Go now right away").isSome := by
  have sentences : ["?please (go|stop) ..."].flatMap Sentence.variants ≠ [] := by decide +kernel
  have compiled := Compiler.assemble_eq_ok {} (.ofEntries [⟨"go", "go ?now"⟩]) sentences
  refine ⟨_, compiled, (recognize?_isSome_iff_follows compiled _).mpr
    ⟨"?please (go|stop) ...", by simp, [.key "please", .key "go", .free], ⟨?_, by simp⟩,
      [["please"], ["go", "now"], ["right", "away"]], ?_, by decide +kernel⟩⟩
  · have scanned : Sentence.tokens "?please (go|stop) ..." =
        [.key "please" true, .group ["go", "stop"] false, .free] := by decide +kernel
    rw [scanned]
    exact .pick (by decide) (.pick (by decide) (.pick (by decide) .nil))
  · have scanned : (Phrase.scan "go ?now").tokens = [.words "go", .optional "now"] := by
      decide +kernel
    have said : Phrase.Means "go ?now" ["go", "now"] :=
      ⟨[.words "go", .optional "now"], scanned ▸ .keep _ (.keep _ .nil), by decide +kernel, by simp⟩
    refine .cons ⟨["please"], .inr ⟨?_, rfl⟩, by decide +kernel⟩
      (.cons ⟨["go", "now"], .inl ⟨⟨"go", "go ?now"⟩, by simp, rfl, said⟩, by decide +kernel⟩
        (.cons (by simp [Sentence.Term.Takes]) .nil))
    simp [EntriesMean]

end SpokenCommand
