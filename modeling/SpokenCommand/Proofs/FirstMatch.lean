import Mathlib.Data.List.Lex
import SpokenCommand.Proofs.Derivations

/-!
# What recognition reports

A sentence may derive what was said in several ways, and several sentences may derive it. The search
settles on one: derivations are compared step by step from the left, fewer words of free speech
come first, and so does the earlier text of a choice (`Step.rank`). Behind a piece that ranks before
the one a step took, the search could not derive the rest (`cut?_cons_eq_some`), so the derivation
it finds comes before all others (`cut?_first`).

The report of a grammar is then determined by what its sentences derive, without reference to the
search (`Grammar.recognize?_reports_first`).
-/

namespace SpokenCommand

open Text

/-- The place of a piece among those that a step can take: its number of words for free speech, the
index of the first text with these words for a choice. -/
def Step.rank : Step → List String → Nat
  | .free, piece => piece.length
  | .choice _ _ texts, piece => texts.findIdx fun text => spokenWords text == piece

/-- One way to cut what was said comes before another: at the first step where the places of their
pieces differ, its place is the lower one. -/
def Precedes (steps : List Step) (pieces others : List (List String)) : Prop :=
  List.Lex (· < ·) (List.zipWith Step.rank steps pieces) (List.zipWith Step.rank steps others)

/-- A derivation that comes before every other one. -/
structure FirstDerivation (steps : List Step) (said : List String) (pieces : List (List String)) :
    Prop where
  derives : Derives steps said pieces
  first : ∀ others, Derives steps said others → others ≠ pieces → Precedes steps pieces others

/-- What a grammar should report: the least sentence that derives what was said, and for each of its
steps the id, the tag and the piece in the first derivation, with spaces between the words. -/
structure Grammar.Reports (g : Grammar) (said : List String) (m : Match) (steps : StepSequence)
    (pieces : List (List String)) : Prop where
  sentence : g.sentences[m.sentence]? = some steps
  least : ∀ i < m.sentence, ∀ earlier, g.sentences[i]? = some earlier →
    ¬ ∃ others, Derives earlier said others
  first : FirstDerivation steps said pieces
  ids : m.steps.map StepMatch.id? = steps.map Step.id?
  tags : m.steps.map StepMatch.tag? = steps.map Step.tag?
  texts : m.steps.map StepMatch.text = pieces.map (" ".intercalate ·)

/-! ## Places -/

theorem Step.getElem?_rank {id tag : String} {texts : List String} {piece : List String}
    (takes : (Step.choice id tag texts).Takes piece) :
    ∃ text, texts[(Step.choice id tag texts).rank piece]? = some text ∧ spokenWords text = piece := by
  obtain ⟨-, text, member, spoken⟩ := takes
  have bound : (Step.choice id tag texts).rank piece < texts.length :=
    List.findIdx_lt_length_of_exists ⟨text, member, by simpa using spoken⟩
  have there := List.getElem?_eq_getElem bound
  exact ⟨_, there, by simpa using List.findIdx_of_getElem?_eq_some there⟩

theorem Step.rank_le {id tag : String} {texts : List String} {i : Nat} {text : String}
    (there : texts[i]? = some text) : (Step.choice id tag texts).rank (spokenWords text) ≤ i := by
  obtain ⟨bound, rfl⟩ := List.getElem?_eq_some_iff.mp there
  by_contra later
  have other := List.not_of_lt_findIdx (Nat.lt_of_not_le later)
  simp at other

theorem Step.eq_of_rank_eq {step : Step} {said piece other : List String} (takes : step.Takes piece)
    (otherTakes : step.Takes other) (front : piece <+: said) (otherFront : other <+: said)
    (same : step.rank piece = step.rank other) : piece = other := by
  cases step with
  | free =>
    have sameLength : piece.length = other.length := same
    exact (List.prefix_of_prefix_length_le front otherFront (by omega)).eq_of_length sameLength
  | choice id tag texts =>
    obtain ⟨text, there, words⟩ := Step.getElem?_rank takes
    obtain ⟨otherText, otherThere, otherWords⟩ := Step.getElem?_rank otherTakes
    rw [same, otherThere] at there
    obtain rfl : otherText = text := by simpa using there
    rw [← words, ← otherWords]

/-! ## The search -/

/-- Behind the piece that a step took, the search derived the rest; behind a piece that ranks before
it, it could not. -/
theorem cut?_cons_eq_some {step : Step} {steps : List Step} {said piece : List String}
    {pieces : List (List String)} (found : cut? (step :: steps) said = some (piece :: pieces)) :
    cut? steps (said.drop piece.length) = some pieces ∧
      ∀ other, step.Takes other → other <+: said → step.rank other < step.rank piece →
        cut? steps (said.drop other.length) = none := by
  cases step with
  | free =>
    simp only [cut?] at found
    obtain ⟨i, n, there, tried, nothing⟩ := findSome?_at_index found
    obtain ⟨rest, restFound, same⟩ := Option.map_eq_some_iff.mp tried
    obtain ⟨rfl, rfl⟩ : said.take (n + 1) = piece ∧ rest = pieces := by simpa using same
    obtain ⟨bound, rfl⟩ := List.getElem?_eq_some_iff.mp there
    rw [List.length_range] at bound
    rw [List.getElem_range] at restFound ⊢
    have taken : (said.take (i + 1)).length = i + 1 := by
      rw [List.length_take]
      omega
    refine ⟨by rw [taken, restFound], fun other takes front before => ?_⟩
    have positive : 0 < other.length := List.length_pos_iff.mpr takes
    have fewer : other.length < (said.take (i + 1)).length := before
    -- The number of words of the other piece was tried before.
    have failed := nothing (other.length - 1) (by omega) _ (List.getElem?_range (by omega))
    rw [Nat.sub_add_cancel positive] at failed
    exact Option.map_eq_none_iff.mp failed
  | choice id tag texts =>
    simp only [cut?] at found
    obtain ⟨i, text, there, tried, nothing⟩ := findSome?_at_index found
    cases covered : textLength? text said with
    | none => simp [covered] at tried
    | some n =>
      simp only [covered] at tried
      obtain ⟨rest, restFound, same⟩ := Option.map_eq_some_iff.mp tried
      obtain ⟨rfl, rfl⟩ : said.take n = piece ∧ rest = pieces := by simpa using same
      obtain ⟨-, -, length⟩ := textLength?_eq_some_iff.mp covered
      rw [(take_textLength covered).2, length]
      refine ⟨restFound, fun other takes front before => ?_⟩
      -- The text at the place of the other piece was tried before.
      have earlier : (Step.choice id tag texts).rank other < i :=
        Nat.lt_of_lt_of_le before (Step.rank_le there)
      obtain ⟨otherText, otherThere, words⟩ := Step.getElem?_rank takes
      obtain ⟨others, rfl⟩ := front
      have failed := nothing _ earlier otherText otherThere
      rw [textLength?_append others takes.1 words] at failed
      exact Option.map_eq_none_iff.mp failed

/-- The search finds the derivation that comes before all others. -/
theorem cut?_first {steps : List Step} {said : List String} {pieces : List (List String)}
    (found : cut? steps said = some pieces) : FirstDerivation steps said pieces := by
  refine ⟨cut?_sound found, ?_⟩
  -- On the steps: behind equal first pieces the same words are left.
  induction steps generalizing said pieces with
  | nil =>
    intro others derives different
    cases (cut?_sound found).takes
    cases derives.takes
    exact absurd rfl different
  | cons step steps ih =>
    intro others derives different
    obtain ⟨takes, covers⟩ := cut?_sound found
    cases takes with
    | @cons _ piece _ pieces takes _ =>
      obtain ⟨otherTakes, rfl⟩ := derives
      cases otherTakes with
      | @cons _ other _ others otherTakes otherRest =>
        have front : piece <+: (other :: others).flatten := ⟨pieces.flatten, covers⟩
        have otherFront : other <+: (other :: others).flatten := List.prefix_append _ _
        obtain ⟨restFound, nothing⟩ := cut?_cons_eq_some found
        rcases Nat.lt_trichotomy (step.rank piece) (step.rank other) with before | same | behind
        · exact .rel before
        · obtain rfl : piece = other := Step.eq_of_rank_eq takes otherTakes front otherFront same
          rw [List.flatten_cons, List.drop_left] at restFound
          have later : Precedes steps pieces others :=
            ih restFound others ⟨otherRest, rfl⟩ fun equal => different (by rw [equal])
          exact .cons later
        · -- The search would have taken the other piece, since the rest behind it is derived.
          have failed := nothing other otherTakes otherFront behind
          have derived := cut?_complete otherRest
          rw [List.flatten_cons, List.drop_left] at failed
          simp [failed] at derived

theorem FirstDerivation.unique {steps : List Step} {said : List String}
    {pieces others : List (List String)} (first : FirstDerivation steps said pieces)
    (otherFirst : FirstDerivation steps said others) : pieces = others := by
  by_contra different
  have before := first.first others otherFirst.derives (Ne.symm different)
  have behind := otherFirst.first pieces first.derives different
  exact (List.Lex.asymm (· < ·)).asymm _ _ before behind

/-! ## The report -/

/-- One entry for each step: its id, its tag, and its piece with spaces between the words. -/
theorem map_report {steps : List Step} {pieces : List (List String)}
    (takes : List.Forall₂ Step.Takes steps pieces) :
    (List.zipWith Step.report steps pieces).map StepMatch.id? = steps.map Step.id? ∧
    (List.zipWith Step.report steps pieces).map StepMatch.tag? = steps.map Step.tag? ∧
    (List.zipWith Step.report steps pieces).map StepMatch.text = pieces.map (" ".intercalate ·) := by
  induction takes with
  | nil => exact ⟨rfl, rfl, rfl⟩
  | cons _ _ ih =>
    obtain ⟨ids, tags, texts⟩ := ih
    simp [Step.report, ids, tags, texts]

theorem eq_of_map_report {entries others : List StepMatch}
    (ids : entries.map StepMatch.id? = others.map StepMatch.id?)
    (tags : entries.map StepMatch.tag? = others.map StepMatch.tag?)
    (texts : entries.map StepMatch.text = others.map StepMatch.text) : entries = others := by
  induction entries generalizing others with
  | nil => simpa using ids
  | cons entry entries ih =>
    cases others with
    | nil => simp at ids
    | cons other others =>
      simp only [List.map_cons, List.cons.injEq] at ids tags texts
      have first : entry = other := by
        cases entry
        cases other
        rw [StepMatch.mk.injEq]
        exact ⟨ids.1, tags.1, texts.1⟩
      rw [first, ih ids.2 tags.2 texts.2]

theorem Grammar.reports_of_recognize? {g : Grammar} {utterance : String} {m : Match}
    (recognized : g.recognize? utterance = some m) :
    spokenWords utterance ≠ [] ∧ ∃ steps pieces, g.Reports (spokenWords utterance) m steps pieces := by
  obtain ⟨spoken, steps, pieces, sentence, cut, entries, nothing⟩ :=
    Grammar.recognize?_at_index recognized
  obtain ⟨ids, tags, texts⟩ := map_report (cut?_sound cut).takes
  rw [← entries] at ids tags texts
  refine ⟨spoken, steps, pieces, sentence, fun i bound earlier there derived => ?_, cut?_first cut,
    ids, tags, texts⟩
  -- Where a sentence derives, the search succeeds; in front of the one reported it did not.
  have succeeds := cut?_isSome_iff.mpr derived
  simp [nothing i bound earlier there] at succeeds

theorem Grammar.Reports.unique {g : Grammar} {said : List String} {m other : Match}
    {steps otherSteps : StepSequence} {pieces otherPieces : List (List String)}
    (reports : g.Reports said m steps pieces)
    (otherReports : g.Reports said other otherSteps otherPieces) : m = other := by
  have sameSentence : m.sentence = other.sentence := by
    -- Neither sentence stands in front of the other, as both are the least that derive this.
    rcases Nat.lt_trichotomy m.sentence other.sentence with before | same | behind
    · exact absurd ⟨pieces, reports.first.derives⟩
        (otherReports.least m.sentence before steps reports.sentence)
    · exact same
    · exact absurd ⟨otherPieces, otherReports.first.derives⟩
        (reports.least other.sentence behind otherSteps otherReports.sentence)
  obtain rfl : steps = otherSteps := by
    have there := reports.sentence
    rw [sameSentence, otherReports.sentence] at there
    simpa using there.symm
  obtain rfl : pieces = otherPieces := reports.first.unique otherReports.first
  have sameSteps : m.steps = other.steps :=
    eq_of_map_report (reports.ids.trans otherReports.ids.symm)
      (reports.tags.trans otherReports.tags.symm) (reports.texts.trans otherReports.texts.symm)
  exact congrArg₂ Match.mk sameSentence sameSteps

/-- A grammar reports nothing when nothing was said or no sentence derives it. Otherwise it reports
the least sentence that derives what was said, with the pieces of its first derivation. -/
theorem Grammar.recognize?_reports_first (g : Grammar) (utterance : String) :
    (g.recognize? utterance = none ↔
      spokenWords utterance = [] ∨
        ∀ steps ∈ g.sentences, ¬ ∃ pieces, Derives steps (spokenWords utterance) pieces) ∧
    ∀ m, g.recognize? utterance = some m ↔
      spokenWords utterance ≠ [] ∧
        ∃ steps pieces, g.Reports (spokenWords utterance) m steps pieces := by
  refine ⟨?_, fun m => ⟨reports_of_recognize?, ?_⟩⟩
  · rw [← Option.not_isSome_iff_eq_none, recognize?_isSome_iff]
    rw [not_and_or, not_not]
    simp only [not_exists, not_and]
  · rintro ⟨spoken, steps, pieces, reports⟩
    have member : steps ∈ g.sentences := List.mem_of_getElem? reports.sentence
    have succeeds : (g.recognize? utterance).isSome :=
      recognize?_isSome_iff.mpr ⟨spoken, steps, member, pieces, reports.first.derives⟩
    obtain ⟨found, recognized⟩ := Option.isSome_iff_exists.mp succeeds
    obtain ⟨-, foundSteps, foundPieces, foundReports⟩ := reports_of_recognize? recognized
    rw [recognized, reports.unique foundReports]

/-- The first text that fits leaves too little for the rest, so the next one is taken; a blank text is
never taken. -/
example :
    let steps : StepSequence :=
      [.choice "go#0" "go" [" ", "go now", "go"], .free, .choice "now#2" "now" ["now"]]
    (Grammar.mk "Command" "en-US" [steps] 5).recognize? "Go now NOW" =
      some ⟨0, [⟨some "go#0", some "go", "go"⟩, ⟨none, none, "now"⟩,
        ⟨some "now#2", some "now", "now"⟩]⟩ := by
  decide +kernel

end SpokenCommand
