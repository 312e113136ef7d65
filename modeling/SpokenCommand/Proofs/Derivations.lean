import Mathlib.Data.List.Forall2
import SpokenCommand.Match

/-!
# Derivations

A sequence of steps derives what was said when the words can be cut into pieces, one for each step,
such that every step can take its piece. The matcher searches for such a cut by trying the pieces
of each step in turn and going back where the rest fails. It finds only derivations (`cut?_sound`),
and it finds one wherever there is one (`cut?_complete`), so a grammar recognizes an utterance
exactly when one of its sentences derives the words (`Grammar.recognize?_isSome_iff`).
-/

namespace SpokenCommand

open Text

/-- The pieces a step can take: free speech is one or more words, a choice is the words of one of
its texts. -/
def Step.Takes : Step → List String → Prop
  | .free, piece => piece ≠ []
  | .choice _ _ texts, piece => piece ≠ [] ∧ ∃ text ∈ texts, spokenWords text = piece

/-- The steps take one piece each, and the pieces are all that was said. -/
structure Derives (steps : List Step) (said : List String) (pieces : List (List String)) : Prop where
  takes : List.Forall₂ Step.Takes steps pieces
  covers : pieces.flatten = said

theorem Step.Takes.ne_nil {step : Step} {piece : List String} (takes : step.Takes piece) :
    piece ≠ [] := by
  cases step with
  | free => exact takes
  | choice id tag texts => exact takes.1

/-! ## One text -/

/-- A text covers its own words at the front of what was said, if it has any. -/
theorem textLength?_eq_some_iff {text : String} {said : List String} {n : Nat} :
    textLength? text said = some n ↔
      spokenWords text ≠ [] ∧ spokenWords text <+: said ∧ (spokenWords text).length = n := by
  simp only [textLength?, Bool.and_eq_true, Bool.not_eq_true', List.isEmpty_eq_false_iff,
    List.isPrefixOf_iff_prefix, Option.ite_none_right_eq_some, Option.some.injEq, and_assoc]

theorem take_textLength {text : String} {said : List String} {n : Nat}
    (found : textLength? text said = some n) :
    spokenWords text ≠ [] ∧ said.take n = spokenWords text := by
  obtain ⟨nonempty, front, rfl⟩ := textLength?_eq_some_iff.mp found
  exact ⟨nonempty, (List.prefix_iff_eq_take.mp front).symm⟩

theorem textLength?_append {text : String} {piece : List String} (rest : List String)
    (nonempty : piece ≠ []) (spoken : spokenWords text = piece) :
    textLength? text (piece ++ rest) = some piece.length := by
  rw [textLength?_eq_some_iff, spoken]
  exact ⟨nonempty, List.prefix_append piece rest, rfl⟩

/-! ## The search -/

/-- A step takes a piece off the front, and the others derive the rest. -/
theorem Derives.cons {step : Step} {steps : List Step} {said : List String} {n : Nat}
    {pieces : List (List String)} (takes : step.Takes (said.take n))
    (rest : Derives steps (said.drop n) pieces) :
    Derives (step :: steps) said (said.take n :: pieces) where
  takes := .cons takes rest.takes
  covers := by rw [List.flatten_cons, rest.covers, List.take_append_drop]

/-- What the search finds is a derivation. -/
theorem cut?_sound {steps : List Step} {said : List String} {pieces : List (List String)}
    (found : cut? steps said = some pieces) : Derives steps said pieces := by
  induction steps generalizing said pieces with
  | nil =>
    obtain ⟨rfl, rfl⟩ : said = [] ∧ pieces = [] := by
      cases said <;> simp_all [cut?]
    exact ⟨.nil, rfl⟩
  | cons step steps ih =>
    cases step with
    | free =>
      simp only [cut?] at found
      obtain ⟨n, inRange, tried⟩ := List.exists_of_findSome?_eq_some found
      obtain ⟨rest, restFound, rfl⟩ := Option.map_eq_some_iff.mp tried
      have bound : n < said.length := List.mem_range.mp inRange
      have taken : Step.free.Takes (said.take (n + 1)) := by
        -- The search begins with one word, so the piece is never empty.
        apply List.ne_nil_of_length_pos
        rw [List.length_take]
        omega
      exact .cons taken (ih restFound)
    | choice id tag texts =>
      simp only [cut?] at found
      obtain ⟨text, member, tried⟩ := List.exists_of_findSome?_eq_some found
      cases covered : textLength? text said with
      | none => simp [covered] at tried
      | some n =>
        simp only [covered] at tried
        obtain ⟨rest, restFound, rfl⟩ := Option.map_eq_some_iff.mp tried
        obtain ⟨nonempty, words⟩ := take_textLength covered
        have taken : (Step.choice id tag texts).Takes (said.take n) :=
          ⟨words ▸ nonempty, text, member, words.symm⟩
        exact .cons taken (ih restFound)

/-- Where there is a derivation, the search finds one. -/
theorem cut?_complete {steps : List Step} {pieces : List (List String)}
    (takes : List.Forall₂ Step.Takes steps pieces) : (cut? steps pieces.flatten).isSome := by
  induction takes with
  | nil => rfl
  | @cons step piece steps pieces taken _ ih =>
    rw [List.flatten_cons]
    have pieceLength : 0 < piece.length := List.length_pos_iff.mpr taken.ne_nil
    cases step with
    | free =>
      -- The search comes to the piece when it takes as many words as the piece has.
      simp only [cut?, List.findSome?_isSome_iff, Option.isSome_map, List.mem_range]
      refine ⟨piece.length - 1, ?_, ?_⟩
      · rw [List.length_append]
        omega
      · rw [Nat.sub_add_cancel pieceLength, List.drop_left]
        exact ih
    | choice id tag texts =>
      -- The search comes to the piece at the latest when it tries a text with these words.
      obtain ⟨nonempty, text, member, spoken⟩ := taken
      simp only [cut?, List.findSome?_isSome_iff]
      refine ⟨text, member, ?_⟩
      rw [textLength?_append _ nonempty spoken]
      simpa using ih

/-- The search succeeds exactly where there is a derivation. -/
theorem cut?_isSome_iff {steps : List Step} {said : List String} :
    (cut? steps said).isSome ↔ ∃ pieces, Derives steps said pieces := by
  constructor
  · intro found
    obtain ⟨pieces, cut⟩ := Option.isSome_iff_exists.mp found
    exact ⟨pieces, cut?_sound cut⟩
  · rintro ⟨pieces, takes, rfl⟩
    exact cut?_complete takes

/-- What a search through a list finds comes from some index, and before that index it has found
nothing. -/
theorem findSome?_at_index {α β : Type} {f : α → Option β} {as : List α} {b : β}
    (found : as.findSome? f = some b) :
    ∃ (i : Nat) (a : α), as[i]? = some a ∧ f a = some b ∧
      ∀ j < i, ∀ earlier, as[j]? = some earlier → f earlier = none := by
  obtain ⟨before, a, after, rfl, here, nothing⟩ := List.findSome?_eq_some_iff.mp found
  refine ⟨before.length, a, by simp, here, fun j bound earlier there => ?_⟩
  rw [List.getElem?_append_left bound] at there
  exact nothing earlier (List.mem_of_getElem? there)

/-- What is reported comes from a sentence for which the search succeeded, and it failed for those in
front of it. -/
theorem Grammar.recognize?_at_index {g : Grammar} {utterance : String} {m : Match}
    (recognized : g.recognize? utterance = some m) :
    spokenWords utterance ≠ [] ∧ ∃ steps pieces, g.sentences[m.sentence]? = some steps ∧
      cut? steps (spokenWords utterance) = some pieces ∧
      m.steps = List.zipWith Step.report steps pieces ∧
      ∀ i < m.sentence, ∀ earlier, g.sentences[i]? = some earlier →
        cut? earlier (spokenWords utterance) = none := by
  by_cases silent : spokenWords utterance = []
  · simp [recognize?, silent] at recognized
  simp only [recognize?, silent, List.isEmpty_iff, if_false] at recognized
  obtain ⟨i, ⟨steps, index⟩, there, tried, nothing⟩ := findSome?_at_index recognized
  obtain ⟨pieces, cut, rfl⟩ := Option.map_eq_some_iff.mp tried
  obtain ⟨sentence, rfl⟩ : g.sentences[i]? = some steps ∧ i = index := by
    simpa [List.getElem?_zipIdx] using there
  refine ⟨silent, steps, pieces, sentence, cut, rfl, fun j bound earlier earlierThere => ?_⟩
  have failed := nothing j bound (earlier, j) (by simp [List.getElem?_zipIdx, earlierThere])
  exact Option.map_eq_none_iff.mp failed

/-- A grammar recognizes an utterance exactly when there is something to recognize and one of its
sentences derives it. -/
theorem Grammar.recognize?_isSome_iff {g : Grammar} {utterance : String} :
    (g.recognize? utterance).isSome ↔
      spokenWords utterance ≠ [] ∧
        ∃ steps ∈ g.sentences, ∃ pieces, Derives steps (spokenWords utterance) pieces := by
  by_cases silent : spokenWords utterance = []
  · simp [recognize?, silent]
  · simp only [recognize?, silent, List.isEmpty_iff, if_false, List.findSome?_isSome_iff,
      Option.isSome_map, cut?_isSome_iff, ne_eq, not_false_eq_true, true_and]
    -- The search numbers the sentences; without the numbers they are the sentences again.
    constructor
    · rintro ⟨⟨steps, index⟩, member, derived⟩
      exact ⟨steps, List.fst_mem_of_mem_zipIdx member, derived⟩
    · rintro ⟨steps, member, derived⟩
      rw [← List.zipIdx_map_fst 0 g.sentences] at member
      obtain ⟨numbered, numberedMember, rfl⟩ := List.mem_map.mp member
      exact ⟨numbered, numberedMember, derived⟩

end SpokenCommand
