import SpokenCommand.Proofs.FirstMatch
import SpokenCommand.Proofs.LowerCase

/-!
# Saying again what was heard

What recognition reports can be said again. The texts of the steps, joined by spaces, are the words
of the utterance in lower case joined by spaces, since the pieces of a derivation cover all that was
said. Reading these words back out of the joined text gives the same words (`spokenWords_joined`):
no word is empty or holds a blank, and lower case leaves its own results as they are. A grammar
goes by the spoken words alone, so the second report is the first one
(`Grammar.recognize?_said_again`).
-/

namespace SpokenCommand

open Text

/-! ## Words in lower case -/

theorem Text.spelled_of_mem_wordsFrom (word cs : List Char)
    (noBlank : ∀ c ∈ word, isBlank c = false) :
    ∀ w ∈ wordsFrom word cs, w ≠ [] ∧ ∀ c ∈ w, (!isBlank c) = true := by
  -- A word is given out where it ends: it is not empty then, and has no blank at any time.
  have ended : ∀ word : List Char, (∀ c ∈ word, isBlank c = false) → word.isEmpty = false →
      word.reverse ≠ [] ∧ ∀ c ∈ word.reverse, (!isBlank c) = true := by
    intro word noBlank nonempty
    refine ⟨by simpa using nonempty, fun c member => ?_⟩
    simpa using noBlank c (List.mem_reverse.mp member)
  induction cs generalizing word with
  | nil =>
    cases empty : word.isEmpty with
    | true => simp [wordsFrom, empty]
    | false => simpa [wordsFrom, empty] using ended word noBlank empty
  | cons c cs ih =>
    cases blank : isBlank c with
    | false =>
      simp only [wordsFrom, blank, Bool.false_eq_true, if_false]
      exact ih (c :: word) (List.forall_mem_cons.mpr ⟨blank, noBlank⟩)
    | true =>
      have others := ih [] (by simp)
      cases empty : word.isEmpty with
      | true => simpa [wordsFrom, blank, empty] using others
      | false =>
        simp only [wordsFrom, blank, empty, if_true, Bool.false_eq_true, if_false,
          List.forall_mem_cons]
        exact ⟨ended word noBlank empty, others⟩

theorem spelled_of_mem_spokenWords {utterance : String} :
    ∀ w ∈ spokenWords utterance, Spelled (fun c => !isBlank c) w := by
  intro w member
  obtain ⟨word, inWords, rfl⟩ := List.mem_map.mp member
  have runs := spelled_of_mem_wordsFrom [] utterance.toList (by simp)
  exact (Spelled.of_mem_map_ofList runs word inWords).lowercase

/-- The spoken words, joined by spaces and said again, are the same words. -/
theorem spokenWords_joined (utterance : String) :
    spokenWords (" ".intercalate (spokenWords utterance)) = spokenWords utterance := by
  have split : words (" ".intercalate (spokenWords utterance)) = spokenWords utterance :=
    words_intercalate (by simp) spelled_of_mem_spokenWords
  have settled : (spokenWords utterance).map lowercase = spokenWords utterance := by
    rw [spokenWords, List.map_map]
    exact List.map_congr_left fun word _ => lowercase_lowercase word
  rw [spokenWords, split, settled]

/-! ## The texts of a report -/

theorem intercalate_pieces {pieces : List (List String)} (nonempty : ∀ piece ∈ pieces, piece ≠ []) :
    " ".intercalate (pieces.map (" ".intercalate ·)) = " ".intercalate pieces.flatten := by
  induction pieces with
  | nil => rfl
  | cons piece pieces ih =>
    rw [List.forall_mem_cons] at nonempty
    cases pieces with
    | nil => simp
    | cons next pieces =>
      -- An empty piece would bring a space of its own, and there is none.
      have others : (next :: pieces).flatten ≠ [] := by simp [nonempty.2 next (by simp)]
      have front : " ".intercalate (piece :: next :: pieces).flatten =
          " ".intercalate piece ++ " " ++ " ".intercalate (next :: pieces).flatten :=
        String.intercalate_append_of_ne_nil nonempty.1 others
      rw [front, ← ih nonempty.2, List.map_cons, String.intercalate_cons_of_ne_nil (by simp)]

theorem intercalate_ne_empty {piece : List String} (nonempty : piece ≠ [])
    (spelled : ∀ w ∈ piece, w ≠ "") : " ".intercalate piece ≠ "" := by
  obtain ⟨w, others, rfl⟩ := List.exists_cons_of_ne_nil nonempty
  intro empty
  have noChars := congrArg String.toList empty
  rw [toList_intercalate_cons (c := ' ') rfl] at noChars
  simp [spelled w (by simp)] at noChars

theorem ne_nil_of_takes {steps : List Step} {pieces : List (List String)}
    (takes : List.Forall₂ Step.Takes steps pieces) : ∀ piece ∈ pieces, piece ≠ [] := by
  induction takes with
  | nil => simp
  | cons taken _ ih => exact List.forall_mem_cons.mpr ⟨taken.ne_nil, ih⟩

/-- No step of a report has an empty text. The texts joined by spaces are the words that were said,
in lower case, and whoever says just these is understood in the same way. -/
theorem Grammar.recognize?_said_again {g : Grammar} {utterance : String} {m : Match}
    (recognized : g.recognize? utterance = some m) :
    (∀ entry ∈ m.steps, entry.text ≠ "") ∧
    " ".intercalate (m.steps.map StepMatch.text) = " ".intercalate (spokenWords utterance) ∧
    g.recognize? (" ".intercalate (m.steps.map StepMatch.text)) = some m := by
  obtain ⟨-, steps, pieces, reports⟩ := reports_of_recognize? recognized
  have derives := reports.first.derives
  have nonempty := ne_nil_of_takes derives.takes
  have joined : " ".intercalate (m.steps.map StepMatch.text) =
      " ".intercalate (spokenWords utterance) := by
    rw [reports.texts, intercalate_pieces nonempty, derives.covers]
  refine ⟨fun entry member => ?_, joined, ?_⟩
  · have inTexts : entry.text ∈ pieces.map (" ".intercalate ·) :=
      reports.texts ▸ List.mem_map_of_mem member
    obtain ⟨piece, inPieces, same⟩ := List.mem_map.mp inTexts
    rw [← same]
    refine intercalate_ne_empty (nonempty piece inPieces) fun w inPiece => ?_
    have said : w ∈ spokenWords utterance := by
      rw [← derives.covers]
      exact List.mem_flatten_of_mem inPieces inPiece
    exact (spelled_of_mem_spokenWords w said).nonempty
  · -- The search sees the spoken words only.
    rw [joined, ← recognized, recognize?, spokenWords_joined, recognize?]

/-- A sigma ends its word or does not, and `İ` becomes two characters; both stay so when said again. -/
theorem Grammar.recognize?_said_again_sigma :
    let g : Grammar := ⟨"Command", "el-GR", [[.choice "street#0" "street" ["οδος"], .free]], 2⟩
    let m : Match :=
      ⟨0, [⟨some "street#0", some "street", "οδος"⟩, ⟨none, none, "i\u0307στ. go"⟩]⟩
    g.recognize? " ΟΔΟΣ\tİΣΤ.  Go" = some m ∧
      g.recognize? "οδος i\u0307στ. go" = some m := by
  intro g m
  have recognized : g.recognize? " ΟΔΟΣ\tİΣΤ.  Go" = some m := by decide +kernel
  obtain ⟨-, -, again⟩ := recognize?_said_again recognized
  exact ⟨recognized, again⟩

end SpokenCommand
