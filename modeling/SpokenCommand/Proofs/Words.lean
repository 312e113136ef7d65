import Mathlib.Data.Bool.AllAny
import SpokenCommand.Phrase
import SpokenCommand.Sentence

/-!
# The words of a text

A blank separates the words in front of it from those behind it (`words_append_blank`), and a run
without blanks is one word (`Spelled.words_eq`). What the two template languages build out of
words can be read back from these two facts alone: gluing texts appends their words
(`Phrase.words_glue`), and words joined by spaces are the words of the result
(`words_intercalate`).
-/

namespace SpokenCommand.Text

/-- A text of at least one character, all of them of the class `p`. -/
structure Spelled (p : Char → Bool) (s : String) : Prop where
  nonempty : s ≠ ""
  all : ∀ c ∈ s.toList, p c = true

instance (p : Char → Bool) (s : String) : Decidable (Spelled p s) :=
  decidable_of_iff (s ≠ "" ∧ s.toList.all p = true)
    ⟨fun checked => ⟨checked.1, List.all_eq_true.mp checked.2⟩,
      fun spelled => ⟨spelled.nonempty, List.all_eq_true.mpr spelled.all⟩⟩

theorem Spelled.ofList {p : Char → Bool} {cs : List Char}
    (run : cs ≠ [] ∧ ∀ c ∈ cs, p c = true) : Spelled p (String.ofList cs) where
  nonempty := by simpa using run.1
  all := by simpa using run.2

theorem Spelled.of_mem_map_ofList {p : Char → Bool} {runs : List (List Char)}
    (spelled : ∀ cs ∈ runs, cs ≠ [] ∧ ∀ c ∈ cs, p c = true) :
    ∀ s ∈ runs.map String.ofList, Spelled p s := by
  intro s member
  obtain ⟨cs, csMember, rfl⟩ := List.mem_map.mp member
  exact .ofList (spelled cs csMember)

theorem Spelled.head_ne {p : Char → Bool} {s : String} (spelled : Spelled p s) {d : Char}
    (outside : p d = false) (rest : List Char) : ∀ c ∈ (s.toList ++ rest).head?, c ≠ d := by
  intro c head
  cases chars : s.toList with
  | nil => exact absurd (by simpa using chars) spelled.nonempty
  | cons first others =>
    obtain rfl : first = c := by simpa [chars] using head
    rintro rfl
    have inside : p first = true := spelled.all first (by simp [chars])
    simp [outside] at inside

theorem Spelled.notMem {p : Char → Bool} {s : String} (spelled : Spelled p s) {d : Char}
    (outside : p d = false) : d ∉ s.toList := by
  intro member
  simp [spelled.all d member] at outside

theorem isDigit_toDigits (n : Nat) : ∀ c ∈ Nat.toDigits 10 n, c.isDigit = true :=
  fun _ member => Nat.isDigit_of_mem_toDigits (by decide) (by decide) member

theorem notMem_toDigits {mark : Char} (other : mark.isDigit = false) (n : Nat) :
    mark ∉ Nat.toDigits 10 n := by
  intro member
  simp [isDigit_toDigits n mark member] at other

/-! ## Runs that end -/

/-- No run of the class begins at the front. -/
def Stops {α : Type} (p : α → Bool) (rest : List α) : Prop := ∀ a ∈ rest.head?, p a = false

section Stops

variable {α : Type} {p : α → Bool} {run rest : List α}

@[simp]
theorem stops_nil (p : α → Bool) : Stops p [] := by simp [Stops]

@[simp]
theorem stops_cons_iff {a : α} : Stops p (a :: rest) ↔ p a = false := by simp [Stops]

theorem stops_dropWhile (p : α → Bool) (as : List α) : Stops p (as.dropWhile p) := by
  intro a head
  have outside := List.head?_dropWhile_not p as
  rw [Option.mem_def] at head
  simpa [head] using outside

theorem Stops.takeWhile_append (stops : Stops p rest) (all : ∀ a ∈ run, p a = true) :
    (run ++ rest).takeWhile p = run := by
  have nothing : rest.takeWhile p = [] := by
    cases rest with
    | nil => rfl
    | cons a rest => simp [stops_cons_iff.mp stops]
  rw [List.takeWhile_append_of_pos all, nothing, List.append_nil]

theorem Stops.dropWhile_append (stops : Stops p rest) (all : ∀ a ∈ run, p a = true) :
    (run ++ rest).dropWhile p = rest := by
  rw [List.dropWhile_append_of_pos all]
  cases rest with
  | nil => rfl
  | cons a rest => simp [stops_cons_iff.mp stops]

end Stops

/-- What is spelled stays so when the characters of its class that follow are added. -/
theorem Spelled.append_takeWhile {p : Char → Bool} {s : String} (spelled : Spelled p s)
    (rest : List Char) : Spelled p (String.ofList (s.toList ++ rest.takeWhile p)) := by
  refine .ofList ⟨by simp [spelled.nonempty], fun c member => ?_⟩
  cases List.mem_append.mp member with
  | inl inText => exact spelled.all c inText
  | inr inRest => exact List.all_eq_true.mp List.all_takeWhile c inRest

/-! ## Cutting at blanks -/

theorem wordsFrom_append_blank (word front : List Char) {c : Char} (blank : isBlank c = true)
    (back : List Char) :
    wordsFrom word (front ++ c :: back) = wordsFrom word front ++ wordsFrom [] back := by
  -- On the text in front; the word being read changes with every character, so it is general.
  induction front generalizing word with
  | nil => by_cases empty : word.isEmpty <;> simp [wordsFrom, blank, empty]
  | cons d front ih =>
    by_cases blankHere : isBlank d = true
    · by_cases empty : word.isEmpty <;> simp [wordsFrom, blankHere, empty, ih]
    · simp [wordsFrom, blankHere, ih]

theorem wordsFrom_of_noBlank (word : List Char) {run : List Char}
    (noBlank : ∀ c ∈ run, isBlank c = false) :
    wordsFrom word run = wordsFrom (run.reverse ++ word) [] := by
  induction run generalizing word with
  | nil => rfl
  | cons c run ih =>
    have headNoBlank : isBlank c = false := noBlank c (by simp)
    have tailNoBlank : ∀ d ∈ run, isBlank d = false := fun d member => noBlank d (by simp [member])
    have step : wordsFrom word (c :: run) = wordsFrom (c :: word) run := by
      simp [wordsFrom, headNoBlank]
    rw [step, ih (c :: word) tailNoBlank, List.reverse_cons, List.append_assoc,
      List.singleton_append]

@[simp]
theorem words_empty : words "" = [] := by simp [words, wordsFrom]

/-- A blank separates the words in front of it from those behind it. -/
theorem words_append_blank (front back : String) {c : Char} (blank : isBlank c = true) :
    words (front ++ String.singleton c ++ back) = words front ++ words back := by
  simp only [words, String.toList_append, String.toList_singleton, List.append_assoc,
    List.singleton_append]
  rw [wordsFrom_append_blank [] _ blank, List.map_append]

theorem words_append_space (front back : String) :
    words (front ++ " " ++ back) = words front ++ words back :=
  words_append_blank front back (c := ' ') (by decide)

/-- A text without blanks is one word. -/
theorem Spelled.words_eq {p : Char → Bool} (noBlank : ∀ c, p c = true → isBlank c = false)
    {s : String} (spelled : Spelled p s) : words s = [s] := by
  have nonempty : s.toList ≠ [] := by simpa using spelled.nonempty
  rw [words, wordsFrom_of_noBlank [] fun c member => noBlank c (spelled.all c member)]
  simp [wordsFrom, nonempty]

/-- Words joined by spaces are the words of the result. -/
theorem words_intercalate {p : Char → Bool} (noBlank : ∀ c, p c = true → isBlank c = false)
    {ws : List String} (spelled : ∀ w ∈ ws, Spelled p w) : words (" ".intercalate ws) = ws := by
  induction ws with
  | nil => simp
  | cons w ws ih =>
    have head : words w = [w] := (spelled w (by simp)).words_eq noBlank
    have tail : words (" ".intercalate ws) = ws := ih fun v member => spelled v (by simp [member])
    cases ws with
    | nil => simpa using head
    | cons v ws => rw [String.intercalate_cons_cons, words_append_space, head, tail]; rfl

/-- Texts joined by a separator of one character: the first one, and the separator in front of each
of the others. -/
theorem toList_intercalate_cons {separator : String} {c : Char} (single : separator.toList = [c])
    (s : String) (ss : List String) :
    (separator.intercalate (s :: ss)).toList = s.toList ++ ss.flatMap (c :: ·.toList) := by
  induction ss generalizing s with
  | nil => simp
  | cons next ss ih =>
    rw [String.intercalate_cons_cons, String.toList_append, String.toList_append, single, ih next]
    simp

theorem mem_toList_intercalate {separator : String} {ss : List String} {c : Char}
    (member : c ∈ (separator.intercalate ss).toList) :
    c ∈ separator.toList ∨ ∃ s ∈ ss, c ∈ s.toList := by
  induction ss with
  | nil => simp at member
  | cons s ss ih =>
    cases ss with
    -- A single text has no separator.
    | nil => exact .inr ⟨s, by simp, by simpa using member⟩
    | cons next ss =>
      rw [String.intercalate_cons_cons, String.toList_append, String.toList_append] at member
      rcases List.mem_append.mp member with inFront | inOthers
      · rcases List.mem_append.mp inFront with inFirst | inSeparator
        · exact .inr ⟨s, by simp, inFirst⟩
        · exact .inl inSeparator
      · rcases ih inOthers with inSeparator | ⟨other, otherMember, inOther⟩
        · exact .inl inSeparator
        · exact .inr ⟨other, by simp [otherMember], inOther⟩

/-! ## Characters that spell words and keys -/

/-- The code points of the blanks. -/
def blankCodes : List Nat :=
  [9, 10, 11, 12, 13, 32, 133, 160, 5760, 8192, 8193, 8194, 8195, 8196, 8197, 8198, 8199, 8200, 8201,
    8202, 8232, 8233, 8239, 8287, 12288]

theorem toNat_mem_blankCodes {c : Char} (blank : isBlank c = true) : c.toNat ∈ blankCodes := by
  simp only [isBlank, Bool.or_eq_true, Bool.and_eq_true, decide_eq_true_eq, beq_iff_eq] at blank
  simp only [blankCodes, List.mem_cons, List.not_mem_nil, or_false]
  omega

/-- No blank is of a class that the table of blanks has no member of. -/
theorem noBlank_of_table {p : Char → Bool}
    (table : ∀ code ∈ blankCodes, p (Char.ofNat code) = false) (c : Char) (holds : p c = true) :
    isBlank c = false := by
  cases blank : isBlank c with
  | false => rfl
  | true =>
    -- A blank of the class would be in the table, and the table has no member of the class.
    have outside := table c.toNat (toNat_mem_blankCodes blank)
    rw [Char.ofNat_toNat, holds] at outside
    contradiction

end SpokenCommand.Text

namespace SpokenCommand

open Text

theorem Phrase.noBlank_of_isWordChar : ∀ c, isWordChar c = true → isBlank c = false :=
  noBlank_of_table (by decide +kernel)

theorem Sentence.noBlank_of_isKeyChar : ∀ c, isKeyChar c = true → isBlank c = false :=
  noBlank_of_table (by decide +kernel)

/-- Gluing a text on appends its words, whether or not a space was needed. -/
theorem Phrase.words_glue (said text : String) :
    words (glue said text) = words said ++ words text := by
  rw [glue]
  by_cases empty : said = ""
  · subst said
    simp
  by_cases spaced : said.toList.getLast? = some ' '
  · -- The space is there already: take it off and put it between the two texts again.
    obtain ⟨front, split⟩ := List.getLast?_eq_some_iff.mp spaced
    have saidSplit : said = String.ofList front ++ " " ++ "" := by
      apply String.toList_injective
      simp [split]
    have glued : said ++ text = String.ofList front ++ " " ++ text := by
      rw [saidSplit]
      simp
    rw [if_pos (by simp [spaced]), glued, words_append_space, saidSplit, words_append_space]
    simp
  · rw [if_neg (by simp [empty, spaced]), words_append_space]

end SpokenCommand
