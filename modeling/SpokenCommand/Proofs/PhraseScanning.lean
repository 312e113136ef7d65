import SpokenCommand.Proofs.Cutting
import SpokenCommand.Proofs.PhrasePrinting

/-!
# The phrase scanner accounts for every character

A phrase template is cut by its script: words with any spaces in front of them, free speech and
optional words, each as far as it goes, and blanks and stray characters where none of these begins.
A run of words looks ahead over the spaces behind it and gives them back where no word follows; that
is what it ends before (`Token.EndsBefore`). The scanner reads tokens exactly as the script has them
(`reads_token_iff`), so its pieces are the only cut, and no word character is lost
(`scan_cuts_uniquely`).
-/

namespace SpokenCommand.Phrase

open Template Text

/-- A text in which a token may be written. -/
inductive Written : Token → List Char → Prop
  | words {w : String} {ws : List String} {more : List Char} (spaces : Nat)
      (spelled : Spelled isWordChar w) (others : MoreWords ws more) :
      Written (.words (" ".intercalate (w :: ws))) (List.replicate spaces ' ' ++ w.toList ++ more)
  | free (more : Nat) : Written .free (List.replicate (more + 1) freeSpeech.toList).flatten
  | optional {w : String} (spelled : Spelled isWordChar w) : Written (.optional w) ("?" ++ w).toList

/-- Words go on as long as a word follows, with or without spaces in front; free speech goes on as
long as groups of dots do, and an optional word as long as word characters do. -/
def Token.EndsBefore : Token → List Char → Prop
  | .words _, rest => NoWordAhead rest
  | .free, rest => ¬ freeSpeech.toList <+: rest
  | .optional _, rest => Stops isWordChar rest

/-- How the tokens of phrases are written. -/
def script : Script Token := ⟨Written, Token.EndsBefore⟩

/-- The word characters of a token's words. -/
def Token.wordChars : Token → List Char
  | .words text => text.toList.filter isWordChar
  | .free => []
  | .optional word => word.toList.filter isWordChar

/-! ## Tokens in their texts -/

theorem moreWords_of_readsAll {runs : List (List Char)} {source rest : List Char}
    (stops : Stops isWordChar (source ++ rest))
    (readsAll : (Shape.run isWordChar).afterSpaces.ReadsAll source rest runs) :
    MoreWords (runs.map String.ofList) source ∧ NoWordAhead rest := by
  induction runs generalizing source with
  | nil =>
    obtain ⟨rfl, fails⟩ := readsAll.of_nil
    exact ⟨.nil, read_word_eq_none_iff.mp fails⟩
  | cons run runs ih =>
    obtain ⟨front, back, rfl, firstReads, othersRead⟩ := readsAll.of_cons
    obtain ⟨spaces, word, rfl, wordReads⟩ := firstReads.of_afterSpaces
    obtain ⟨rfl, nonempty, spelled, wordStops⟩ := wordReads.of_run
    obtain ⟨others, ahead⟩ := ih wordStops othersRead
    cases spaces with
    | zero =>
      -- Without a space, the word in front would have gone on.
      obtain ⟨c, cs, rfl⟩ := List.exists_cons_of_ne_nil nonempty
      have wordChar : isWordChar c = true := spelled c (by simp)
      have noWordChar : isWordChar c = false := stops c (by simp)
      simp [wordChar] at noWordChar
    | succ gap =>
      have written := MoreWords.cons gap (.ofList ⟨nonempty, spelled⟩) others
      rw [String.toList_ofList] at written
      exact ⟨written, ahead⟩

theorem written_words_of_reads {runs : List (List Char)} {source rest : List Char}
    (reads : wordRun.Reads source rest runs) :
    Written (.words (" ".intercalate (runs.map String.ofList))) source ∧ NoWordAhead rest := by
  obtain ⟨run, others, front, back, rfl, rfl, firstReads, othersRead⟩ := Shape.Reads.of_many reads
  obtain ⟨spaces, word, rfl, wordReads⟩ := firstReads.of_afterSpaces
  obtain ⟨rfl, nonempty, spelled, stops⟩ := wordReads.of_run
  obtain ⟨more, ahead⟩ := moreWords_of_readsAll stops othersRead
  have written := Written.words spaces (.ofList ⟨nonempty, spelled⟩) more
  rw [String.toList_ofList] at written
  exact ⟨written, ahead⟩

/-- The scanner reads a token exactly in the texts it may be written in, as far as they go. -/
theorem reads_token_iff {t : Token} {source rest : List Char} :
    token.Reads source rest t ↔ Written t source ∧ t.EndsBefore rest := by
  constructor
  · intro reads
    cases reads.of_orElse with
    | inl words =>
      obtain ⟨runs, runReads, rfl⟩ := words.of_map
      exact written_words_of_reads runReads
    | inr reads =>
      cases reads.of_orElse with
      | inl free =>
        obtain ⟨_, dotsRead, rfl⟩ := free.of_map
        obtain ⟨more, rfl, noDots⟩ := dotsRead.of_wildcard
        exact ⟨.free more, noDots⟩
      | inr optional =>
        obtain ⟨word, behind, rfl⟩ := optional.of_map
        obtain ⟨back, rfl, wordReads⟩ := behind.of_behind
        obtain ⟨rfl, nonempty, spelled, stops⟩ := wordReads.of_run
        have written := Written.optional (.ofList ⟨nonempty, spelled⟩)
        exact ⟨by simpa using written, stops⟩
  · intro both
    obtain ⟨written, ends⟩ := both
    cases written with
    | words spaces spelled others => exact reads_words spelled others spaces ends
    | free more => exact reads_free more ends
    | optional spelled => exact reads_optional spelled ends

theorem Written.extends_to_end {t : Token} {source : List Char} (written : Written t source)
    (rest : List Char) :
    ∃ longest taken left, taken ++ left = source ++ rest ∧ Written longest taken ∧
      longest.EndsBefore left := by
  cases written with
  | @words w ws more spaces spelled others =>
    -- The first word goes on in what follows it, and behind it the repetition finds all others.
    have first := spelled.append_takeWhile (more ++ rest)
    let word := Shape.run isWordChar
    let tail := (more ++ rest).dropWhile isWordChar
    have stops : Stops isWordChar ((word.afterSpaces.repeated tail).source ++
        (word.afterSpaces.repeated tail).rest) := by
      rw [word.afterSpaces.repeated_split]
      exact stops_dropWhile isWordChar (more ++ rest)
    obtain ⟨longer, ahead⟩ :=
      moreWords_of_readsAll stops (Shape.readsAll_repeated word.afterSpaces tail)
    refine ⟨_, _, (word.afterSpaces.repeated tail).rest, ?_, .words spaces first longer, ahead⟩
    rw [List.append_assoc _ (word.afterSpaces.repeated tail).source, word.afterSpaces.repeated_split]
    simp [tail]
  | free more =>
    obtain ⟨count, left, same, noDots⟩ := exists_dots_end more rest
    exact ⟨.free, _, left, same, .free count, noDots⟩
  | @optional w spelled =>
    refine ⟨_, _, rest.dropWhile isWordChar, ?_, .optional (spelled.append_takeWhile rest),
      stops_dropWhile isWordChar rest⟩
    simp

theorem script_readBy : script.ReadBy token where
  reads_iff := reads_token_iff
  extends_to_end := Written.extends_to_end

/-! ## Word characters -/

theorem filter_signs {signs : List Char} (all : ∀ c ∈ signs, c ∈ ['?', '.', ' ']) :
    signs.filter isWordChar = [] := by
  refine List.filter_eq_nil_iff.mpr fun c member => ?_
  simp [isWordChar_of_mem_signs c (all c member)]

theorem filter_spaces (count : Nat) : (List.replicate count ' ').filter isWordChar = [] :=
  filter_signs fun c member => by simp [List.eq_of_mem_replicate member]

theorem MoreWords.filter_isWordChar {ws : List String} {more : List Char}
    (others : MoreWords ws more) :
    more.filter isWordChar = (ws.flatMap (' ' :: ·.toList)).filter isWordChar := by
  have space : isWordChar ' ' = false := isWordChar_of_mem_signs ' ' (by simp)
  induction others with
  | nil => rfl
  | cons gap spelled others ih =>
    rw [List.filter_append, List.filter_append, filter_spaces, ih, List.flatMap_cons,
      List.filter_append, List.filter_cons_of_neg (by simp [space])]
    rfl

/-- The word characters of a written token are those of its words. -/
theorem Written.filter_isWordChar {t : Token} {source : List Char} (written : Written t source) :
    source.filter isWordChar = t.wordChars := by
  cases written with
  | words spaces spelled others =>
    -- The spaces of the source and those of the token differ in number, but are no word characters.
    rw [List.filter_append, List.filter_append, filter_spaces, others.filter_isWordChar,
      Token.wordChars, toList_intercalate_cons (c := ' ') rfl, List.filter_append]
    rfl
  | free more =>
    apply filter_signs
    simp [freeSpeech]
  | optional spelled =>
    have mark : isWordChar '?' = false := isWordChar_of_mem_signs '?' (by simp)
    rw [String.toList_append, List.filter_append]
    simp [mark, Token.wordChars]

theorem written_words_singleton {c : Char} (wordChar : isWordChar c = true) :
    Written (.words (String.ofList [c])) [c] := by
  have spelled : Spelled isWordChar (String.ofList [c]) := .ofList (by simp [wordChar])
  have written := Written.words 0 spelled .nil
  simpa using written

/-- A rejected fragment holds no word character and no free speech. -/
theorem fragment_spec {input : List Char} {ps : List (Piece Token)} (cuts : script.Cuts input ps)
    {runs : List (List Char)} (strays : StrayRuns ps runs) {run : List Char} (member : run ∈ runs) :
    (∀ c ∈ run, isWordChar c = false) ∧ ¬ freeSpeech.toList <:+: run := by
  have alone : ∀ c, isWordChar c = true → ∃ t, script.Written t [c] :=
    fun _ wordChar => ⟨_, written_words_singleton wordChar⟩
  have dots : script.Written .free freeSpeech.toList := Written.free 0
  exact ⟨fun _ => cuts.eq_false_of_mem alone strays member,
    cuts.not_infix strays member dots (by simp [freeSpeech])⟩

/-- Every phrase template is cut in exactly one way into tokens as they are written, blanks and stray
characters, the latter two only where no token begins. The scanner gives the tokens of these pieces,
and rejects the maximal runs of stray characters. So no rejected fragment holds a word character or
free speech, and the word characters of the tokens are those of the template. -/
theorem scan_cuts_uniquely (template : String) :
    ∃ ps : List (Piece Token),
      (∀ qs, script.Cuts template.toList qs ↔ qs = ps) ∧
      ps.flatMap Piece.source = template.toList ∧
      (scan template).tokens = ps.filterMap Piece.value? ∧
      (∀ runs, StrayRuns ps runs ↔ runs = (scan template).rejected.map String.toList) ∧
      (∀ fragment ∈ (scan template).rejected,
        (∀ c ∈ fragment.toList, isWordChar c = false) ∧ ¬ freeSpeech.toList <:+: fragment.toList) ∧
      (scan template).tokens.flatMap Token.wordChars = template.toList.filter isWordChar := by
  have cuts := script_readBy.cuts_pieces template.toList
  refine ⟨pieces token template.toList, fun _ => script_readBy.cuts_iff, cuts.flatMap_source, rfl,
    fun _ => strayRuns_pieces_iff, fun fragment member => ?_, ?_⟩
  · exact fragment_spec cuts (strayRuns_pieces_iff.mpr rfl) (List.mem_map_of_mem member)
  · exact cuts.filter_eq (fun _ _ written => Written.filter_isWordChar written)
      fun c wordChar => ⟨_, written_words_singleton wordChar⟩

/-- Words give back the spaces in front of a sign, and a question mark without a word is rejected. -/
example : scan "say  it   ?please... !#\t? ..now" =
    ⟨[.words "say it", .optional "please", .free, .words "now"], ["!#", "?", ".."]⟩ := by
  decide +kernel

end SpokenCommand.Phrase
