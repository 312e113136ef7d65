import Mathlib.Data.List.Chain
import SpokenCommand.Proofs.PhraseEnumeration
import SpokenCommand.Proofs.Reading

/-!
# Phrase templates print and read back

`render` writes the tokens of a phrase with single spaces between them. Words that stand next to each
other cannot be told apart then, so reading gives them back as one token: `mergeWords`.

Merging does not change what is written (`render_mergeWords`), and where no words stand next to each
other, reading gives back exactly the tokens (`scan_render_of_apart`). Nor does the expander see
the merge (`expand_mergeWords`), so a template stands for the same texts once it is read and written
again.
-/

namespace SpokenCommand.Phrase

open Template Text

/-- A token as it is written. -/
def Token.render : Token → String
  | .words text => text
  | .free => freeSpeech
  | .optional word => "?" ++ word

/-- Tokens as a template. -/
def render (ts : List Token) : String := " ".intercalate (ts.map Token.render)

/-- The tokens of a template, each with a space in front. -/
def spaced (ts : List Token) : List Char := ts.flatMap fun t => ' ' :: t.render.toList

/-- Whether a token is made of words that are always said. -/
def Token.isWords : Token → Bool
  | .words _ => true
  | _ => false

/-- A token in front of others; words in front of words become one token. -/
def joinWords : Token → List Token → List Token
  | .words front, .words back :: ts => .words (front ++ " " ++ back) :: ts
  | t, ts => t :: ts

/-- Tokens with each run of adjacent words made one token. -/
def mergeWords (ts : List Token) : List Token := ts.foldr joinWords []

theorem toList_render_cons (t : Token) (ts : List Token) :
    (render (t :: ts)).toList = t.render.toList ++ spaced ts := by
  rw [render, List.map_cons, toList_intercalate_cons (c := ' ') rfl, List.flatMap_map]
  rfl

theorem toList_render (ts : List Token) : (render ts).toList = (spaced ts).tail := by
  cases ts with
  | nil => rfl
  | cons t ts => exact toList_render_cons t ts

/-! ## Merging -/

/-- No words stand next to each other. -/
def Apart (ts : List Token) : Prop :=
  ts.IsChain fun front back => ¬(front.isWords = true ∧ back.isWords = true)

theorem joinWords_cases (t : Token) (ts : List Token) :
    (∃ front back others, t = .words front ∧ ts = .words back :: others ∧
      joinWords t ts = .words (front ++ " " ++ back) :: others) ∨
    (joinWords t ts = t :: ts ∧ ∀ u ∈ ts.head?, ¬(t.isWords = true ∧ u.isWords = true)) := by
  cases t with
  | words front =>
    cases ts with
    | nil => exact .inr ⟨rfl, by simp⟩
    | cons u ts =>
      cases u with
      | words back => exact .inl ⟨front, back, ts, rfl, rfl, rfl⟩
      | free | optional word => exact .inr ⟨rfl, by simp [Token.isWords]⟩
  | free | optional word => exact .inr ⟨rfl, by simp [Token.isWords]⟩

theorem Apart.joinWords {ts : List Token} (apart : Apart ts) (t : Token) :
    Apart (joinWords t ts) := by
  rcases joinWords_cases t ts with ⟨front, back, others, rfl, rfl, joined⟩ | ⟨kept, next⟩
  · -- The joined token is made of words as the one before was, so what follows fits it as well.
    rw [joined]
    obtain ⟨next, rest⟩ := List.isChain_cons.mp apart
    exact List.isChain_cons.mpr ⟨next, rest⟩
  · rw [kept]
    exact List.isChain_cons.mpr ⟨next, apart⟩

theorem apart_mergeWords (ts : List Token) : Apart (mergeWords ts) := by
  induction ts with
  | nil => exact .nil
  | cons t ts ih => exact ih.joinWords t

theorem wellFormed_joinWords {t : Token} {ts : List Token} (first : t.WellFormed)
    (others : ∀ u ∈ ts, u.WellFormed) : ∀ u ∈ joinWords t ts, u.WellFormed := by
  rcases joinWords_cases t ts with ⟨front, back, rest, rfl, rfl, joined⟩ | ⟨kept, -⟩
  · obtain ⟨frontWords, frontNonempty, frontSpelled, rfl⟩ := first
    obtain ⟨backWords, backNonempty, backSpelled, rfl⟩ := others (.words back) (by simp)
    have together : (Token.words (" ".intercalate frontWords ++ " " ++
        " ".intercalate backWords)).WellFormed := by
      refine ⟨frontWords ++ backWords, by simp [frontNonempty], ?_, ?_⟩
      · intro w member
        rcases List.mem_append.mp member with inFront | inBack
        · exact frontSpelled w inFront
        · exact backSpelled w inBack
      · exact (String.intercalate_append_of_ne_nil frontNonempty backNonempty).symm
    rw [joined]
    intro u member
    rcases List.mem_cons.mp member with rfl | later
    · exact together
    · exact others u (by simp [later])
  · rw [kept]
    simpa using ⟨first, others⟩

theorem wellFormed_mergeWords {ts : List Token} (wellFormed : ∀ t ∈ ts, t.WellFormed) :
    ∀ t ∈ mergeWords ts, t.WellFormed := by
  induction ts with
  | nil => simp [mergeWords]
  | cons t ts ih =>
    have others := ih fun u member => wellFormed u (by simp [member])
    exact wellFormed_joinWords (wellFormed t (by simp)) others

theorem spaced_joinWords (t : Token) (ts : List Token) :
    spaced (joinWords t ts) = ' ' :: t.render.toList ++ spaced ts := by
  rcases joinWords_cases t ts with ⟨front, back, others, rfl, rfl, joined⟩ | ⟨kept, -⟩
  · rw [joined]
    simp [spaced, Token.render]
  · rw [kept]
    rfl

theorem spaced_mergeWords (ts : List Token) : spaced (mergeWords ts) = spaced ts := by
  induction ts with
  | nil => rfl
  | cons t ts ih =>
    have step : mergeWords (t :: ts) = joinWords t (mergeWords ts) := rfl
    rw [step, spaced_joinWords, ih]
    rfl

theorem render_mergeWords (ts : List Token) : render (mergeWords ts) = render ts := by
  apply String.toList_injective
  rw [toList_render, toList_render, spaced_mergeWords]

/-! ## Reading the tokens -/

/-- Behind any spaces no word begins. -/
def NoWordAhead (rest : List Char) : Prop := Stops isWordChar (rest.dropWhile (· = ' '))

theorem read_word_eq_none_iff {input : List Char} :
    (Shape.run isWordChar).afterSpaces.read input = none ↔ NoWordAhead input := by
  rw [Shape.read_afterSpaces_eq_none_iff, Shape.read_run_eq_none_iff]
  rfl

theorem isWordChar_of_mem_signs : ∀ c ∈ ['?', '.', ' '], isWordChar c = false :=
  List.all_iff_forall_prop.mp (by decide +kernel)

theorem NoWordAhead.stops {rest : List Char} (ahead : NoWordAhead rest) : Stops isWordChar rest := by
  intro c head
  by_cases space : c = ' '
  · exact isWordChar_of_mem_signs c (by simp [space])
  · -- Nothing is skipped in front of another character.
    cases rest with
    | nil => simp at head
    | cons d rest =>
      obtain rfl : d = c := by simpa using head
      simpa [NoWordAhead, space] using ahead

theorem reads_word {w : String} (spelled : Spelled isWordChar w) (spaces : Nat) {rest : List Char}
    (stops : Stops isWordChar rest) :
    (Shape.run isWordChar).afterSpaces.Reads (List.replicate spaces ' ' ++ w.toList) rest
      w.toList := by
  have reads := Shape.reads_run (by simpa using spelled.nonempty) spelled.all stops
  exact reads.afterSpaces spaces (spelled.head_ne (isWordChar_of_mem_signs ' ' (by simp)) rest)

/-- Words behind a first one, as a template may have them: at least one space in front of each. -/
inductive MoreWords : List String → List Char → Prop
  | nil : MoreWords [] []
  | cons {w : String} {ws : List String} {more : List Char} (gap : Nat)
      (spelled : Spelled isWordChar w) (others : MoreWords ws more) :
      MoreWords (w :: ws) (List.replicate (gap + 1) ' ' ++ w.toList ++ more)

theorem MoreWords.stops {ws : List String} {more rest : List Char} (others : MoreWords ws more)
    (ahead : NoWordAhead rest) : Stops isWordChar (more ++ rest) := by
  cases others with
  | nil => exact ahead.stops
  | cons gap spelled others => exact stops_cons_iff.mpr (isWordChar_of_mem_signs ' ' (by simp))

theorem MoreWords.readsAll {ws : List String} {more rest : List Char} (others : MoreWords ws more)
    (ahead : NoWordAhead rest) :
    (Shape.run isWordChar).afterSpaces.ReadsAll more rest (ws.map String.toList) := by
  induction others with
  | nil =>
    -- The run gives back the spaces it has skipped, since no word follows them.
    exact Shape.readsAll_nil (read_word_eq_none_iff.mpr ahead)
  | cons gap spelled others ih =>
    exact Shape.ReadsAll.cons (reads_word spelled (gap + 1) (others.stops ahead)) ih

/-- Words are read as one run, with or without spaces in front, up to where no word follows. -/
theorem reads_words {w : String} {ws : List String} {more : List Char}
    (spelled : Spelled isWordChar w) (others : MoreWords ws more) (spaces : Nat) {rest : List Char}
    (ahead : NoWordAhead rest) :
    token.Reads (List.replicate spaces ' ' ++ w.toList ++ more) rest
      (.words (" ".intercalate (w :: ws))) := by
  have first := reads_word spelled spaces (others.stops ahead)
  have reads := (first.many (others.readsAll ahead)).map fun ws =>
    Token.words (" ".intercalate (ws.map String.ofList))
  have same : (w.toList :: ws.map String.toList).map String.ofList = w :: ws := by simp
  rw [same] at reads
  exact reads.orElse_left _

theorem moreWords_spaced {ws : List String} (spelled : ∀ w ∈ ws, Spelled isWordChar w) :
    MoreWords ws (ws.flatMap (' ' :: ·.toList)) := by
  induction ws with
  | nil => exact .nil
  | cons w ws ih =>
    rw [List.forall_mem_cons] at spelled
    exact .cons 0 spelled.1 (ih spelled.2)

theorem reads_joinedWords {ws : List String} (nonempty : ws ≠ [])
    (spelled : ∀ w ∈ ws, Spelled isWordChar w) (spaces : Nat) {rest : List Char}
    (ahead : NoWordAhead rest) :
    token.Reads (List.replicate spaces ' ' ++ (" ".intercalate ws).toList) rest
      (.words (" ".intercalate ws)) := by
  cases ws with
  | nil => exact absurd rfl nonempty
  | cons w ws =>
    rw [List.forall_mem_cons] at spelled
    rw [toList_intercalate_cons (c := ' ') rfl, ← List.append_assoc]
    exact reads_words spelled.1 (moreWords_spaced spelled.2) spaces ahead

theorem read_wordRun_eq_none {input : List Char} (ahead : NoWordAhead input) :
    wordRun.read input = none :=
  Shape.read_many_eq_none (read_word_eq_none_iff.mpr ahead)

theorem read_optionalWord_eq_none {input : List Char} (other : ∀ c ∈ input.head?, c ≠ '?') :
    optionalWord.read input = none :=
  Shape.read_map_eq_none _ (Shape.read_seq_eq_none_left (Shape.read_char_eq_none other) _)

theorem noWordAhead_cons {c : Char} (sign : c = '?' ∨ c = '.') (rest : List Char) :
    NoWordAhead (c :: rest) := by
  rcases sign with rfl | rfl
  · exact stops_cons_iff.mpr (isWordChar_of_mem_signs '?' (by simp))
  · exact stops_cons_iff.mpr (isWordChar_of_mem_signs '.' (by simp))

theorem noWordAhead_space {rest : List Char} (ahead : NoWordAhead rest) :
    NoWordAhead (' ' :: rest) := by simpa [NoWordAhead] using ahead

theorem reads_free (more : Nat) {rest : List Char} (noDots : ¬ freeSpeech.toList <+: rest) :
    token.Reads (List.replicate (more + 1) freeSpeech.toList).flatten rest .free := by
  have opened : (List.replicate (more + 1) freeSpeech.toList).flatten ++ rest =
      '.' :: ('.' :: '.' :: (List.replicate more freeSpeech.toList).flatten ++ rest) := by
    simp [List.replicate_succ, freeSpeech]
  have noWords : wordRun.read ((List.replicate (more + 1) freeSpeech.toList).flatten ++ rest) = none := by
    rw [opened]
    exact read_wordRun_eq_none (noWordAhead_cons (.inr rfl) _)
  have reads := (reads_wildcards more noDots).map fun _ => Token.free
  exact .orElse_right (Shape.read_map_eq_none _ noWords) (reads.orElse_left _)

theorem reads_optional {w : String} (spelled : Spelled isWordChar w) {rest : List Char}
    (stops : Stops isWordChar rest) : token.Reads ("?" ++ w).toList rest (.optional w) := by
  rw [String.toList_append]
  have noWords : wordRun.read (['?'] ++ w.toList ++ rest) = none :=
    read_wordRun_eq_none (noWordAhead_cons (.inl rfl) _)
  have noDots : wildcard.read (['?'] ++ w.toList ++ rest) = none := read_wildcard_eq_none (by simp)
  have word := Shape.reads_run (by simpa using spelled.nonempty) spelled.all stops
  have reads := (word.behind '?').map fun w => Token.optional (String.ofList w)
  rw [String.ofList_toList] at reads
  exact .orElse_right (Shape.read_map_eq_none _ noWords)
    (.orElse_right (Shape.read_map_eq_none _ noDots) reads)

theorem read_token_space {rest : List Char} (ahead : NoWordAhead (' ' :: rest)) :
    token.read (' ' :: rest) = none :=
  Shape.read_orElse_eq_none (Shape.read_map_eq_none _ (read_wordRun_eq_none ahead))
    (Shape.read_orElse_eq_none (Shape.read_map_eq_none _ (read_wildcard_eq_none (by simp)))
      (Shape.read_map_eq_none _ (read_optionalWord_eq_none (by simp))))

/-! ## Whole templates -/

theorem noWordAhead_render {t : Token} (notWords : t.isWords = false) (rest : List Char) :
    NoWordAhead (t.render.toList ++ rest) := by
  cases t with
  | words text => simp [Token.isWords] at notWords
  | free => exact noWordAhead_cons (.inr rfl) _
  | optional word =>
    rw [Token.render, String.toList_append]
    exact noWordAhead_cons (.inl rfl) _

theorem noWordAhead_spaced {ts : List Token} (notWords : ∀ t ∈ ts.head?, t.isWords = false) :
    NoWordAhead (spaced ts) := by
  cases ts with
  | nil => exact stops_nil _
  | cons t ts => exact noWordAhead_space (noWordAhead_render (notWords t (by simp)) (spaced ts))

theorem separated_spaced (ts : List Token) : ∀ c ∈ (spaced ts).head?, c = ' ' := by
  cases ts with
  | nil => simp [spaced]
  | cons t ts => simp [spaced]

theorem Apart.noWordAhead {text : String} {ts : List Token} (apart : Apart (.words text :: ts)) :
    NoWordAhead (spaced ts) := by
  refine noWordAhead_spaced fun t head => ?_
  simpa [Token.isWords] using (List.isChain_cons.mp apart).1 t head

/-- A well-formed token is read back in front of the others, where no words follow words. -/
theorem Token.WellFormed.reads {t : Token} (wellFormed : t.WellFormed) {ts : List Token}
    (apart : Apart (t :: ts)) : token.Reads t.render.toList (spaced ts) t := by
  cases t with
  | words text =>
    obtain ⟨ws, nonempty, spelled, rfl⟩ := wellFormed
    exact reads_joinedWords nonempty spelled 0 apart.noWordAhead
  | free =>
    refine reads_free 0 (not_dots_of_head fun c head => ?_)
    simp [separated_spaced ts c head]
  | optional word =>
    refine reads_optional wellFormed fun c head => ?_
    exact isWordChar_of_mem_signs c (by simp [separated_spaced ts c head])

theorem scan_spaced_of_apart {ts : List Token} (wellFormed : ∀ t ∈ ts, t.WellFormed)
    (apart : Apart ts) : Template.scan token (spaced ts) = ⟨ts, []⟩ := by
  induction ts with
  | nil => exact scan_nil token
  | cons t ts ih =>
    have others := ih (fun u member => wellFormed u (by simp [member])) apart.tail
    have first : t.WellFormed := wellFormed t (by simp)
    show Template.scan token (' ' :: (t.render.toList ++ spaced ts)) = ⟨t :: ts, []⟩
    cases t with
    | words text =>
      -- Words take the space in front of them along.
      obtain ⟨ws, nonempty, spelled, rfl⟩ := first
      have reads := reads_joinedWords nonempty spelled 1 apart.noWordAhead
      exact (scan_of_reads reads).trans (by rw [others])
    | free | optional word =>
      rw [scan_of_blank (by decide) (read_token_space
        (noWordAhead_space (noWordAhead_render rfl _))), scan_of_reads (first.reads apart), others]

theorem scan_render_of_apart {ts : List Token} (wellFormed : ∀ t ∈ ts, t.WellFormed)
    (apart : Apart ts) : scan (render ts) = ⟨ts, []⟩ := by
  cases ts with
  | nil => exact scan_nil token
  | cons t ts =>
    have reads := (wellFormed t (by simp)).reads apart
    have others : Template.scan token (spaced ts) = ⟨ts, []⟩ :=
      scan_spaced_of_apart (fun u member => wellFormed u (by simp [member])) apart.tail
    rw [scan, toList_render_cons, scan_of_reads reads, others]

theorem scan_render {ts : List Token} (wellFormed : ∀ t ∈ ts, t.WellFormed) :
    scan (render ts) = ⟨mergeWords ts, []⟩ := by
  rw [← render_mergeWords]
  exact scan_render_of_apart (wellFormed_mergeWords wellFormed) (apart_mergeWords ts)

/-! ## Expansion -/

/-- Gluing two texts of words one after the other is gluing both with a space between them. -/
theorem glue_glue {front : String} (wellFormed : (Token.words front).WellFormed)
    (said back : String) : glue (glue said front) back = glue said (front ++ " " ++ back) := by
  have spaced : SingleSpaced front := wellFormed.singleSpaced
  have someText : front ≠ "" := spaced.nonempty
  have noSpace : front.toList.getLast? ≠ some ' ' := fun last => spaced.trailing ' ' last rfl
  have someChars : front.toList ≠ [] := by simpa using someText
  have glued : ∀ before : String, glue (before ++ front) back = before ++ (front ++ " " ++ back) := by
    intro before
    have needed : ((before ++ front).isEmpty || (before ++ front).toList.getLast? == some ' ') =
        false := by
      rw [String.toList_append, List.getLast?_append_of_ne_nil _ someChars]
      simp [someText, noSpace]
    rw [glue, needed]
    simp [String.append_assoc]
  -- What stands in front decides about the first space only; `front` itself asks for the second.
  by_cases noGap : (said.isEmpty || said.toList.getLast? == some ' ') = true
  · rw [glue.eq_def said front, if_pos noGap, glued, glue.eq_def said, if_pos noGap]
  · rw [glue.eq_def said front, if_neg noGap, glued, glue.eq_def said, if_neg noGap]

theorem widen_words_words {front : String} (wellFormed : (Token.words front).WellFormed)
    (variants : List String) (back : String) :
    widen (widen variants (.words front)) (.words back) =
      widen variants (.words (front ++ " " ++ back)) := by
  simp [widen, Token.isOptional, Token.text, glue_glue wellFormed]

theorem foldl_widen_joinWords {t : Token} (wellFormed : t.WellFormed) (ts : List Token)
    (variants : List String) :
    (joinWords t ts).foldl widen variants = (t :: ts).foldl widen variants := by
  rcases joinWords_cases t ts with ⟨front, back, others, rfl, rfl, joined⟩ | ⟨kept, -⟩
  · rw [joined, List.foldl_cons, List.foldl_cons, List.foldl_cons, widen_words_words wellFormed]
  · rw [kept]

theorem expand_mergeWords {ts : List Token} (wellFormed : ∀ t ∈ ts, t.WellFormed) :
    expand (mergeWords ts) = expand ts := by
  suffices folds : ∀ variants, (mergeWords ts).foldl widen variants = ts.foldl widen variants by
    rw [expand, folds, expand]
  induction ts with
  | nil => exact fun _ => rfl
  | cons t ts ih =>
    intro variants
    have step : mergeWords (t :: ts) = joinWords t (mergeWords ts) := rfl
    rw [step, foldl_widen_joinWords (wellFormed t (by simp)), List.foldl_cons, List.foldl_cons,
      ih fun u member => wellFormed u (by simp [member])]

/-- What is written for well-formed tokens is scanned back to them with adjacent words merged, and
with nothing rejected. The tokens of every template are well-formed and the expander does not see the
merge, so writing them again keeps all the texts of the template. -/
theorem render_reads_back_merged :
    (∀ ts : List Token, (∀ t ∈ ts, t.WellFormed) →
      scan (render ts) = ⟨mergeWords ts, []⟩ ∧ expand (mergeWords ts) = expand ts) ∧
    ∀ template : String,
      (∀ t ∈ (scan template).tokens, t.WellFormed) ∧
        texts (render (scan template).tokens) = texts template := by
  refine ⟨fun ts wellFormed => ⟨scan_render wellFormed, expand_mergeWords wellFormed⟩, ?_⟩
  intro template
  have wellFormed : ∀ t ∈ (scan template).tokens, t.WellFormed := wellFormed_of_mem_scan template
  refine ⟨wellFormed, ?_⟩
  rw [texts, scan_render wellFormed, expand_mergeWords wellFormed, texts]

/-- A tab keeps words apart that are one token once they are written again. -/
theorem render_reads_back_merged_tab :
    let ts : List Token := [.words "don't stop", .words "right-away", .optional "now", .free]
    (scan "don't  stop\tright-away ?now ......").tokens = ts ∧ (∀ t ∈ ts, t.WellFormed) ∧
      render ts = "don't stop right-away ?now ..." ∧
      scan (render ts) = ⟨[.words "don't stop right-away", .optional "now", .free], []⟩ ∧
      texts (render ts) = texts "don't  stop\tright-away ?now ......" := by
  intro ts
  have scanned : (scan "don't  stop\tright-away ?now ......").tokens = ts := by decide +kernel
  obtain ⟨wellFormed, sameTexts⟩ :=
    render_reads_back_merged.2 "don't  stop\tright-away ?now ......"
  rw [scanned] at wellFormed sameTexts
  exact ⟨scanned, wellFormed, by decide +kernel, (render_reads_back_merged.1 ts wellFormed).1,
    sameTexts⟩

end SpokenCommand.Phrase
