import SpokenCommand.Proofs.PhrasePrinting
import SpokenCommand.Proofs.SentencePrinting
import SpokenCommand.Tool

/-!
# Expansions stand for themselves

What a template is expanded to can be read as a template again. A text of a phrase is what tokens that
are always said are written as (`Phrase.Token.firm`), and a variant of a sentence is what keys and free
speech are written as (`Sentence.Term.token`). Such tokens leave the expander nothing to choose, and
they are read back from what is written, so the expansion stands for itself alone
(`Phrase.texts_of_mem_texts`, `Sentence.variants_of_mem_variants`).
-/

namespace SpokenCommand.Phrase

open Text

/-! ## Phrases -/

/-- The token that always says what a token may say. -/
def Token.firm : Token → Token
  | .optional word => .words word
  | t => t

theorem Token.render_firm (t : Token) : t.firm.render = t.text := by
  cases t <;> rfl

theorem Token.text_firm (t : Token) : t.firm.text = t.text := by
  cases t <;> rfl

theorem Token.isOptional_firm (t : Token) : t.firm.isOptional = false := by
  cases t <;> rfl

theorem Token.WellFormed.firm {t : Token} (wellFormed : t.WellFormed) : t.firm.WellFormed := by
  cases t with
  | words text => exact wellFormed
  | free => trivial
  | optional word =>
    have spelled : Spelled isWordChar word := wellFormed
    exact ⟨[word], by simp, by simpa using spelled, by simp⟩

theorem foldl_widen_mandatory {ts : List Token} (mandatory : ∀ t ∈ ts, t.isOptional = false)
    (said : String) : ts.foldl widen [said] = [gluedTo said ts] := by
  induction ts generalizing said with
  | nil => rfl
  | cons t ts ih =>
    rw [List.forall_mem_cons] at mandatory
    rw [List.foldl_cons, widen_mandatory mandatory.1, List.map_singleton, ih mandatory.2]
    rfl

/-- What tokens keep, written out, is read as these tokens with the question marks gone. -/
theorem texts_intercalate {kept : List Token} (nonempty : kept ≠ [])
    (wellFormed : ∀ t ∈ kept, t.WellFormed) :
    texts (" ".intercalate (kept.map Token.text)) = [" ".intercalate (kept.map Token.text)] := by
  have firmFormed : ∀ t ∈ kept.map Token.firm, t.WellFormed := by
    intro t member
    obtain ⟨own, ownMember, rfl⟩ := List.mem_map.mp member
    exact (wellFormed own ownMember).firm
  have mandatory : ∀ t ∈ kept.map Token.firm, t.isOptional = false := by
    intro t member
    obtain ⟨own, -, rfl⟩ := List.mem_map.mp member
    exact own.isOptional_firm
  have rendered : render (kept.map Token.firm) = " ".intercalate (kept.map Token.text) := by
    simp [render, Function.comp_def, Token.render_firm]
  have glued : gluedTo "" (kept.map Token.firm) = " ".intercalate (kept.map Token.text) := by
    rw [gluedTo_eq_intercalate firmFormed]
    simp [Function.comp_def, Token.text_firm]
  have someText : " ".intercalate (kept.map Token.text) ≠ "" := by
    refine (singleSpaced_intercalate (by simpa using nonempty) fun text member => ?_).nonempty
    obtain ⟨t, tMember, rfl⟩ := List.mem_map.mp member
    exact (wellFormed t tMember).singleSpaced
  -- The words are merged when they are read, which the expander does not see.
  rw [← rendered, texts, scan_render firmFormed, expand_mergeWords firmFormed, expand,
    foldl_widen_mandatory mandatory, glued, rendered]
  simp [someText]

theorem texts_of_mem_texts {template text : String} (member : text ∈ texts template) :
    texts text = [text] := by
  obtain ⟨kept, keeps, rfl, someText⟩ := mem_texts_iff.mp member
  -- Nothing kept would be the empty text, which is never listed.
  have nonempty : kept ≠ [] := by
    rintro rfl
    exact someText rfl
  rw [gluedTo_eq_intercalate keeps.wellFormed]
  exact texts_intercalate nonempty keeps.wellFormed

end SpokenCommand.Phrase

namespace SpokenCommand.Sentence

open Text

/-! ## Sentences -/

/-- The token that stands for one term and nothing else. -/
def Term.token : Term → Token
  | .free => .free
  | .key k => .key k false

theorem Term.render_token (term : Term) : term.token.render = term.text := by
  cases term with
  | free => rfl
  | key k => simp [token, Token.render, mark, text]

theorem Term.isOptional_token (term : Term) : term.token.isOptional = false := by
  cases term <;> rfl

theorem Term.choices_token (term : Term) : term.token.choices = [term] := by
  cases term <;> rfl

theorem render_tokens (v : Variant) : render (v.map Term.token) = v.render := by
  simp [render, Variant.render, Function.comp_def, Term.render_token]

theorem wellFormed_tokens {v : Variant} (spelled : ∀ k, Term.key k ∈ v → Spelled isKeyChar k) :
    ∀ t ∈ v.map Term.token, t.WellFormed := by
  intro t member
  obtain ⟨term, termMember, rfl⟩ := List.mem_map.mp member
  cases term with
  | free => trivial
  | key k => exact spelled k termMember

theorem foldl_widen_tokens (v front : Variant) :
    (v.map Term.token).foldl widen [front] = [front ++ v] := by
  induction v generalizing front with
  | nil => simp
  | cons term v ih =>
    have step : widen [front] term.token = [front ++ [term]] := by
      simp [widen, term.isOptional_token, term.choices_token]
    rw [List.map_cons, List.foldl_cons, step, ih, List.append_assoc, List.singleton_append]

theorem expand_tokens {v : Variant} (nonempty : v ≠ []) : expand (v.map Term.token) = [v] := by
  cases v with
  | nil => exact absurd rfl nonempty
  | cons term v =>
    have first : seed term.token = [[term]] := by
      simp [seed, term.isOptional_token, term.choices_token]
    rw [List.map_cons, expand, first, foldl_widen_tokens, List.singleton_append]

/-- A variant whose keys are spelled as keys is read back from what is written for it. -/
theorem variants_render {v : Variant} (nonempty : v ≠ [])
    (spelled : ∀ k, Term.key k ∈ v → Spelled isKeyChar k) : variants v.render = [v] := by
  have wellFormed := wellFormed_tokens spelled
  rw [← render_tokens, variants, tokens, normalize_render wellFormed, scan_render wellFormed,
    expand_tokens nonempty]
  simp [nonempty]

theorem variants_of_mem_variants {template : String} {v : Variant} (member : v ∈ variants template) :
    variants v.render = [v] := by
  have means := (mem_variants_iff_means template v).mp member
  exact variants_render means.2 means.spelled

end SpokenCommand.Sentence

namespace SpokenCommand.Tool

/-! ## The tool -/

theorem run_phrase (files : Files) (template : String) :
    run files ["phrase", "--", template] = ⟨0, unlines (Phrase.texts template), some ""⟩ := by
  have asked : parse ["phrase", "--", template] = .ok (.phrase template) := rfl
  simp only [run, asked, execute]

theorem run_sentence (files : Files) (template : String) :
    run files ["sentence", "--", template] =
      ⟨0, unlines ((Sentence.variants template).map Sentence.Variant.render), some ""⟩ := by
  have asked : parse ["sentence", "--", template] = .ok (.sentence template) := rfl
  simp only [run, asked, execute]

/-- The texts of a phrase stand for themselves alone, and so do the variants of a sentence once they are
written. So each line that the tool shows for a template is shown again, and nothing else, when it is
handed back as the template; it stands behind dashes there, since a text may begin with one. -/
theorem expansions_print_themselves :
    (∀ template, ∀ text ∈ Phrase.texts template, Phrase.texts text = [text]) ∧
    (∀ template, ∀ v ∈ Sentence.variants template, Sentence.variants v.render = [v]) ∧
    ∀ (files : Files) (template : String),
      run files ["phrase", "--", template] = ⟨0, unlines (Phrase.texts template), some ""⟩ ∧
      (∀ line ∈ Phrase.texts template,
        run files ["phrase", "--", line] = ⟨0, unlines [line], some ""⟩) ∧
      run files ["sentence", "--", template] =
        ⟨0, unlines ((Sentence.variants template).map Sentence.Variant.render), some ""⟩ ∧
      ∀ line ∈ (Sentence.variants template).map Sentence.Variant.render,
        run files ["sentence", "--", line] = ⟨0, unlines [line], some ""⟩ := by
  refine ⟨fun _ _ => Phrase.texts_of_mem_texts, fun _ _ => Sentence.variants_of_mem_variants, ?_⟩
  intro files template
  refine ⟨run_phrase files template, fun line member => ?_, run_sentence files template,
    fun line member => ?_⟩
  · rw [run_phrase, Phrase.texts_of_mem_texts member]
  · obtain ⟨v, vMember, rfl⟩ := List.mem_map.mp member
    rw [run_sentence, Sentence.variants_of_mem_variants vMember, List.map_singleton]

/-- An optional word is an ordinary one when its text is read again, words that a tab kept apart become
one token, a group is gone, and dots stay two pieces of free speech. -/
theorem expansions_print_themselves_mixed :
    let phrase := "?-now go\tright ......"
    let sentence := "?please (move|go) ... ......"
    let v : Sentence.Variant := [.key "please", .key "go", .free, .free]
    "-now go right ..." ∈ Phrase.texts phrase ∧
      Phrase.texts "-now go right ..." = ["-now go right ..."] ∧
      v ∈ Sentence.variants sentence ∧ v.render = "please go ... ..." ∧
      Sentence.variants v.render = [v] ∧
      ∀ files, run files ["sentence", "--", v.render] = ⟨0, "please go ... ...\n", some ""⟩ := by
  intro phrase sentence v
  obtain ⟨phrases, sentences, shown⟩ := expansions_print_themselves
  have text : "-now go right ..." ∈ Phrase.texts phrase := by decide +kernel
  have variant : v ∈ Sentence.variants sentence := by decide +kernel
  refine ⟨text, phrases phrase _ text, variant, by decide, sentences sentence v variant, ?_⟩
  intro files
  obtain ⟨-, -, -, again⟩ := shown files sentence
  exact (again v.render (List.mem_map_of_mem variant)).trans (by decide)

end SpokenCommand.Tool
