import SpokenCommand.Proofs.Tokens

/-!
# What templates mean

The meaning of a template is read off its tokens, without enumerating anything. A phrase template
means the word lists that are left when some of its optional words are left out
(`Phrase.Means`). A sentence template means the sequences of terms that pick one choice of each
token, where an optional token may be passed over (`Sentence.Means`).

The expanders enumerate exactly these meanings: `Phrase.means_iff_mem_texts` and
`Sentence.mem_variants_iff_means`. Both proofs follow the left fold of the expander with a lemma
about one more token.
-/

namespace SpokenCommand.Phrase

open Text

/-! ## Phrases -/

/-- The words a token says; free speech is passed through as one word. -/
def Token.spoken : Token → List String
  | .words text => Text.words text
  | .free => [Template.freeSpeech]
  | .optional word => [word]

/-- `kept` is what remains of the tokens when some of the optional ones are left out. -/
inductive Keeps : List Token → List Token → Prop
  | nil : Keeps [] []
  | keep {tokens kept : List Token} (t : Token) :
      Keeps tokens kept → Keeps (t :: tokens) (t :: kept)
  | leave {tokens kept : List Token} (word : String) :
      Keeps tokens kept → Keeps (.optional word :: tokens) kept

/-- A phrase template means a list of words when its tokens can say exactly these, and they are not
nothing at all. -/
def Means (template : String) (ws : List String) : Prop :=
  ∃ kept, Keeps (scan template).tokens kept ∧ kept.flatMap Token.spoken = ws ∧ ws ≠ []

/-- What has been said after more tokens, in addition to what was said before. -/
def gluedTo (said : String) (tokens : List Token) : String :=
  tokens.foldl (fun said t => glue said t.text) said

theorem Keeps.sublist {tokens kept : List Token} (keeps : Keeps tokens kept) :
    kept.Sublist tokens := by
  induction keeps with
  | nil => exact .slnil
  | keep t _ ih => exact ih.cons_cons t
  | leave word _ ih => exact ih.cons (.optional word)

/-- One more token is said behind each variant, or left out of it. -/
theorem mem_widen_iff {variants : List String} {t : Token} {text : String} :
    text ∈ widen variants t ↔
      (∃ v ∈ variants, glue v t.text = text) ∨ (t.isOptional = true ∧ text ∈ variants) := by
  by_cases optional : t.isOptional <;> simp [widen, optional]

/-- The expander says behind each variant what the remaining tokens can keep. -/
theorem mem_foldl_widen_iff (tokens : List Token) (variants : List String) (text : String) :
    text ∈ tokens.foldl widen variants ↔
      ∃ v ∈ variants, ∃ kept, Keeps tokens kept ∧ gluedTo v kept = text := by
  induction tokens generalizing variants with
  | nil =>
    constructor
    · intro member
      exact ⟨text, member, [], .nil, rfl⟩
    · rintro ⟨v, member, kept, keeps, rfl⟩
      cases keeps
      exact member
  | cons t tokens ih =>
    -- What is picked falls into what the first token gave and what the others did.
    rw [List.foldl_cons, ih]
    constructor
    · rintro ⟨v, member, kept, keeps, rfl⟩
      rcases mem_widen_iff.mp member with ⟨u, uMember, rfl⟩ | ⟨optional, vMember⟩
      · exact ⟨u, uMember, t :: kept, keeps.keep t, rfl⟩
      · -- Only an optional token can have been left out.
        cases t with
        | optional word => exact ⟨v, vMember, kept, keeps.leave word, rfl⟩
        | words _ | free => simp [Token.isOptional] at optional
    · rintro ⟨v, member, kept, keeps, rfl⟩
      cases keeps with
      | @keep _ kept _ keeps =>
        exact ⟨glue v t.text, mem_widen_iff.mpr (.inl ⟨v, member, rfl⟩), kept, keeps, rfl⟩
      | leave word keeps => exact ⟨v, mem_widen_iff.mpr (.inr ⟨rfl, member⟩), kept, keeps, rfl⟩

theorem Token.WellFormed.words_text {t : Token} (wellFormed : t.WellFormed) :
    Text.words t.text = t.spoken := by
  cases t with
  | words text => rfl
  | free => decide +kernel
  | optional word => exact Spelled.words_eq noBlank_of_isWordChar wellFormed

theorem Token.WellFormed.spoken_ne_nil {t : Token} (wellFormed : t.WellFormed) :
    t.spoken ≠ [] := by
  cases t with
  | words text =>
    obtain ⟨ws, nonempty, spelled, rfl⟩ := wellFormed
    simpa only [Token.spoken, words_intercalate noBlank_of_isWordChar spelled] using nonempty
  | free | optional word => simp [Token.spoken]

theorem words_gluedTo {tokens : List Token} (wellFormed : ∀ t ∈ tokens, t.WellFormed)
    (said : String) :
    Text.words (gluedTo said tokens) = Text.words said ++ tokens.flatMap Token.spoken := by
  induction tokens generalizing said with
  | nil => simp [gluedTo]
  | cons t tokens ih =>
    have step : gluedTo said (t :: tokens) = gluedTo (glue said t.text) tokens := rfl
    have head : Text.words t.text = t.spoken := (wellFormed t (by simp)).words_text
    rw [step, ih (fun u member => wellFormed u (by simp [member])), words_glue, head,
      List.flatMap_cons, List.append_assoc]

/-- The texts of a template are what its tokens can keep, glued together, unless that is nothing. -/
theorem mem_texts_iff {template text : String} :
    text ∈ texts template ↔
      ∃ kept, Keeps (scan template).tokens kept ∧ gluedTo "" kept = text ∧ text ≠ "" := by
  rw [texts, expand, List.mem_filter, mem_foldl_widen_iff]
  constructor
  · rintro ⟨⟨v, member, kept, keeps, glued⟩, nonempty⟩
    obtain rfl : v = "" := by simpa using member
    exact ⟨kept, keeps, glued, by simpa using nonempty⟩
  · rintro ⟨kept, keeps, glued, nonempty⟩
    exact ⟨⟨"", by simp, kept, keeps, glued⟩, by simpa using nonempty⟩

theorem Keeps.wellFormed {template : String} {kept : List Token}
    (keeps : Keeps (scan template).tokens kept) : ∀ t ∈ kept, t.WellFormed :=
  fun t member => wellFormed_of_mem_scan template t (keeps.sublist.subset member)

/-- A phrase template means exactly the words of its texts. -/
theorem means_iff_mem_texts (template : String) (ws : List String) :
    Means template ws ↔ ∃ text ∈ texts template, Text.words text = ws := by
  have wordsOf : ∀ {kept}, Keeps (scan template).tokens kept →
      Text.words (gluedTo "" kept) = kept.flatMap Token.spoken := by
    intro kept keeps
    simpa using words_gluedTo keeps.wellFormed ""
  constructor
  · rintro ⟨kept, keeps, rfl, nonempty⟩
    refine ⟨gluedTo "" kept, mem_texts_iff.mpr ⟨kept, keeps, rfl, fun empty => ?_⟩, wordsOf keeps⟩
    -- An empty text would have no words.
    have noWords := wordsOf keeps
    rw [empty, words_empty] at noWords
    exact nonempty noWords.symm
  · rintro ⟨text, member, rfl⟩
    obtain ⟨kept, keeps, rfl, textNonempty⟩ := mem_texts_iff.mp member
    -- The text is not empty, so some token was kept, and every token says a word.
    refine ⟨kept, keeps, (wordsOf keeps).symm, ?_⟩
    rw [wordsOf keeps]
    cases kept with
    | nil => simp [gluedTo] at textNonempty
    | cons t kept =>
      have said := (keeps.wellFormed t (by simp)).spoken_ne_nil
      simp [said]

end SpokenCommand.Phrase

namespace SpokenCommand.Sentence

open Text

/-! ## Sentences -/

/-- `picked` takes one choice of each token, in order; an optional token may be passed over. -/
inductive Picks : List Token → Variant → Prop
  | nil : Picks [] []
  | pick {tokens : List Token} {picked : Variant} {t : Token} {choice : Term} :
      choice ∈ t.choices → Picks tokens picked → Picks (t :: tokens) (choice :: picked)
  | pass {tokens : List Token} {picked : Variant} {t : Token} :
      t.isOptional = true → Picks tokens picked → Picks (t :: tokens) picked

/-- A sentence template, in normal spacing, means a sequence of terms when its tokens can be picked
that way, and some are. -/
def Means (template : String) (sequence : Variant) : Prop :=
  Picks (tokens template) sequence ∧ sequence ≠ []

theorem mem_seed_iff {t : Token} {v : Variant} : v ∈ seed t ↔ Picks [t] v := by
  constructor
  · intro member
    rcases List.mem_append.mp member with chosen | passed
    · obtain ⟨choice, choiceMember, rfl⟩ := List.mem_map.mp chosen
      exact .pick choiceMember .nil
    · by_cases optional : t.isOptional <;> simp [optional] at passed
      subst passed
      exact .pass optional .nil
  · intro picks
    cases picks with
    | pick choiceMember rest => cases rest; simp [seed, choiceMember]
    | pass optional rest => cases rest; simp [seed, optional]

/-- One more token is passed over, or one of its choices goes behind each variant. -/
theorem mem_widen_iff {variants : List Variant} {t : Token} {v : Variant} :
    v ∈ widen variants t ↔ ∃ front ∈ variants, ∃ picked, Picks [t] picked ∧ front ++ picked = v := by
  constructor
  · intro member
    rcases List.mem_append.mp member with passed | chosen
    · by_cases optional : t.isOptional
      · exact ⟨v, by simpa [optional] using passed, [], .pass optional .nil, by simp⟩
      · simp [optional] at passed
    · obtain ⟨choice, choiceMember, extended⟩ := List.mem_flatMap.mp chosen
      obtain ⟨front, frontMember, rfl⟩ := List.mem_map.mp extended
      exact ⟨front, frontMember, [choice], .pick choiceMember .nil, rfl⟩
  · rintro ⟨front, frontMember, picked, picks, rfl⟩
    cases picks with
    | pick choiceMember rest =>
      cases rest
      exact List.mem_append_right _
        (List.mem_flatMap.mpr ⟨_, choiceMember, List.mem_map.mpr ⟨front, frontMember, rfl⟩⟩)
    | pass optional rest =>
      cases rest
      exact List.mem_append_left _ (by simpa [optional] using frontMember)

/-- Picking from a first token and then from the others is picking from all of them. -/
theorem picks_cons_iff {t : Token} {tokens : List Token} {v : Variant} :
    Picks (t :: tokens) v ↔ ∃ first rest, Picks [t] first ∧ Picks tokens rest ∧ first ++ rest = v := by
  constructor
  · intro picks
    cases picks with
    | pick choiceMember rest => exact ⟨_, _, .pick choiceMember .nil, rest, rfl⟩
    | pass optional rest => exact ⟨[], v, .pass optional .nil, rest, rfl⟩
  · rintro ⟨first, rest, fromFirst, fromRest, rfl⟩
    cases fromFirst with
    | pick choiceMember nothing => cases nothing; exact .pick choiceMember fromRest
    | pass optional nothing => cases nothing; exact .pass optional fromRest

/-- The expander puts behind each variant what can be picked from the remaining tokens. -/
theorem mem_foldl_widen_iff (tokens : List Token) (variants : List Variant) (v : Variant) :
    v ∈ tokens.foldl widen variants ↔
      ∃ front ∈ variants, ∃ picked, Picks tokens picked ∧ front ++ picked = v := by
  induction tokens generalizing variants with
  | nil =>
    constructor
    · intro member
      exact ⟨v, member, [], .nil, by simp⟩
    · rintro ⟨front, member, picked, picks, rfl⟩
      cases picks
      simpa using member
  | cons t tokens ih =>
    rw [List.foldl_cons, ih]
    constructor
    · rintro ⟨wider, member, rest, picksRest, rfl⟩
      obtain ⟨front, frontMember, first, picksFirst, rfl⟩ := mem_widen_iff.mp member
      refine ⟨front, frontMember, first ++ rest, ?_, by simp⟩
      exact picks_cons_iff.mpr ⟨first, rest, picksFirst, picksRest, rfl⟩
    · rintro ⟨front, member, picked, picks, rfl⟩
      obtain ⟨first, rest, picksFirst, picksRest, rfl⟩ := picks_cons_iff.mp picks
      refine ⟨front ++ first, ?_, rest, picksRest, by simp⟩
      exact mem_widen_iff.mpr ⟨front, member, first, picksFirst, rfl⟩

/-- The sentences of a template are exactly what it means. -/
theorem mem_variants_iff_means (template : String) (v : Variant) :
    v ∈ variants template ↔ Means template v := by
  have expanded : v ≠ [] → (v ∈ expand (tokens template) ↔ Picks (tokens template) v) := by
    intro nonempty
    cases tokens template with
    | nil =>
      -- No token at all: nothing is enumerated, and only the empty sequence could be picked.
      constructor
      · simp [expand]
      · intro picks
        cases picks
        exact absurd rfl nonempty
    | cons t ts =>
      rw [expand, mem_foldl_widen_iff, picks_cons_iff]
      simp only [mem_seed_iff, exists_and_left]
  rw [variants, List.mem_filter, Means]
  by_cases nonempty : v = []
  · simp [nonempty]
  · simp [nonempty, expanded nonempty]

theorem Picks.spelled {tokens : List Token} {picked : Variant} (picks : Picks tokens picked)
    (wellFormed : ∀ t ∈ tokens, t.WellFormed) : ∀ k, Term.key k ∈ picked → Spelled isKeyChar k := by
  induction picks with
  | nil => simp
  | @pick ts picked t choice choiceMember _ ih =>
    intro k member
    rcases List.mem_cons.mp member with rfl | later
    · have tokenFormed : t.WellFormed := wellFormed t (by simp)
      cases t with
      | key own optional =>
        obtain rfl : k = own := by simpa [Token.choices] using choiceMember
        exact tokenFormed
      | group keys optional => exact tokenFormed.2 k (by simpa [Token.choices] using choiceMember)
      | free => simp [Token.choices] at choiceMember
    · exact ih (fun u uMember => wellFormed u (by simp [uMember])) k later
  | pass _ _ ih => exact ih fun u uMember => wellFormed u (by simp [uMember])

theorem Means.spelled {template : String} {sequence : Variant} (means : Means template sequence) :
    ∀ k, Term.key k ∈ sequence → Spelled isKeyChar k :=
  means.1.spelled (wellFormed_of_mem_scan _)

theorem Token.WellFormed.choices_ne_nil {t : Token} (wellFormed : t.WellFormed) : t.choices ≠ [] := by
  cases t with
  | key k optional => simp [Token.choices]
  | group keys optional => simpa [Token.choices] using wellFormed.1
  | free => simp [Token.choices]

/-- From well-formed tokens a term can be picked each. -/
theorem exists_picks {tokens : List Token} (wellFormed : ∀ t ∈ tokens, t.WellFormed) :
    ∃ picked, Picks tokens picked ∧ picked.length = tokens.length := by
  induction tokens with
  | nil => exact ⟨[], .nil, rfl⟩
  | cons t tokens ih =>
    rw [List.forall_mem_cons] at wellFormed
    obtain ⟨picked, picks, sameLength⟩ := ih wellFormed.2
    obtain ⟨choice, member⟩ := List.exists_mem_of_ne_nil _ wellFormed.1.choices_ne_nil
    exact ⟨choice :: picked, .pick member picks, by simp [sameLength]⟩

/-- A template stands for no sentence exactly when nothing in it is a token. -/
theorem variants_eq_nil_iff (template : String) : variants template = [] ↔ tokens template = [] := by
  constructor
  · intro none
    obtain ⟨picked, picks, sameLength⟩ := exists_picks (wellFormed_of_mem_scan (normalize template))
    cases picked with
    | nil => exact List.eq_nil_of_length_eq_zero sameLength.symm
    | cons term terms =>
      have means : Means template (term :: terms) := ⟨picks, by simp⟩
      rw [← mem_variants_iff_means, none] at means
      cases means
  · intro none
    simp [variants, none, expand]

end SpokenCommand.Sentence
