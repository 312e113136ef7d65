import Mathlib.Data.List.Chain
import SpokenCommand.Proofs.Reading

/-!
# Sentence templates print and read back

`render` writes the tokens of a sentence with single spaces between them. What it writes is in normal
spacing already (`normalize_render`), and the scanner gives exactly the tokens back
(`scan_render`). For each kind of token this needs that the kinds tried before it fail on its text,
and that its own reading ends where its text ends; the space behind it decides the latter.
-/

namespace SpokenCommand.Sentence

open Template Text

/-- What stands in front of an optional token. -/
def mark (optional : Bool) : String := if optional then "?" else ""

/-- A token as it is written. -/
def Token.render : Token → String
  | .key k optional => mark optional ++ k
  | .group ks optional => mark optional ++ ("(" ++ "|".intercalate ks ++ ")")
  | .free => freeSpeech

/-- Tokens as a template. -/
def render (ts : List Token) : String := " ".intercalate (ts.map Token.render)

/-- The tokens of a template, each with a space in front. -/
def spaced (ts : List Token) : List Char := ts.flatMap fun t => ' ' :: t.render.toList

theorem toList_render_cons (t : Token) (ts : List Token) :
    (render (t :: ts)).toList = t.render.toList ++ spaced ts := by
  rw [render, List.map_cons, toList_intercalate_cons (c := ' ') rfl, List.flatMap_map]
  rfl

/-- The characters with a meaning of their own are no key characters. -/
theorem isKeyChar_of_mem_signs : ∀ c ∈ ['?', '(', '|', ')', '.', ' '], isKeyChar c = false :=
  List.all_iff_forall_prop.mp (by decide +kernel)

theorem ne_of_isKeyChar {c d : Char} (keyChar : isKeyChar c = true)
    (sign : d ∈ ['?', '(', '|', ')', '.', ' ']) : c ≠ d := by
  rintro rfl
  simp [isKeyChar_of_mem_signs c sign] at keyChar

/-! ## Normal spacing -/

/-- There are no line breaks, no tabs, and no spaces behind a space or a bar. -/
structure Tidy (cs : List Char) : Prop where
  noControls : ∀ c ∈ cs, c ≠ '\n' ∧ c ≠ '\r' ∧ c ≠ '\t'
  single : cs.IsChain fun front c => c = ' ' → front ≠ ' ' ∧ front ≠ '|'

theorem dropSpacesBehind_eq_self {mark : Char} {behind : Bool} {cs : List Char}
    (chain : cs.IsChain fun front c => c = ' ' → front ≠ mark)
    (first : behind = true → ∀ c ∈ cs.head?, c ≠ ' ') : dropSpacesBehind mark behind cs = cs := by
  induction cs generalizing behind with
  | nil => rfl
  | cons c cs ih =>
    obtain ⟨next, others⟩ := List.isChain_cons.mp chain
    have kept : (behind && c == ' ') = false := by
      cases behind with
      | false => rfl
      | true => simpa using first rfl c (by simp)
    have rest : dropSpacesBehind mark (c == mark) cs = cs := by
      refine ih others fun same d head space => ?_
      -- A space behind the mark is what the chain excludes.
      exact next d head space (by simpa using same)
    rw [dropSpacesBehind, kept, rest]
    rfl

theorem normalize_of_tidy {template : String} (tidy : Tidy template.toList) :
    normalize template = template := by
  have controls : dropControls template.toList = template.toList := by
    refine List.filter_eq_self.mpr fun c member => ?_
    simpa [and_assoc] using tidy.noControls c member
  have bars : dropSpacesBehind '|' false template.toList = template.toList :=
    dropSpacesBehind_eq_self (tidy.single.imp fun _ _ allowed space => (allowed space).2) (by simp)
  have spaces : dropSpacesBehind ' ' false template.toList = template.toList :=
    dropSpacesBehind_eq_self (tidy.single.imp fun _ _ allowed space => (allowed space).1) (by simp)
  simp [normalize, controls, bars, spaces]

/-- A written token: it holds no blank, and no bar at its end. -/
structure Solid (cs : List Char) : Prop where
  nonempty : cs ≠ []
  noBlank : ∀ c ∈ cs, isBlank c = false
  noBar : ∀ c ∈ cs.getLast?, c ≠ '|'

theorem Solid.ne_of_isBlank {cs : List Char} (solid : Solid cs) {c d : Char} (member : c ∈ cs)
    (blank : isBlank d = true) : c ≠ d := by
  rintro rfl
  simp [solid.noBlank c member] at blank

theorem Solid.tidy {cs : List Char} (solid : Solid cs) : Tidy cs where
  noControls c member :=
    ⟨solid.ne_of_isBlank member (by decide), solid.ne_of_isBlank member (by decide),
      solid.ne_of_isBlank member (by decide)⟩
  single := by
    refine List.Pairwise.isChain (List.pairwise_of_forall_mem_list fun _ _ c member space => ?_)
    exact absurd space (solid.ne_of_isBlank member (by decide))

theorem Solid.tidy_append {front back : List Char} (solid : Solid front) (tidy : Tidy back)
    (noSpace : ∀ c ∈ back.head?, c ≠ ' ') : Tidy (front ++ ' ' :: back) where
  noControls c member := by
    rcases List.mem_append.mp member with inFront | inBack
    · exact solid.tidy.noControls c inFront
    · rcases List.mem_cons.mp inBack with rfl | inBack
      · decide
      · exact tidy.noControls c inBack
  single := by
    refine List.isChain_append.mpr ⟨solid.tidy.single, List.isChain_cons.mpr ⟨?_, tidy.single⟩, ?_⟩
    · exact fun c head space => absurd space (noSpace c head)
    · intro c last d head space
      exact ⟨solid.ne_of_isBlank (List.mem_of_getLast? last) (by decide), solid.noBar c last⟩

theorem Token.WellFormed.solid {t : Token} (wellFormed : t.WellFormed) : Solid t.render.toList := by
  have noBlankMark : ∀ optional, ∀ c ∈ (mark optional).toList, isBlank c = false := by
    intro optional
    cases optional <;> exact List.all_iff_forall_prop.mp (by decide +kernel)
  -- Apart from its keys a token is written with marks that are no blanks, and it never ends in a bar.
  cases t with
  | key k optional =>
    have spelled : Spelled isKeyChar k := wellFormed
    have nonempty : k.toList ≠ [] := by simpa using spelled.nonempty
    refine ⟨by simp [Token.render, spelled.nonempty], fun c member => ?_, fun c last => ?_⟩
    · rcases List.mem_append.mp (by simpa [Token.render] using member) with inMark | inKey
      · exact noBlankMark optional c inMark
      · exact noBlank_of_isKeyChar c (spelled.all c inKey)
    · have inKey : c ∈ k.toList := by
        apply List.mem_of_getLast?
        simpa [Token.render, List.getLast?_append_of_ne_nil _ nonempty] using last
      exact ne_of_isKeyChar (spelled.all c inKey) (by simp)
  | group ks optional =>
    obtain ⟨-, spelled⟩ : ks ≠ [] ∧ ∀ k ∈ ks, Spelled isKeyChar k := wellFormed
    refine ⟨by simp [Token.render], fun c member => ?_, ?_⟩
    · simp only [Token.render, String.toList_append, List.mem_append] at member
      rcases member with inMark | (inOpening | inKeys) | inClosing
      · exact noBlankMark optional c inMark
      · obtain rfl : c = '(' := by simpa using inOpening
        decide
      · rcases mem_toList_intercalate inKeys with inBar | ⟨k, kMember, inKey⟩
        · obtain rfl : c = '|' := by simpa using inBar
          decide
        · exact noBlank_of_isKeyChar c ((spelled k kMember).all c inKey)
      · obtain rfl : c = ')' := by simpa using inClosing
        decide
    · intro c last
      have closed : (Token.group ks optional).render.toList =
          (mark optional ++ "(" ++ "|".intercalate ks).toList ++ [')'] := by simp [Token.render]
      rw [closed, List.getLast?_concat] at last
      obtain rfl : ')' = c := by simpa using last
      decide
  | free =>
    refine ⟨by decide, List.all_iff_forall_prop.mp (by decide), fun c last => ?_⟩
    have dot : Token.free.render.toList.getLast? = some '.' := by decide
    obtain rfl : '.' = c := by simpa [dot] using last
    decide

theorem tidy_append_spaced {t : Token} {ts : List Token} (wellFormed : ∀ u ∈ t :: ts, u.WellFormed) :
    Tidy (t.render.toList ++ spaced ts) := by
  have solid : Solid t.render.toList := (wellFormed t (by simp)).solid
  induction ts generalizing t with
  | nil => simpa [spaced] using solid.tidy
  | cons u ts ih =>
    have others : ∀ v ∈ u :: ts, v.WellFormed := fun v member => wellFormed v (by simp [member])
    have nextSolid : Solid u.render.toList := (others u (by simp)).solid
    refine solid.tidy_append (ih others nextSolid) fun c head => ?_
    -- The next token is not empty, so its first character is the one behind the space.
    obtain ⟨first, chars, split⟩ := List.exists_cons_of_ne_nil nextSolid.nonempty
    obtain rfl : first = c := by simpa [split] using head
    exact nextSolid.ne_of_isBlank (by simp [split]) (by decide)

theorem normalize_render {ts : List Token} (wellFormed : ∀ t ∈ ts, t.WellFormed) :
    normalize (render ts) = render ts := by
  cases ts with
  | nil => decide +kernel
  | cons t ts =>
    apply normalize_of_tidy
    rw [toList_render_cons]
    exact tidy_append_spaced wellFormed

/-! ## Reading the tokens -/

theorem reads_key {k : String} (spelled : Spelled isKeyChar k) {rest : List Char}
    (stops : Stops isKeyChar rest) : key.Reads k.toList rest k.toList :=
  Shape.reads_run (by simpa using spelled.nonempty) spelled.all stops

/-- What stands behind the keys of a group. -/
def closing (bar : Bool) : String := if bar then "|)" else ")"

theorem stops_closing (bar : Bool) (rest : List Char) :
    Stops isKeyChar ((closing bar).toList ++ rest) := by
  cases bar with
  | false => exact stops_cons_iff.mpr (isKeyChar_of_mem_signs ')' (by simp))
  | true => exact stops_cons_iff.mpr (isKeyChar_of_mem_signs '|' (by simp))

theorem stops_barredKeys (ks : List String) (bar : Bool) (rest : List Char) :
    Stops isKeyChar (ks.flatMap ('|' :: ·.toList) ++ ((closing bar).toList ++ rest)) := by
  cases ks with
  | nil => exact stops_closing bar rest
  | cons k ks => exact stops_cons_iff.mpr (isKeyChar_of_mem_signs '|' (by simp))

/-- No key follows in front of the closing parenthesis, with a bar or without one. -/
theorem read_barredKey_closing (bar : Bool) (rest : List Char) :
    (key.afterOptional '|').read ((closing bar).toList ++ rest) = none := by
  have noKey := Shape.read_run_eq_none_iff.mpr (stops_closing bar rest)
  cases bar with
  | false => exact Shape.read_afterOptional_eq_none (by simp [closing]) noKey
  | true =>
    have behind := Shape.read_seq_eq_none_right (Shape.reads_char '|' (')' :: rest))
      (Shape.read_run_eq_none_iff.mpr (stops_closing false rest))
    exact Shape.read_orElse_eq_none (Shape.read_map_eq_none _ behind) noKey

/-- The keys behind the first key of a group, each behind its bar. -/
theorem readsAll_barredKeys {ks : List String} (spelled : ∀ k ∈ ks, Spelled isKeyChar k)
    (bar : Bool) (rest : List Char) :
    (key.afterOptional '|').ReadsAll (ks.flatMap ('|' :: ·.toList)) ((closing bar).toList ++ rest)
      (ks.map String.toList) := by
  induction ks with
  | nil => exact Shape.readsAll_nil (read_barredKey_closing bar rest)
  | cons k ks ih =>
    have others := ih fun other member => spelled other (by simp [member])
    have first := (reads_key (spelled k (by simp)) (stops_barredKeys ks bar rest)).afterOptional '|'
    exact Shape.ReadsAll.cons first others

theorem reads_closing (bar : Bool) (rest : List Char) :
    ((Shape.char ')').afterOptional '|').Reads (closing bar).toList rest ')' := by
  cases bar with
  | false => exact (Shape.reads_char ')' rest).withoutOptional (by simp [closing])
  | true => exact (Shape.reads_char ')' rest).afterOptional '|'

/-- The text of a group. -/
def groupText (ks : List String) (bar : Bool) : String := "(" ++ "|".intercalate ks ++ closing bar

theorem toList_groupText (k : String) (ks : List String) (bar : Bool) :
    (groupText (k :: ks) bar).toList =
      ['('] ++ (k.toList ++ ks.flatMap ('|' :: ·.toList) ++ (closing bar).toList) := by
  rw [groupText, String.toList_append, String.toList_append, toList_intercalate_cons (c := '|') rfl]
  simp

theorem reads_group {ks : List String} (nonempty : ks ≠ [])
    (spelled : ∀ k ∈ ks, Spelled isKeyChar k) (bar : Bool) (rest : List Char) :
    group.Reads (groupText ks bar).toList rest (ks.map String.toList) := by
  cases ks with
  | nil => exact absurd rfl nonempty
  | cons k ks =>
    have spelledOthers : ∀ other ∈ ks, Spelled isKeyChar other := fun other member =>
      spelled other (by simp [member])
    have keys := (reads_key (spelled k (by simp)) (stops_barredKeys ks bar rest)).followedBy
      (readsAll_barredKeys spelledOthers bar rest)
    have whole := (Shape.reads_char '(' _).seq (keys.seq (reads_closing bar rest))
    rw [toList_groupText]
    exact whole.map _

theorem read_group_eq_none {input : List Char} (other : ∀ c ∈ input.head?, c ≠ '(') :
    group.read input = none :=
  Shape.read_map_eq_none _ (Shape.read_seq_eq_none_left (Shape.read_char_eq_none other) _)

theorem read_optional_eq_none {α : Type} (s : Shape α) {input : List Char}
    (other : ∀ c ∈ input.head?, c ≠ '?') :
    (((Shape.char '?').seq s).map Prod.snd).read input = none :=
  Shape.read_map_eq_none _ (Shape.read_seq_eq_none_left (Shape.read_char_eq_none other) _)

/-- Without a question mark in front, the two optional kinds of token fail. -/
theorem reads_of_noQuestion {source rest : List Char} {t : Token}
    (noQuestion : ∀ c ∈ (source ++ rest).head?, c ≠ '?')
    (reads : ((key.map fun k => Token.key (String.ofList k) false).orElse
      ((group.map fun ks => .group (ks.map String.ofList) false).orElse
        (wildcard.map fun _ => .free))).Reads source rest t) :
    token.Reads source rest t :=
  .orElse_right (Shape.read_map_eq_none _ (read_optional_eq_none group noQuestion))
    (.orElse_right (Shape.read_map_eq_none _ (read_optional_eq_none key noQuestion)) reads)

theorem read_token_eq_none {input : List Char} (noOptionalGroup : optionalGroup.read input = none)
    (noOptionalKey : optionalKey.read input = none) (noKey : Stops isKeyChar input)
    (noGroup : group.read input = none) (noDots : wildcard.read input = none) :
    token.read input = none :=
  Shape.read_orElse_eq_none (Shape.read_map_eq_none _ noOptionalGroup)
    (Shape.read_orElse_eq_none (Shape.read_map_eq_none _ noOptionalKey)
      (Shape.read_orElse_eq_none (Shape.read_map_eq_none _ (Shape.read_run_eq_none_iff.mpr noKey))
        (Shape.read_orElse_eq_none (Shape.read_map_eq_none _ noGroup)
          (Shape.read_map_eq_none _ noDots))))

theorem read_token_space (rest : List Char) : token.read (' ' :: rest) = none := by
  have noKey : Stops isKeyChar (' ' :: rest) :=
    stops_cons_iff.mpr (isKeyChar_of_mem_signs ' ' (by simp))
  exact read_token_eq_none (read_optional_eq_none group (by simp)) (read_optional_eq_none key (by simp))
    noKey (read_group_eq_none (by simp)) (read_wildcard_eq_none (by simp))

theorem reads_renderedKey {k : String} (spelled : Spelled isKeyChar k) (optional : Bool)
    {rest : List Char} (stops : Stops isKeyChar rest) :
    token.Reads (mark optional ++ k).toList rest (.key k optional) := by
  have reads := reads_key spelled stops
  have same : String.ofList k.toList = k := String.ofList_toList
  rw [String.toList_append]
  cases optional with
  | true =>
    -- The question mark is there, but no parenthesis follows it.
    have noGroup : optionalGroup.read (['?'] ++ (k.toList ++ rest)) = none := by
      apply Shape.read_map_eq_none
      apply Shape.read_seq_eq_none_right (Shape.reads_char '?' _)
      exact read_group_eq_none (spelled.head_ne (isKeyChar_of_mem_signs '(' (by simp)) rest)
    have optionalReads := (reads.behind '?').map fun k => Token.key (String.ofList k) true
    rw [same] at optionalReads
    exact .orElse_right (Shape.read_map_eq_none _ noGroup) (optionalReads.orElse_left _)
  | false =>
    have plainReads := reads.map fun k => Token.key (String.ofList k) false
    rw [same] at plainReads
    have noQuestion := spelled.head_ne (isKeyChar_of_mem_signs '?' (by simp)) rest
    exact reads_of_noQuestion noQuestion (plainReads.orElse_left _)

theorem reads_renderedGroup {ks : List String} (nonempty : ks ≠ [])
    (spelled : ∀ k ∈ ks, Spelled isKeyChar k) (optional bar : Bool) (rest : List Char) :
    token.Reads (mark optional ++ groupText ks bar).toList rest (.group ks optional) := by
  have reads := reads_group nonempty spelled bar rest
  have same : (ks.map String.toList).map String.ofList = ks := by simp
  rw [String.toList_append]
  cases optional with
  | true =>
    have optionalReads := (reads.behind '?').map fun ks => Token.group (ks.map String.ofList) true
    rw [same] at optionalReads
    exact optionalReads.orElse_left _
  | false =>
    have plainReads := reads.map fun ks => Token.group (ks.map String.ofList) false
    rw [same] at plainReads
    have opened : (groupText ks bar).toList = '(' :: ("|".intercalate ks ++ closing bar).toList := by
      simp [groupText]
    rw [opened] at plainReads ⊢
    have noKey : Stops isKeyChar ('(' :: ("|".intercalate ks ++ closing bar).toList ++ rest) :=
      stops_cons_iff.mpr (isKeyChar_of_mem_signs '(' (by simp))
    -- The three shapes in front of a plain group fail at its parenthesis.
    exact reads_of_noQuestion (by simp [mark])
      (.orElse_right (Shape.read_map_eq_none _ (Shape.read_run_eq_none_iff.mpr noKey))
        (plainReads.orElse_left _))

theorem reads_renderedFree (more : Nat) {rest : List Char} (noDots : ¬ freeSpeech.toList <+: rest) :
    token.Reads (List.replicate (more + 1) freeSpeech.toList).flatten rest .free := by
  have opened : (List.replicate (more + 1) freeSpeech.toList).flatten ++ rest =
      '.' :: ('.' :: '.' :: (List.replicate more freeSpeech.toList).flatten ++ rest) := by
    simp [List.replicate_succ, freeSpeech]
  have reads := (reads_wildcards more noDots).map fun _ => Token.free
  have noKey : Stops isKeyChar ((List.replicate (more + 1) freeSpeech.toList).flatten ++ rest) := by
    rw [opened]
    exact stops_cons_iff.mpr (isKeyChar_of_mem_signs '.' (by simp))
  have noGroup : group.read ((List.replicate (more + 1) freeSpeech.toList).flatten ++ rest) = none :=
    read_group_eq_none (by simp [opened])
  -- Free speech is tried last, and nothing else begins with a dot.
  exact reads_of_noQuestion (by simp [opened])
    (.orElse_right (Shape.read_map_eq_none _ (Shape.read_run_eq_none_iff.mpr noKey))
      (.orElse_right (Shape.read_map_eq_none _ noGroup) reads))

/-- A well-formed token is read back in front of a space, and at the end. -/
theorem Token.WellFormed.reads {t : Token} (wellFormed : t.WellFormed) {rest : List Char}
    (separated : ∀ c ∈ rest.head?, c = ' ') : token.Reads t.render.toList rest t := by
  cases t with
  | key k optional =>
    refine reads_renderedKey wellFormed optional fun c head => ?_
    exact isKeyChar_of_mem_signs c (by simp [separated c head])
  | group ks optional => exact reads_renderedGroup wellFormed.1 wellFormed.2 optional false rest
  | free =>
    refine reads_renderedFree 0 (not_dots_of_head fun c head => ?_)
    simp [separated c head]

/-! ## Whole templates -/

theorem separated_spaced (ts : List Token) : ∀ c ∈ (spaced ts).head?, c = ' ' := by
  cases ts with
  | nil => simp [spaced]
  | cons t ts => simp [spaced]

theorem scan_spaced {ts : List Token} (wellFormed : ∀ t ∈ ts, t.WellFormed) :
    Template.scan token (spaced ts) = ⟨ts, []⟩ := by
  induction ts with
  | nil => exact scan_nil token
  | cons t ts ih =>
    have reads := (wellFormed t (by simp)).reads (separated_spaced ts)
    have others := ih fun u member => wellFormed u (by simp [member])
    -- A space in front of which no token begins, the token, and the others.
    show Template.scan token (' ' :: (t.render.toList ++ spaced ts)) = ⟨t :: ts, []⟩
    rw [scan_of_blank (by decide) (read_token_space _), scan_of_reads reads, others]

theorem scan_render {ts : List Token} (wellFormed : ∀ t ∈ ts, t.WellFormed) :
    scan (render ts) = ⟨ts, []⟩ := by
  cases ts with
  | nil => exact scan_nil token
  | cons t ts =>
    have reads := (wellFormed t (by simp)).reads (separated_spaced ts)
    have others : Template.scan token (spaced ts) = ⟨ts, []⟩ :=
      scan_spaced fun u member => wellFormed u (by simp [member])
    rw [scan, toList_render_cons, scan_of_reads reads, others]

/-- What is written for well-formed tokens is scanned back to them, with nothing rejected. The tokens
of every template are well-formed, so writing them again keeps all the sentences of the template. -/
theorem render_reads_back :
    (∀ ts : List Token, (∀ t ∈ ts, t.WellFormed) → scan (normalize (render ts)) = ⟨ts, []⟩) ∧
    ∀ template : String,
      (∀ t ∈ tokens template, t.WellFormed) ∧
        variants (render (tokens template)) = variants template := by
  have readBack : ∀ ts : List Token, (∀ t ∈ ts, t.WellFormed) →
      scan (normalize (render ts)) = ⟨ts, []⟩ := by
    intro ts wellFormed
    rw [normalize_render wellFormed, scan_render wellFormed]
  refine ⟨readBack, fun template => ?_⟩
  have wellFormed : ∀ t ∈ tokens template, t.WellFormed := wellFormed_of_mem_scan _
  have same : tokens (render (tokens template)) = tokens template := by
    rw [tokens, readBack (tokens template) wellFormed]
  exact ⟨wellFormed, by rw [variants, same, variants]⟩

theorem render_reads_back_each_kind :
    let ts : List Token :=
      [.free, .key "please" true, .group ["go", "köm_2"] false, .group ["now"] true, .key "all" false]
    (∀ t ∈ ts, t.WellFormed) ∧ render ts = "... ?please (go|köm_2) ?(now) all" ∧
      scan (normalize (render ts)) = ⟨ts, []⟩ := by
  intro ts
  have spelled : ∀ k ∈ ["please", "go", "köm_2", "now", "all"], Spelled isKeyChar k :=
    List.all_iff_forall_prop.mp (by decide +kernel)
  have wellFormed : ∀ t ∈ ts, t.WellFormed := by
    simp only [ts, List.forall_mem_cons, Token.WellFormed]
    simp [spelled]
  exact ⟨wellFormed, by decide +kernel, render_reads_back.1 ts wellFormed⟩

end SpokenCommand.Sentence
