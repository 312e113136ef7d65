import SpokenCommand.Proofs.Tokens

/-!
# Reading what was written

`Shape.Reads source rest a` says that the shape finds `a` in `source` when `rest` follows, and takes
nothing of `rest`. The remaining text is part of the judgment, since a run or a repetition ends only
where the text behind it does not go on. There is one lemma for each combinator, and one for what
makes it fail, because an earlier alternative has to fail before a later one is tried. The lemmas
`Reads.of_…` go the other way: from what a combination has read to what its parts have read.

A scanner then advances over written text by two steps: a token that is read (`scan_of_reads`), and
a blank in front of which no token begins (`scan_of_blank`).
-/

namespace SpokenCommand.Template

open Text

variable {α β : Type}

/-- The shape finds `a` in `source` when `rest` follows, and leaves `rest`. -/
def Shape.Reads (s : Shape α) (source rest : List Char) (a : α) : Prop :=
  s.read (source ++ rest) = some ⟨a, source, rest⟩

/-- The shape finds one after the other in `source` when `rest` follows, and no more in `rest`. -/
def Shape.ReadsAll (s : Shape α) (source rest : List Char) (as : List α) : Prop :=
  s.repeated (source ++ rest) = ⟨as, source, rest⟩

namespace Shape

variable {s : Shape α} {t : Shape β} {a : α} {b : β} {source more rest input : List Char}

/-! ## Characters and runs -/

theorem reads_char (c : Char) (rest : List Char) : (char c).Reads [c] rest c := by
  simp [Reads, char]

theorem read_char_eq_none {c : Char} (other : ∀ d ∈ input.head?, d ≠ c) :
    (char c).read input = none := by
  cases input with
  | nil => rfl
  | cons d input =>
    have different : d ≠ c := other d (by simp)
    simp [char, different]

theorem reads_run {p : Char → Bool} (nonempty : source ≠ []) (all : ∀ c ∈ source, p c = true)
    (stops : Stops p rest) : (run p).Reads source rest source := by
  have taken : (source ++ rest).takeWhile p = source := stops.takeWhile_append all
  have kept : (source ++ rest).dropWhile p = rest := stops.dropWhile_append all
  have found : source.isEmpty = false := by simpa using nonempty
  simp only [Reads, run, taken, kept, found, Bool.false_eq_true, if_false]

theorem read_run_eq_none_iff {p : Char → Bool} : (run p).read input = none ↔ Stops p input := by
  cases input with
  | nil => simp [run]
  | cons c input => cases inside : p c <;> simp [run, inside]

/-! ## Combinators -/

/-- Spaces in front belong to the source; what stands behind them does not begin with a space. -/
theorem Reads.afterSpaces (spaces : Nat) (other : ∀ c ∈ (source ++ rest).head?, c ≠ ' ')
    (reads : s.Reads source rest a) :
    s.afterSpaces.Reads (List.replicate spaces ' ' ++ source) rest a := by
  have stops : Stops (fun c => decide (c = ' ')) (source ++ rest) := fun c head => by
    simpa using other c head
  have all : ∀ c ∈ List.replicate spaces ' ', decide (c = ' ') = true := by simp
  unfold Reads at reads ⊢
  rw [List.append_assoc]
  simp [Shape.afterSpaces, stops.takeWhile_append all, stops.dropWhile_append all, reads]

theorem read_afterSpaces_eq_none_iff :
    s.afterSpaces.read input = none ↔ s.read (input.dropWhile (· = ' ')) = none := by
  simp [Shape.afterSpaces]

theorem Reads.map (f : α → β) (reads : s.Reads source rest a) :
    (s.map f).Reads source rest (f a) := by
  unfold Reads at reads ⊢
  simp [Shape.map, reads]

theorem read_map_eq_none (f : α → β) (fails : s.read input = none) :
    (s.map f).read input = none := by simp [Shape.map, fails]

theorem Reads.orElse_left (reads : s.Reads source rest a) (u : Shape α) :
    (s.orElse u).Reads source rest a := by
  unfold Reads at reads ⊢
  simp [Shape.orElse, reads]

theorem Reads.orElse_right {u : Shape α} (fails : s.read (source ++ rest) = none)
    (reads : u.Reads source rest a) : (s.orElse u).Reads source rest a := by
  unfold Reads at reads ⊢
  simp [Shape.orElse, fails, reads]

theorem read_orElse_eq_none {u : Shape α} (first : s.read input = none)
    (second : u.read input = none) : (s.orElse u).read input = none := by
  simp [Shape.orElse, first, second]

theorem Reads.seq (first : s.Reads source (more ++ rest) a) (second : t.Reads more rest b) :
    (s.seq t).Reads (source ++ more) rest (a, b) := by
  unfold Reads at first second ⊢
  rw [List.append_assoc]
  simp [Shape.seq, first, second]

theorem read_seq_eq_none_left (fails : s.read input = none) (t : Shape β) :
    (s.seq t).read input = none := by simp [Shape.seq, fails]

theorem read_seq_eq_none_right (reads : s.Reads source rest a) (fails : t.read rest = none) :
    (s.seq t).read (source ++ rest) = none := by
  unfold Reads at reads
  simp [Shape.seq, reads, fails]

/-- What follows a given character. -/
theorem Reads.behind (c : Char) (reads : t.Reads source rest b) :
    (((char c).seq t).map Prod.snd).Reads (c :: source) rest b :=
  ((reads_char c (source ++ rest)).seq reads).map Prod.snd

theorem Reads.afterOptional (c : Char) (reads : t.Reads source rest b) :
    (t.afterOptional c).Reads (c :: source) rest b :=
  (reads.behind c).orElse_left t

theorem Reads.withoutOptional {c : Char} (other : ∀ d ∈ (source ++ rest).head?, d ≠ c)
    (reads : t.Reads source rest b) : (t.afterOptional c).Reads source rest b :=
  .orElse_right (read_map_eq_none _ (read_seq_eq_none_left (read_char_eq_none other) t)) reads

theorem read_afterOptional_eq_none {c : Char} (other : ∀ d ∈ input.head?, d ≠ c)
    (fails : t.read input = none) : (t.afterOptional c).read input = none :=
  read_orElse_eq_none
    (read_map_eq_none _ (read_seq_eq_none_left (read_char_eq_none other) t)) fails

/-! ## Repetition -/

theorem repeated_of_none (fails : s.read input = none) : s.repeated input = ⟨[], [], input⟩ := by
  rw [Shape.repeated]
  split
  next => rfl
  next first found => simp [found] at fails

theorem repeated_of_some {first : Lexeme α} (found : s.read input = some first) :
    s.repeated input = ⟨first.token :: (s.repeated first.rest).token,
      first.source ++ (s.repeated first.rest).source, (s.repeated first.rest).rest⟩ := by
  rw [Shape.repeated]
  split
  next fails => simp [found] at fails
  next other read =>
    obtain rfl : other = first := Option.some.inj (read.symm.trans found)
    rfl

theorem readsAll_nil (fails : s.read rest = none) : s.ReadsAll [] rest [] := by
  rw [ReadsAll, List.nil_append, repeated_of_none fails]

theorem ReadsAll.cons {as : List α} (first : s.Reads source (more ++ rest) a)
    (others : s.ReadsAll more rest as) : s.ReadsAll (source ++ more) rest (a :: as) := by
  unfold Reads at first
  unfold ReadsAll at others ⊢
  rw [List.append_assoc, repeated_of_some first, others]

theorem Reads.many {as : List α} (first : s.Reads source (more ++ rest) a)
    (others : s.ReadsAll more rest as) : s.many.Reads (source ++ more) rest (a :: as) := by
  unfold Reads at first ⊢
  unfold ReadsAll at others
  rw [List.append_assoc]
  simp [Shape.many, first, others]

theorem read_many_eq_none (fails : s.read input = none) : s.many.read input = none := by
  simp [Shape.many, fails]

theorem Reads.followedBy {bs : List β} (first : s.Reads source (more ++ rest) a)
    (others : t.ReadsAll more rest bs) :
    (s.followedBy t).Reads (source ++ more) rest (a, bs) := by
  unfold Reads at first ⊢
  unfold ReadsAll at others
  rw [List.append_assoc]
  simp [Shape.followedBy, first, others]

/-! ## Taking a reading apart -/

/-- What a shape finds in a text, it reads there. -/
theorem reads_of_read {found : Lexeme α} (read : s.read input = some found) :
    found.source ++ found.rest = input ∧ s.Reads found.source found.rest found.token := by
  have whole := (s.split read).1
  exact ⟨whole, by rw [Reads, whole, read]⟩

theorem Reads.read_ne_none (reads : s.Reads source rest a) : s.read (source ++ rest) ≠ none := by
  unfold Reads at reads
  simp [reads]

theorem Reads.of_char {c d : Char} (reads : (char c).Reads source rest d) : source = [c] := by
  unfold Reads at reads
  cases whole : source ++ rest with
  | nil => simp [char, whole] at reads
  | cons first others =>
    by_cases same : first = c
    · simp only [whole, char, same, if_true, Option.some.injEq, Lexeme.mk.injEq] at reads
      exact reads.2.1.symm
    · simp [char, whole, same] at reads

/-- A run ends where its class does. -/
theorem Reads.of_run {p : Char → Bool} {found : List Char} (reads : (run p).Reads source rest found) :
    found = source ∧ source ≠ [] ∧ (∀ c ∈ source, p c = true) ∧ Stops p rest := by
  have spelled := Shape.Yields.run p reads
  obtain ⟨-, same, sourceFound, kept⟩ :
      (source ++ rest).takeWhile p ≠ [] ∧ (source ++ rest).takeWhile p = found ∧
        (source ++ rest).takeWhile p = source ∧ (source ++ rest).dropWhile p = rest := by
    simpa [Reads, run] using reads
  rw [sourceFound] at same
  refine ⟨same.symm, same ▸ spelled.1, same ▸ spelled.2, ?_⟩
  rw [← kept]
  exact stops_dropWhile p (source ++ rest)

theorem Reads.of_afterSpaces (reads : s.afterSpaces.Reads source rest a) :
    ∃ spaces back, List.replicate spaces ' ' ++ back = source ∧ s.Reads back rest a := by
  obtain ⟨inner, read, same⟩ := Option.map_eq_some_iff.mp reads
  obtain ⟨rfl, sourceSame, rfl⟩ : inner.token = a ∧
      (source ++ rest).takeWhile (· = ' ') ++ inner.source = source ∧ inner.rest = rest := by
    simpa using same
  have spaces : (source ++ inner.rest).takeWhile (· = ' ') =
      List.replicate ((source ++ inner.rest).takeWhile (· = ' ')).length ' ' := by
    refine List.eq_replicate_iff.mpr ⟨rfl, fun c member => ?_⟩
    simpa using List.all_eq_true.mp List.all_takeWhile c member
  exact ⟨_, inner.source, by rw [← spaces, sourceSame], (reads_of_read read).2⟩

theorem Reads.of_map {f : α → β} {b : β} (reads : (s.map f).Reads source rest b) :
    ∃ a, s.Reads source rest a ∧ f a = b := by
  obtain ⟨inner, read, same⟩ := Option.map_eq_some_iff.mp reads
  obtain ⟨rfl, rfl, rfl⟩ : f inner.token = b ∧ inner.source = source ∧ inner.rest = rest := by
    simpa using same
  exact ⟨inner.token, read, rfl⟩

theorem Reads.of_orElse {u : Shape α} (reads : (s.orElse u).Reads source rest a) :
    s.Reads source rest a ∨ u.Reads source rest a := by
  unfold Reads at reads ⊢
  cases first : s.read (source ++ rest) with
  | some found => exact .inl (by simpa [Shape.orElse, first] using reads)
  | none => exact .inr (by simpa [Shape.orElse, first] using reads)

theorem Reads.of_seq {pair : α × β} (reads : (s.seq t).Reads source rest pair) :
    ∃ front back, front ++ back = source ∧ s.Reads front (back ++ rest) pair.1 ∧
      t.Reads back rest pair.2 := by
  unfold Reads at reads
  cases firstRead : s.read (source ++ rest) with
  | none => simp [Shape.seq, firstRead] at reads
  | some first =>
    cases secondRead : t.read first.rest with
    | none => simp [Shape.seq, firstRead, secondRead] at reads
    | some second =>
      obtain ⟨rfl, rfl, rfl⟩ : (first.token, second.token) = pair ∧
          first.source ++ second.source = source ∧ second.rest = rest := by
        simpa [Shape.seq, firstRead, secondRead] using reads
      obtain ⟨-, firstReads⟩ := reads_of_read firstRead
      obtain ⟨whole, secondReads⟩ := reads_of_read secondRead
      -- The first shape has read in front of both the second token and the rest.
      rw [← whole] at firstReads
      exact ⟨first.source, second.source, rfl, firstReads, secondReads⟩

theorem Reads.of_behind {c : Char} {b : β}
    (reads : (((char c).seq t).map Prod.snd).Reads source rest b) :
    ∃ back, c :: back = source ∧ t.Reads back rest b := by
  obtain ⟨pair, sequence, rfl⟩ := Reads.of_map reads
  obtain ⟨front, back, rfl, first, second⟩ := sequence.of_seq
  obtain rfl := first.of_char
  exact ⟨back, rfl, second⟩

theorem Reads.of_afterOptional {c : Char} {b : β} (reads : (t.afterOptional c).Reads source rest b) :
    (∃ back, c :: back = source ∧ t.Reads back rest b) ∨ t.Reads source rest b :=
  (Reads.of_orElse reads).imp_left Reads.of_behind

theorem readsAll_repeated (s : Shape α) (input : List Char) :
    s.ReadsAll (s.repeated input).source (s.repeated input).rest (s.repeated input).token := by
  rw [ReadsAll, s.repeated_split]

/-- A repetition ends where its shape is found no more. -/
theorem ReadsAll.of_nil (readsAll : s.ReadsAll source rest []) :
    source = [] ∧ s.read rest = none := by
  rw [ReadsAll] at readsAll
  cases read : s.read (source ++ rest) with
  | none =>
    rw [repeated_of_none read] at readsAll
    obtain ⟨rfl, -⟩ : [] = source ∧ source ++ rest = rest := by simpa using readsAll
    exact ⟨rfl, read⟩
  | some first => simp [repeated_of_some read] at readsAll

theorem ReadsAll.of_cons {as : List α} (readsAll : s.ReadsAll source rest (a :: as)) :
    ∃ front back, front ++ back = source ∧ s.Reads front (back ++ rest) a ∧
      s.ReadsAll back rest as := by
  rw [ReadsAll] at readsAll
  cases read : s.read (source ++ rest) with
  | none => simp [repeated_of_none read] at readsAll
  | some first =>
    rw [repeated_of_some read] at readsAll
    obtain ⟨⟨rfl, rfl⟩, rfl, rfl⟩ : (first.token = a ∧ (s.repeated first.rest).token = as) ∧
        first.source ++ (s.repeated first.rest).source = source ∧
        (s.repeated first.rest).rest = rest := by
      simpa using readsAll
    have firstReads := (reads_of_read read).2
    rw [← s.repeated_split first.rest] at firstReads
    exact ⟨_, _, rfl, firstReads, readsAll_repeated s first.rest⟩

theorem Reads.of_followedBy {pair : α × List β} (reads : (s.followedBy t).Reads source rest pair) :
    ∃ front back, front ++ back = source ∧ s.Reads front (back ++ rest) pair.1 ∧
      t.ReadsAll back rest pair.2 := by
  unfold Reads at reads
  cases firstRead : s.read (source ++ rest) with
  | none => simp [Shape.followedBy, firstRead] at reads
  | some first =>
    obtain ⟨rfl, rfl, rfl⟩ : (first.token, (t.repeated first.rest).token) = pair ∧
        first.source ++ (t.repeated first.rest).source = source ∧
        (t.repeated first.rest).rest = rest := by
      simpa [Shape.followedBy, firstRead] using reads
    have firstReads := (reads_of_read firstRead).2
    rw [← t.repeated_split first.rest] at firstReads
    exact ⟨_, _, rfl, firstReads, readsAll_repeated t first.rest⟩

theorem read_many (s : Shape α) (input : List Char) :
    s.many.read input = ((s.followedBy s).map fun pair => pair.1 :: pair.2).read input := by
  cases first : s.read input with
  | none => simp [Shape.many, Shape.map, Shape.followedBy, first]
  | some found => simp [Shape.many, Shape.map, Shape.followedBy, first]

theorem Reads.of_many {as : List α} (reads : s.many.Reads source rest as) :
    ∃ a others front back, as = a :: others ∧ front ++ back = source ∧
      s.Reads front (back ++ rest) a ∧ s.ReadsAll back rest others := by
  rw [Reads, read_many] at reads
  obtain ⟨pair, paired, rfl⟩ := Reads.of_map reads
  obtain ⟨front, back, whole, first, others⟩ := paired.of_followedBy
  exact ⟨pair.1, pair.2, front, back, rfl, whole, first, others⟩

end Shape

/-! ## Free speech -/

/-- One group of three dots. -/
def dots : Shape (Char × Char × Char) := .seq (.char '.') (.seq (.char '.') (.char '.'))

theorem reads_dots (rest : List Char) : dots.Reads freeSpeech.toList rest ('.', '.', '.') := by
  have dot : ∀ rest, (Shape.char '.').Reads ['.'] rest '.' := Shape.reads_char '.'
  exact (dot (['.', '.'] ++ rest)).seq ((dot (['.'] ++ rest)).seq (dot rest))

theorem source_of_reads_dots {source rest : List Char} {found : Char × Char × Char}
    (reads : dots.Reads source rest found) : source = freeSpeech.toList := by
  obtain ⟨first, others, rfl, firstReads, othersRead⟩ := reads.of_seq
  obtain ⟨second, third, rfl, secondReads, thirdReads⟩ := othersRead.of_seq
  rw [firstReads.of_char, secondReads.of_char, thirdReads.of_char]
  rfl

theorem read_dots_eq_none_iff {input : List Char} :
    dots.read input = none ↔ ¬ freeSpeech.toList <+: input := by
  constructor
  · rintro fails ⟨rest, rfl⟩
    exact (reads_dots rest).read_ne_none fails
  · intro noDots
    cases read : dots.read input with
    | none => rfl
    | some found =>
      obtain ⟨whole, reads⟩ := Shape.reads_of_read read
      rw [source_of_reads_dots reads] at whole
      exact absurd ⟨found.rest, whole⟩ noDots

/-- Dots are read in groups of three, up to where no further group follows. -/
theorem readsAll_dots (count : Nat) {rest : List Char} (noDots : ¬ freeSpeech.toList <+: rest) :
    dots.ReadsAll (List.replicate count freeSpeech.toList).flatten rest
      (List.replicate count ('.', '.', '.')) := by
  induction count with
  | zero => exact Shape.readsAll_nil (read_dots_eq_none_iff.mpr noDots)
  | succ count ih => exact Shape.ReadsAll.cons (reads_dots _) ih

theorem reads_wildcards (more : Nat) {rest : List Char} (noDots : ¬ freeSpeech.toList <+: rest) :
    wildcard.Reads (List.replicate (more + 1) freeSpeech.toList).flatten rest () :=
  (Shape.Reads.many (reads_dots _) (readsAll_dots more noDots)).map _

theorem source_of_readsAll_dots {source rest : List Char} {found : List (Char × Char × Char)}
    (readsAll : dots.ReadsAll source rest found) :
    source = (List.replicate found.length freeSpeech.toList).flatten ∧
      ¬ freeSpeech.toList <+: rest := by
  induction found generalizing source with
  | nil =>
    obtain ⟨rfl, fails⟩ := readsAll.of_nil
    exact ⟨rfl, read_dots_eq_none_iff.mp fails⟩
  | cons first found ih =>
    obtain ⟨front, back, rfl, firstReads, others⟩ := readsAll.of_cons
    obtain ⟨rfl, noDots⟩ := ih others
    rw [source_of_reads_dots firstReads]
    exact ⟨rfl, noDots⟩

theorem Shape.Reads.of_wildcard {source rest : List Char} (reads : wildcard.Reads source rest ()) :
    ∃ more, source = (List.replicate (more + 1) freeSpeech.toList).flatten ∧
      ¬ freeSpeech.toList <+: rest := by
  obtain ⟨found, many, -⟩ := Shape.Reads.of_map reads
  obtain ⟨first, others, front, back, rfl, rfl, firstReads, othersRead⟩ := many.of_many
  obtain ⟨rfl, noDots⟩ := source_of_readsAll_dots othersRead
  rw [source_of_reads_dots firstReads]
  exact ⟨others.length, rfl, noDots⟩

/-- Dots go on as far as groups of three follow. -/
theorem exists_dots_end (more : Nat) (rest : List Char) :
    ∃ count left, (List.replicate (count + 1) freeSpeech.toList).flatten ++ left =
        (List.replicate (more + 1) freeSpeech.toList).flatten ++ rest ∧
      ¬ freeSpeech.toList <+: left := by
  -- As many groups follow as the repetition finds.
  obtain ⟨same, noDots⟩ := source_of_readsAll_dots (Shape.readsAll_repeated dots rest)
  have whole := dots.repeated_split rest
  refine ⟨more + (dots.repeated rest).token.length, (dots.repeated rest).rest, ?_, noDots⟩
  rw [Nat.add_right_comm, ← List.replicate_append_replicate, List.flatten_append, ← same,
    List.append_assoc, whole]

theorem not_dots_of_head {rest : List Char} (other : ∀ c ∈ rest.head?, c ≠ '.') :
    ¬ freeSpeech.toList <+: rest := by
  rintro ⟨others, rfl⟩
  exact other '.' rfl rfl

theorem read_wildcard_eq_none {input : List Char} (other : ∀ c ∈ input.head?, c ≠ '.') :
    wildcard.read input = none :=
  Shape.read_map_eq_none _
    (Shape.read_many_eq_none (read_dots_eq_none_iff.mpr (not_dots_of_head other)))

/-! ## Scanning -/

@[simp]
theorem scan_nil (shape : Shape α) : scan shape [] = ⟨[], []⟩ := by
  simp [scan, pieces, strayRuns]

theorem pieces_of_reads {shape : Shape α} {source rest : List Char} {a : α}
    (reads : shape.Reads source rest a) :
    pieces shape (source ++ rest) = .token a source :: pieces shape rest := by
  have nonempty : source ≠ [] := (shape.split reads).2
  unfold Shape.Reads at reads
  cases source with
  | nil => exact absurd rfl nonempty
  | cons c source =>
    rw [List.cons_append] at reads ⊢
    rw [pieces]
    split
    next found read =>
      obtain rfl : found = ⟨a, c :: source, rest⟩ := by simpa [reads] using read.symm
      rfl
    next fails => simp [reads] at fails

theorem pieces_of_read_eq_none {shape : Shape α} {c : Char} {rest : List Char}
    (fails : shape.read (c :: rest) = none) :
    pieces shape (c :: rest) = (if isBlank c then .blank c else .stray c) :: pieces shape rest := by
  rw [pieces]
  split
  next found read => simp [fails] at read
  next => rfl

theorem scan_of_reads {shape : Shape α} {source rest : List Char} {a : α}
    (reads : shape.Reads source rest a) :
    scan shape (source ++ rest) = ⟨a :: (scan shape rest).tokens, (scan shape rest).rejected⟩ := by
  simp [scan, pieces_of_reads reads, Piece.value?, strayRuns]

theorem scan_of_blank {shape : Shape α} {c : Char} {rest : List Char}
    (blank : isBlank c = true) (fails : shape.read (c :: rest) = none) :
    scan shape (c :: rest) = scan shape rest := by
  have cut : pieces shape (c :: rest) = .blank c :: pieces shape rest := by
    rw [pieces_of_read_eq_none fails, if_pos blank]
  have noToken : (Piece.blank c : Piece α).value? = none := rfl
  simp [scan, cut, List.filterMap_cons_none noToken, strayRuns]

end SpokenCommand.Template
