import SpokenCommand.Proofs.CursorReading
import SpokenCommand.Proofs.SentenceScanning

/-!
# The syntax of groups

A group is read exactly where one is written: keys between parentheses with single bars between them,
and perhaps one more bar at the end (`GroupForm`). The looser rule by which a bar may also be left out
between two keys describes the same texts as long as keys are read to their end, since two keys without
a bar between them would be one key (`groupForm_iff_looseGroup`).

Where reading a group fails, however late, nothing of the text is used up: a cursor is put back to where
it was, and the scanner goes on right behind the opening character (`group_reads_exactly`).
-/

namespace SpokenCommand.Template

variable {α : Type}

/-- In this text the shape reads what stands in front in the given form, and nothing else: there is at
most one such front, and where there is none the shape is not found. -/
structure Shape.ReadsExactly (s : Shape α) (form : α → List Char → Prop) (input : List Char) :
    Prop where
  found_iff : ∀ a source rest,
    s.read input = some ⟨a, source, rest⟩ ↔ source ++ rest = input ∧ form a source
  none_iff : s.read input = none ↔ ∀ a source, form a source → ¬ source <+: input
  unique : ∀ a b source other, form a source → form b other → source <+: input → other <+: input →
    a = b ∧ source = other

theorem Shape.readsExactly {s : Shape α} {form : α → List Char → Prop}
    (reads_iff : ∀ a source rest, s.Reads source rest a ↔ form a source) (input : List Char) :
    s.ReadsExactly form input where
  found_iff a source rest := by
    constructor
    · intro read
      obtain ⟨whole, reads⟩ := reads_of_read read
      exact ⟨whole, (reads_iff a source rest).mp reads⟩
    · rintro ⟨rfl, written⟩
      exact (reads_iff a source rest).mpr written
  none_iff := by
    constructor
    · rintro fails a source written ⟨rest, rfl⟩
      exact ((reads_iff a source rest).mpr written).read_ne_none fails
    · intro nothing
      cases read : s.read input with
      | none => rfl
      | some found =>
        obtain ⟨whole, reads⟩ := reads_of_read read
        exact absurd ⟨found.rest, whole⟩ (nothing _ _ ((reads_iff _ _ _).mp reads))
  unique := by
    rintro a b source other written otherWritten ⟨rest, rfl⟩ ⟨otherRest, same⟩
    -- Two forms in front of one text: the shape is a function and has read both.
    have reads : s.read (source ++ rest) = some ⟨a, source, rest⟩ :=
      (reads_iff a source rest).mpr written
    have otherReads : s.read (other ++ otherRest) = some ⟨b, other, otherRest⟩ :=
      (reads_iff b other otherRest).mpr otherWritten
    rw [same, reads, Option.some.injEq, Lexeme.mk.injEq] at otherReads
    exact ⟨otherReads.1, otherReads.2.1⟩

end SpokenCommand.Template

namespace SpokenCommand.Sentence

open Template Text

/-- Keys between parentheses with bars between them, and perhaps one more bar. -/
structure GroupForm (keys : List (List Char)) (source : List Char) : Prop where
  nonempty : keys ≠ []
  spelled : ∀ k ∈ keys, k ≠ [] ∧ ∀ c ∈ k, isKeyChar c = true
  written : ∃ bar, source = (groupText (keys.map String.ofList) bar).toList

/-- The same behind a question mark. -/
def OptionalGroupForm (keys : List (List Char)) (source : List Char) : Prop :=
  ∃ group, source = '?' :: group ∧ GroupForm keys group

/-- What follows a key by the looser rule: any number of keys, with or without a bar in front of each,
perhaps one more bar, and the closing parenthesis. Each key goes as far as key characters follow. -/
inductive LooseTail : List (List Char) → List Char → Prop
  | close (bar : Bool) : LooseTail [] (closing bar).toList
  | barred {k rest : List Char} {keys : List (List Char)}
      (spelled : k ≠ [] ∧ ∀ c ∈ k, isKeyChar c = true) (ends : Stops isKeyChar rest)
      (others : LooseTail keys rest) :
      LooseTail (k :: keys) ('|' :: (k ++ rest))
  | bare {k rest : List Char} {keys : List (List Char)}
      (spelled : k ≠ [] ∧ ∀ c ∈ k, isKeyChar c = true) (ends : Stops isKeyChar rest)
      (others : LooseTail keys rest) :
      LooseTail (k :: keys) (k ++ rest)

/-- A group by the looser rule. -/
inductive LooseGroup : List (List Char) → List Char → Prop
  | opened {k rest : List Char} {keys : List (List Char)}
      (spelled : k ≠ [] ∧ ∀ c ∈ k, isKeyChar c = true) (ends : Stops isKeyChar rest)
      (others : LooseTail keys rest) :
      LooseGroup (k :: keys) ('(' :: (k ++ rest))

/-! ## Reading -/

theorem reads_group_iff (keys : List (List Char)) (source rest : List Char) :
    group.Reads source rest keys ↔ GroupForm keys source := by
  constructor
  · intro reads
    obtain ⟨nonempty, spelled⟩ := group_yields reads
    exact ⟨nonempty, spelled, source_of_reads_group reads⟩
  · rintro ⟨nonempty, spelled, bar, rfl⟩
    have reads := reads_group (by simpa using nonempty) (.of_mem_map_ofList spelled) bar rest
    simpa [Function.comp_def] using reads

theorem reads_optionalGroup_iff (keys : List (List Char)) (source rest : List Char) :
    optionalGroup.Reads source rest keys ↔ OptionalGroupForm keys source := by
  constructor
  · intro reads
    obtain ⟨back, rfl, groupReads⟩ := Shape.Reads.of_behind reads
    exact ⟨back, rfl, (reads_group_iff keys back rest).mp groupReads⟩
  · rintro ⟨back, rfl, form⟩
    exact ((reads_group_iff keys back rest).mpr form).behind '?'

/-! ## The looser rule -/

theorem toList_groupText_map (k : List Char) (keys : List (List Char)) (bar : Bool) :
    (groupText ((k :: keys).map String.ofList) bar).toList =
      '(' :: (k ++ (keys.flatMap ('|' :: ·) ++ (closing bar).toList)) := by
  rw [List.map_cons, toList_groupText]
  simp [List.flatMap_map]

theorem LooseTail.eq_barred {keys : List (List Char)} {rest : List Char} (tail : LooseTail keys rest)
    (stops : Stops isKeyChar rest) :
    (∀ k ∈ keys, k ≠ [] ∧ ∀ c ∈ k, isKeyChar c = true) ∧
      ∃ bar, rest = keys.flatMap ('|' :: ·) ++ (closing bar).toList := by
  induction tail with
  | close bar => exact ⟨by simp, bar, rfl⟩
  | barred spelled ends _ ih =>
    obtain ⟨others, bar, rfl⟩ := ih ends
    exact ⟨List.forall_mem_cons.mpr ⟨spelled, others⟩, bar, by simp⟩
  | @bare k rest keys spelled ends _ ih =>
    -- The key in front would have gone on.
    obtain ⟨c, cs, rfl⟩ := List.exists_cons_of_ne_nil spelled.1
    have keyChar : isKeyChar c = true := spelled.2 c (by simp)
    have noKeyChar : isKeyChar c = false := stops c (by simp)
    simp [keyChar] at noKeyChar

theorem stops_barred (keys : List (List Char)) (bar : Bool) :
    Stops isKeyChar (keys.flatMap ('|' :: ·) ++ (closing bar).toList) := by
  cases keys with
  | nil => simpa using stops_closing bar []
  | cons k keys => exact stops_cons_iff.mpr (isKeyChar_of_mem_signs '|' (by simp))

theorem looseTail_barred {keys : List (List Char)}
    (spelled : ∀ k ∈ keys, k ≠ [] ∧ ∀ c ∈ k, isKeyChar c = true) (bar : Bool) :
    LooseTail keys (keys.flatMap ('|' :: ·) ++ (closing bar).toList) := by
  induction keys with
  | nil => exact .close bar
  | cons k keys ih =>
    rw [List.forall_mem_cons] at spelled
    have barred := LooseTail.barred spelled.1 (stops_barred keys bar) (ih spelled.2)
    simpa using barred

theorem groupForm_iff_looseGroup {keys : List (List Char)} {source : List Char} :
    GroupForm keys source ↔ LooseGroup keys source := by
  constructor
  · rintro ⟨nonempty, spelled, bar, rfl⟩
    obtain ⟨k, keys, rfl⟩ := List.exists_cons_of_ne_nil nonempty
    rw [List.forall_mem_cons] at spelled
    rw [toList_groupText_map]
    exact .opened spelled.1 (stops_barred keys bar) (looseTail_barred spelled.2 bar)
  · rintro ⟨spelled, ends, tail⟩
    obtain ⟨others, bar, rfl⟩ := tail.eq_barred ends
    exact ⟨by simp, List.forall_mem_cons.mpr ⟨spelled, others⟩, bar,
      (toList_groupText_map _ _ bar).symm⟩

/-! ## Giving up -/

theorem pieces_of_noGroup {cs : List Char} (fails : group.read ('(' :: cs) = none) :
    pieces token ('(' :: cs) = .stray '(' :: pieces token cs := by
  have noKey : Stops isKeyChar ('(' :: cs) :=
    stops_cons_iff.mpr (isKeyChar_of_mem_signs '(' (by simp))
  have noToken : token.read ('(' :: cs) = none :=
    read_token_eq_none (read_optional_eq_none group (by simp)) (read_optional_eq_none key (by simp))
      noKey fails (read_wildcard_eq_none (by simp))
  rw [pieces_of_read_eq_none noToken, if_neg (by decide)]

theorem read_group_of_noOptionalGroup {cs : List Char}
    (fails : optionalGroup.read ('?' :: cs) = none) : group.read cs = none := by
  cases read : group.read cs with
  | none => rfl
  | some found =>
    obtain ⟨rfl, reads⟩ := Shape.reads_of_read read
    exact absurd fails (reads.behind '?').read_ne_none

theorem pieces_of_noOptionalGroup {cs : List Char}
    (fails : optionalGroup.read ('?' :: '(' :: cs) = none) :
    pieces token ('?' :: '(' :: cs) = .stray '?' :: .stray '(' :: pieces token cs := by
  have noKey : Stops isKeyChar ('?' :: '(' :: cs) :=
    stops_cons_iff.mpr (isKeyChar_of_mem_signs '?' (by simp))
  have noKeyBehind : Stops isKeyChar ('(' :: cs) :=
    stops_cons_iff.mpr (isKeyChar_of_mem_signs '(' (by simp))
  have noOptionalKey : optionalKey.read ('?' :: '(' :: cs) = none :=
    Shape.read_map_eq_none _ (Shape.read_seq_eq_none_right (Shape.reads_char '?' ('(' :: cs))
      (Shape.read_run_eq_none_iff.mpr noKeyBehind))
  -- A plain group begins with its parenthesis, so it is not found at the question mark either.
  have noToken : token.read ('?' :: '(' :: cs) = none :=
    read_token_eq_none fails noOptionalKey noKey (read_group_eq_none (by simp))
      (read_wildcard_eq_none (by simp))
  rw [pieces_of_read_eq_none noToken, if_neg (by decide),
    pieces_of_noGroup (read_group_of_noOptionalGroup fails)]

/-- A group is found in a text exactly when one stands in front, which is then the only one, and it is
taken off as a whole; the looser rule with keys read to their end allows nothing more. An optional
group is the same behind a question mark. Read with a cursor, both move it on by their text or leave it
where it was. Where either fails, the scanner rejects the opening characters alone and goes on right
behind them. -/
theorem group_reads_exactly (input : List Char) :
    group.ReadsExactly GroupForm input ∧
    optionalGroup.ReadsExactly OptionalGroupForm input ∧
    (∀ keys source, GroupForm keys source ↔ LooseGroup keys source) ∧
    Cursor.Follows groupAt group ∧
    Cursor.Follows optionalGroupAt optionalGroup ∧
    (∀ cs, group.read ('(' :: cs) = none → pieces token ('(' :: cs) = .stray '(' :: pieces token cs) ∧
    ∀ cs, optionalGroup.read ('?' :: '(' :: cs) = none →
      pieces token ('?' :: '(' :: cs) = .stray '?' :: .stray '(' :: pieces token cs :=
  ⟨Shape.readsExactly reads_group_iff input, Shape.readsExactly reads_optionalGroup_iff input,
    fun _ _ => groupForm_iff_looseGroup, groupAt_follows, optionalGroupAt_follows,
    fun _ fails => pieces_of_noGroup fails, fun _ fails => pieces_of_noOptionalGroup fails⟩

/-- A bar at the end is taken with the group; two bars in a row are noticed behind the first key, and
then the group is given up from its beginning. -/
theorem group_reads_exactly_bars :
    let keys := ["go".toList, "stop".toList]
    let whole : Cursor := ⟨"?(go|stop|)now".toList, 1⟩
    let broken : Cursor := ⟨"?(go||stop)".toList, 1⟩
    GroupForm keys "(go|stop|)".toList ∧
      group.read whole.rest = some ⟨keys, "(go|stop|)".toList, "now".toList⟩ ∧
      groupAt whole = (some keys, { whole with position := 11 }) ∧
      groupAt broken = (none, broken) ∧
      pieces token broken.rest = .stray '(' :: pieces token "go||stop)".toList := by
  intro keys whole broken
  have checked : keys.all (fun k => !k.isEmpty && k.all isKeyChar) = true := by decide +kernel
  have spelled : ∀ k ∈ keys, k ≠ [] ∧ ∀ c ∈ k, isKeyChar c = true := by
    intro k member
    simpa using List.all_eq_true.mp checked k member
  have form : GroupForm keys "(go|stop|)".toList := ⟨by decide, spelled, true, by decide⟩
  have fails : group.read "(go||stop)".toList = none :=
    Option.isNone_iff_eq_none.mp (by decide +kernel)
  obtain ⟨reads, -, -, follows, -, goesOn, -⟩ := group_reads_exactly whole.rest
  have found := (reads.found_iff _ _ "now".toList).mpr ⟨by decide, form⟩
  refine ⟨form, found, ?_, ?_, goesOn _ fails⟩
  · rw [follows, found]
    rfl
  · have nothing : group.read broken.rest = none := fails
    rw [follows, nothing]

end SpokenCommand.Sentence
