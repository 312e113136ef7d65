import SpokenCommand.Proofs.Cutting
import SpokenCommand.Proofs.SentencePrinting

/-!
# The sentence scanner accounts for every character

A sentence template is cut by its script: keys and groups, with a question mark in front or not, and
free speech, each as far as it goes, and blanks and stray characters where none of these begins. The
scanner reads a token exactly in the texts it may be written in (`reads_token_iff`), so it reads the
script of sentences (`script_readBy`): its pieces are the only cut, and no key character is lost
(`scan_accounts_for_all`).

That a group is given up after any number of keys is no exception, since nothing of it is lost: its
characters are cut again one by one.
-/

namespace SpokenCommand.Sentence

open Template Text

/-- A text in which a token may be written. -/
inductive Written : Token → List Char → Prop
  | key {k : String} (optional : Bool) (spelled : Spelled isKeyChar k) :
      Written (.key k optional) (mark optional ++ k).toList
  | group {ks : List String} (optional bar : Bool) (nonempty : ks ≠ [])
      (spelled : ∀ k ∈ ks, Spelled isKeyChar k) :
      Written (.group ks optional) (mark optional ++ groupText ks bar).toList
  | free (more : Nat) : Written .free (List.replicate (more + 1) freeSpeech.toList).flatten

/-- A key goes on as long as key characters follow, free speech as long as groups of dots do. -/
def Token.EndsBefore : Token → List Char → Prop
  | .key _ _, rest => Stops isKeyChar rest
  | .group _ _, _ => True
  | .free, rest => ¬ freeSpeech.toList <+: rest

/-- How the tokens of sentences are written. -/
def script : Script Token := ⟨Written, Token.EndsBefore⟩

/-! ## Tokens in their texts -/

theorem source_of_readsAll_barredKeys {keys : List (List Char)} {source rest : List Char}
    (stops : Stops isKeyChar (source ++ rest))
    (readsAll : (key.afterOptional '|').ReadsAll source rest keys) :
    source = keys.flatMap ('|' :: ·) := by
  induction keys generalizing source with
  | nil => exact readsAll.of_nil.1
  | cons first keys ih =>
    obtain ⟨front, back, rfl, firstReads, others⟩ := readsAll.of_cons
    cases firstReads.of_afterOptional with
    | inl barred =>
      obtain ⟨own, rfl, ownReads⟩ := barred
      obtain ⟨rfl, -, -, ownStops⟩ := ownReads.of_run
      rw [ih ownStops others]
      rfl
    | inr plain =>
      -- Without a bar, the key in front would have gone on.
      obtain ⟨rfl, nonempty, spelled, -⟩ := plain.of_run
      obtain ⟨c, cs, rfl⟩ := List.exists_cons_of_ne_nil nonempty
      have keyChar : isKeyChar c = true := spelled c (by simp)
      have noKeyChar : isKeyChar c = false := stops c (by simp)
      simp [keyChar] at noKeyChar

theorem source_of_reads_closing {source rest : List Char} {found : Char}
    (reads : ((Shape.char ')').afterOptional '|').Reads source rest found) :
    ∃ bar, source = (closing bar).toList := by
  cases reads.of_afterOptional with
  | inl barred =>
    obtain ⟨back, rfl, backReads⟩ := barred
    exact ⟨true, by rw [backReads.of_char]; rfl⟩
  | inr plain => exact ⟨false, by rw [plain.of_char]; rfl⟩

theorem source_of_reads_group {keys : List (List Char)} {source rest : List Char}
    (reads : group.Reads source rest keys) :
    ∃ bar, source = (groupText (keys.map String.ofList) bar).toList := by
  obtain ⟨found, sequence, rfl⟩ := Shape.Reads.of_map reads
  obtain ⟨opening, others, rfl, openingReads, othersRead⟩ := sequence.of_seq
  obtain ⟨inside, closingSource, rfl, insideReads, closingReads⟩ := othersRead.of_seq
  obtain ⟨first, more, rfl, firstReads, moreRead⟩ := insideReads.of_followedBy
  obtain ⟨bar, rfl⟩ := source_of_reads_closing closingReads
  obtain ⟨firstFound, -, -, stops⟩ := firstReads.of_run
  refine ⟨bar, ?_⟩
  rw [List.map_cons, toList_groupText, openingReads.of_char, firstFound,
    source_of_readsAll_barredKeys stops moreRead]
  simp [List.flatMap_map]

theorem written_group_of_reads {keys : List (List Char)} {source rest : List Char}
    (reads : group.Reads source rest keys) (optional : Bool) :
    Written (.group (keys.map String.ofList) optional) ((mark optional).toList ++ source) := by
  obtain ⟨bar, rfl⟩ := source_of_reads_group reads
  obtain ⟨nonempty, spelled⟩ := group_yields reads
  rw [← String.toList_append]
  exact .group optional bar (by simpa using nonempty) (.of_mem_map_ofList spelled)

theorem written_key_of_reads {k source rest : List Char} (reads : key.Reads source rest k)
    (optional : Bool) :
    Written (.key (String.ofList k) optional) ((mark optional).toList ++ source) ∧
      Stops isKeyChar rest := by
  obtain ⟨rfl, nonempty, spelled, stops⟩ := Shape.Reads.of_run reads
  have written := Written.key optional (.ofList ⟨nonempty, spelled⟩)
  rw [String.toList_append, String.toList_ofList] at written
  exact ⟨written, stops⟩

/-- The scanner reads a token exactly in the texts it may be written in, as far as they go. -/
theorem reads_token_iff {t : Token} {source rest : List Char} :
    token.Reads source rest t ↔ Written t source ∧ t.EndsBefore rest := by
  constructor
  · intro reads
    -- The shapes in the order they are tried; that the earlier ones failed is not needed here.
    rcases reads.of_orElse with optionalGroup | reads
    · obtain ⟨keys, behind, rfl⟩ := optionalGroup.of_map
      obtain ⟨back, rfl, groupReads⟩ := behind.of_behind
      exact ⟨written_group_of_reads groupReads true, trivial⟩
    rcases reads.of_orElse with optionalKey | reads
    · obtain ⟨k, behind, rfl⟩ := optionalKey.of_map
      obtain ⟨back, rfl, keyReads⟩ := behind.of_behind
      exact written_key_of_reads keyReads true
    rcases reads.of_orElse with plainKey | reads
    · obtain ⟨k, keyReads, rfl⟩ := plainKey.of_map
      exact written_key_of_reads keyReads false
    rcases reads.of_orElse with plainGroup | free
    · obtain ⟨keys, groupReads, rfl⟩ := plainGroup.of_map
      exact ⟨written_group_of_reads groupReads false, trivial⟩
    · obtain ⟨_, dotsRead, rfl⟩ := free.of_map
      obtain ⟨more, rfl, noDots⟩ := dotsRead.of_wildcard
      exact ⟨.free more, noDots⟩
  · rintro ⟨written, ends⟩
    cases written with
    | key optional spelled => exact reads_renderedKey spelled optional ends
    | group optional bar nonempty spelled =>
      exact reads_renderedGroup nonempty spelled optional bar rest
    | free more => exact reads_renderedFree more ends

/-- Where a token is written, one is written that goes as far as it can. -/
theorem Written.extends_to_end {t : Token} {source : List Char} (written : Written t source)
    (rest : List Char) :
    ∃ longest taken left, taken ++ left = source ++ rest ∧ Written longest taken ∧
      longest.EndsBefore left := by
  cases written with
  | @key k optional spelled =>
    refine ⟨_, _, rest.dropWhile isKeyChar, ?_, .key optional (spelled.append_takeWhile rest),
      stops_dropWhile isKeyChar rest⟩
    simp
  | group optional bar nonempty spelled =>
    exact ⟨_, _, rest, rfl, .group optional bar nonempty spelled, trivial⟩
  | free more =>
    obtain ⟨count, left, same, noDots⟩ := exists_dots_end more rest
    exact ⟨.free, _, left, same, .free count, noDots⟩

theorem script_readBy : script.ReadBy token where
  reads_iff := reads_token_iff
  extends_to_end := Written.extends_to_end

/-! ## Keys -/

/-- The keys of a token. -/
def Token.keys : Token → List String
  | .key k _ => [k]
  | .group ks _ => ks
  | .free => []

theorem filter_key {k : String} (spelled : Spelled isKeyChar k) :
    k.toList.filter isKeyChar = k.toList :=
  List.filter_eq_self.mpr spelled.all

theorem filter_signs {signs : List Char} (all : ∀ c ∈ signs, c ∈ ['?', '(', '|', ')', '.', ' ']) :
    signs.filter isKeyChar = [] := by
  refine List.filter_eq_nil_iff.mpr fun c member => ?_
  simp [isKeyChar_of_mem_signs c (all c member)]

theorem filter_barredKeys {ks : List String} (spelled : ∀ k ∈ ks, Spelled isKeyChar k) :
    (ks.flatMap ('|' :: ·.toList)).filter isKeyChar = ks.flatMap String.toList := by
  induction ks with
  | nil => rfl
  | cons k ks ih =>
    rw [List.forall_mem_cons] at spelled
    have noBar : isKeyChar '|' = false := isKeyChar_of_mem_signs '|' (by simp)
    rw [List.flatMap_cons, List.filter_append, ih spelled.2, List.filter_cons_of_neg (by simp [noBar]),
      filter_key spelled.1, List.flatMap_cons]

/-- The key characters of a written token are those of its keys. -/
theorem Written.filter_isKeyChar {t : Token} {source : List Char} (written : Written t source) :
    source.filter isKeyChar = t.keys.flatMap String.toList := by
  have markOnly : ∀ optional, (mark optional).toList.filter isKeyChar = [] := by
    intro optional
    cases optional <;> exact filter_signs (by simp [mark])
  cases written with
  | key optional spelled =>
    rw [String.toList_append, List.filter_append, markOnly, filter_key spelled]
    simp [Token.keys]
  | @group ks optional bar nonempty spelled =>
    obtain ⟨k, ks, rfl⟩ := List.exists_cons_of_ne_nil nonempty
    rw [List.forall_mem_cons] at spelled
    have opening : ['('].filter isKeyChar = [] := filter_signs (by simp)
    have closed : (closing bar).toList.filter isKeyChar = [] := by
      cases bar <;> exact filter_signs (by simp [closing])
    rw [String.toList_append, List.filter_append, markOnly, toList_groupText, List.filter_append,
      List.filter_append, List.filter_append, opening, closed, filter_key spelled.1,
      filter_barredKeys spelled.2]
    simp [Token.keys]
  | free more =>
    apply filter_signs
    simp [freeSpeech]

/-- A key character alone is a key already. -/
theorem written_key_singleton {c : Char} (keyChar : isKeyChar c = true) :
    Written (.key (String.ofList [c]) false) [c] := by
  have spelled : Spelled isKeyChar (String.ofList [c]) := .ofList (by simp [keyChar])
  have written := Written.key false spelled
  rwa [String.toList_append, String.toList_ofList] at written

/-- A rejected fragment holds no key character and no free speech. -/
theorem fragment_spec {input : List Char} {ps : List (Piece Token)} (cuts : script.Cuts input ps)
    {runs : List (List Char)} (strays : StrayRuns ps runs) {run : List Char} (member : run ∈ runs) :
    (∀ c ∈ run, isKeyChar c = false) ∧ ¬ freeSpeech.toList <:+: run := by
  have alone : ∀ c, isKeyChar c = true → ∃ t, script.Written t [c] :=
    fun _ keyChar => ⟨_, written_key_singleton keyChar⟩
  have dots : script.Written .free freeSpeech.toList := Written.free 0
  exact ⟨fun _ => cuts.eq_false_of_mem alone strays member,
    cuts.not_infix strays member dots (by simp [freeSpeech])⟩

/-- Every template is cut in exactly one way into tokens as they are written, blanks and stray
characters, the latter only where no token begins. The scanner gives the tokens of these pieces, and
rejects the maximal runs of stray characters. So no rejected fragment holds a key character or free
speech, and the keys of the tokens are the key characters of the template. -/
theorem scan_accounts_for_all (template : String) :
    ∃ ps : List (Piece Token),
      (∀ qs, script.Cuts template.toList qs ↔ qs = ps) ∧
      ps.flatMap Piece.source = template.toList ∧
      (scan template).tokens = ps.filterMap Piece.value? ∧
      (∀ runs, StrayRuns ps runs ↔ runs = (scan template).rejected.map String.toList) ∧
      (∀ fragment ∈ (scan template).rejected,
        (∀ c ∈ fragment.toList, isKeyChar c = false) ∧ ¬ freeSpeech.toList <:+: fragment.toList) ∧
      ((scan template).tokens.flatMap Token.keys).flatMap String.toList =
        template.toList.filter isKeyChar := by
  have cuts := script_readBy.cuts_pieces template.toList
  refine ⟨pieces token template.toList, fun _ => script_readBy.cuts_iff, cuts.flatMap_source, rfl,
    fun _ => strayRuns_pieces_iff, fun fragment member => ?_, ?_⟩
  · exact fragment_spec cuts (strayRuns_pieces_iff.mpr rfl) (List.mem_map_of_mem member)
  · rw [List.flatMap_assoc]
    exact cuts.filter_eq (fun _ _ written => Written.filter_isKeyChar written)
      fun c keyChar => ⟨_, written_key_singleton keyChar⟩

/-- A group that is not closed is cut again character by character. -/
example : scan "?(go|stop ..... (now|)" =
    ⟨[.key "go" false, .key "stop" false, .free, .group ["now"] false], ["?(", "|", ".."]⟩ := by
  decide +kernel

end SpokenCommand.Sentence
