import Mathlib.Data.List.Infix
import SpokenCommand.Proofs.Reading

/-!
# Cutting a template into pieces

A `Script` says how the tokens of a template language are written, without reference to a scanner: in
which texts a token may stand, and in front of which texts it ends. By the script alone a text is cut
into tokens that go as far as they can, and where no token begins, into blanks and stray characters
(`Script.Cuts`).

A shape that reads tokens as the script has them (`Script.ReadBy`) makes of every text the only such
cut (`Script.ReadBy.cuts_iff`), and then nothing of the text is lost (`Script.Cuts.flatMap_source`),
no token stands inside a run of stray characters (`Script.Cuts.not_infix`), and the characters that
are tokens by themselves are all found in tokens (`Script.Cuts.filter_eq`).
-/

namespace SpokenCommand.Template

open Text

variable {τ : Type}

/-! ## Runs of stray characters -/

/-- Whether a piece is a stray character. -/
def Piece.isStray : Piece τ → Bool
  | .stray _ => true
  | _ => false

/-- The maximal runs of stray characters, in order: in front of a run are pieces of other kinds, and so
is the piece behind it. -/
inductive StrayRuns : List (Piece τ) → List (List Char) → Prop
  | none {ps : List (Piece τ)} (noStray : ∀ p ∈ ps, p.isStray = false) : StrayRuns ps []
  | run {gap ps : List (Piece τ)} {run : List Char} {runs : List (List Char)}
      (noStray : ∀ p ∈ gap, p.isStray = false) (nonempty : run ≠ [])
      (ends : ∀ p ∈ ps.head?, p.isStray = false) (others : StrayRuns ps runs) :
      StrayRuns (gap ++ run.map .stray ++ ps) (run :: runs)

theorem StrayRuns.cons {p : Piece τ} (noStray : p.isStray = false) {ps : List (Piece τ)}
    {runs : List (List Char)} (strays : StrayRuns ps runs) : StrayRuns (p :: ps) runs := by
  cases strays with
  | none others => exact .none (List.forall_mem_cons.mpr ⟨noStray, others⟩)
  | @run gap _ _ _ gapNoStray nonempty ends others =>
    have widerGap : ∀ q ∈ p :: gap, q.isStray = false :=
      List.forall_mem_cons.mpr ⟨noStray, gapNoStray⟩
    exact .run widerGap nonempty ends others

theorem StrayRuns.closed (run : List Char) {p : Piece τ} (noStray : p.isStray = false)
    {ps : List (Piece τ)} {runs : List (List Char)} (strays : StrayRuns ps runs) :
    StrayRuns (run.reverse.map .stray ++ p :: ps)
      (if run.isEmpty then runs else run.reverse :: runs) := by
  have others : StrayRuns (p :: ps) runs := strays.cons noStray
  cases run with
  | nil => exact others
  | cons c run =>
    have noGap : ∀ q ∈ ([] : List (Piece τ)), q.isStray = false := by simp
    exact .run noGap (by simp) (by simpa using noStray) others

theorem strayRuns_from (run : List Char) (ps : List (Piece τ)) :
    StrayRuns (run.reverse.map .stray ++ ps) (strayRuns run ps) := by
  -- The run being read stands in front of the remaining pieces; it grows by a stray character and
  -- is closed by any other piece.
  induction ps generalizing run with
  | nil =>
    cases run with
    | nil => exact .none (by simp)
    | cons c run =>
      have noGap : ∀ q ∈ ([] : List (Piece τ)), q.isStray = false := by simp
      exact .run noGap (by simp) (by simp) (.none (by simp))
  | cons p ps ih =>
    cases p with
    | stray c =>
      have longer := ih (c :: run)
      rw [List.reverse_cons, List.map_append, List.append_assoc] at longer
      exact longer
    | token value source => exact (ih []).closed run rfl
    | blank c => exact (ih []).closed run rfl

theorem strayRuns_skip {gap : List (Piece τ)} (noStray : ∀ p ∈ gap, p.isStray = false)
    (ps : List (Piece τ)) : strayRuns [] (gap ++ ps) = strayRuns [] ps := by
  induction gap with
  | nil => rfl
  | cons p gap ih =>
    rw [List.forall_mem_cons] at noStray
    rw [← ih noStray.2]
    cases p with
    | stray c => simp [Piece.isStray] at noStray
    | token value source => rfl
    | blank c => rfl

theorem strayRuns_map_stray (front run : List Char) (ps : List (Piece τ)) :
    strayRuns front (run.map .stray ++ ps) = strayRuns (run.reverse ++ front) ps := by
  induction run generalizing front with
  | nil => rfl
  | cons c run ih =>
    rw [List.reverse_cons, List.append_assoc]
    exact ih (c :: front)

theorem strayRuns_of_ends {run : List Char} (nonempty : run ≠ []) {ps : List (Piece τ)}
    (ends : ∀ p ∈ ps.head?, p.isStray = false) : strayRuns run ps = run.reverse :: strayRuns [] ps := by
  have unfinished : run.isEmpty = false := List.isEmpty_eq_false_iff.mpr nonempty
  cases ps with
  | nil => simp [strayRuns, unfinished]
  | cons p ps =>
    cases p with
    | stray c => simp [Piece.isStray] at ends
    | token value source => simp [strayRuns, unfinished]
    | blank c => simp [strayRuns, unfinished]

/-- The scanner rejects the maximal runs, and nothing else is a list of them. -/
theorem strayRuns_iff {ps : List (Piece τ)} {runs : List (List Char)} :
    StrayRuns ps runs ↔ runs = strayRuns [] ps := by
  constructor
  · intro strays
    -- Each run of the relation is skipped up to, taken whole, and closed by what follows it.
    induction strays with
    | @none ps noStray =>
      have skipped := strayRuns_skip noStray []
      rw [List.append_nil] at skipped
      exact skipped.symm
    | @run gap ps run runs noStray nonempty ends _ ih =>
      have someRun : run.reverse ≠ [] := by simpa using nonempty
      rw [List.append_assoc, strayRuns_skip noStray, strayRuns_map_stray, List.append_nil,
        strayRuns_of_ends someRun ends, List.reverse_reverse, ← ih]
  · rintro rfl
    exact strayRuns_from [] ps

theorem strayRuns_pieces_iff {shape : Shape τ} {input : List Char} {runs : List (List Char)} :
    StrayRuns (pieces shape input) runs ↔ runs = (scan shape input).rejected.map String.toList := by
  have rejected : (scan shape input).rejected.map String.toList =
      strayRuns [] (pieces shape input) := by
    simp [scan, Function.comp_def]
  rw [rejected]
  exact strayRuns_iff

theorem StrayRuns.exists_of_mem {ps : List (Piece τ)} {runs : List (List Char)}
    (strays : StrayRuns ps runs) {run : List Char} (member : run ∈ runs) :
    ∃ before behind, ps = before ++ run.map .stray ++ behind := by
  induction strays with
  | none => cases member
  | @run gap ps own runs _ _ _ _ ih =>
    cases member with
    | head => exact ⟨gap, ps, rfl⟩
    | tail _ later =>
      obtain ⟨before, behind, rfl⟩ := ih later
      exact ⟨gap ++ own.map .stray ++ before, behind, by simp⟩

/-! ## Scripts -/

/-- How the tokens of a language are written. -/
structure Script (τ : Type) where
  /-- A text in which a token may be written. -/
  Written : τ → List Char → Prop
  /-- The token does not go on in the text behind it. -/
  EndsBefore : τ → List Char → Prop

namespace Script

variable {script : Script τ} {shape : Shape τ} {input : List Char} {ps : List (Piece τ)}

/-- A token is written at the front of the text. -/
def Begins (script : Script τ) (input : List Char) : Prop :=
  ∃ t source, script.Written t source ∧ source <+: input

/-- The text is cut into pieces: tokens that go as far as they can, and where no token begins, a
blank or a stray character. -/
inductive Cuts (script : Script τ) : List Char → List (Piece τ) → Prop
  | nil : Cuts script [] []
  | token {t : τ} {source rest : List Char} {ps : List (Piece τ)} :
      script.Written t source → script.EndsBefore t rest → Cuts script rest ps →
      Cuts script (source ++ rest) (.token t source :: ps)
  | blank {c : Char} {rest : List Char} {ps : List (Piece τ)} :
      isBlank c = true → ¬ script.Begins (c :: rest) → Cuts script rest ps →
      Cuts script (c :: rest) (.blank c :: ps)
  | stray {c : Char} {rest : List Char} {ps : List (Piece τ)} :
      isBlank c = false → ¬ script.Begins (c :: rest) → Cuts script rest ps →
      Cuts script (c :: rest) (.stray c :: ps)

/-- The shape reads a token exactly in the texts it may be written in, as far as they go; and where
a token is written, one is written that goes as far as it can. -/
structure ReadBy (script : Script τ) (shape : Shape τ) : Prop where
  reads_iff : ∀ {t : τ} {source rest : List Char},
    shape.Reads source rest t ↔ script.Written t source ∧ script.EndsBefore t rest
  extends_to_end : ∀ {t : τ} {source : List Char}, script.Written t source → ∀ rest,
    ∃ longest taken left, taken ++ left = source ++ rest ∧ script.Written longest taken ∧
      script.EndsBefore longest left

/-! ## The only cut -/

/-- The shape finds no token exactly where none is written. -/
theorem ReadBy.read_eq_none_iff (readBy : script.ReadBy shape) :
    shape.read input = none ↔ ¬ script.Begins input := by
  constructor
  · intro fails begins
    obtain ⟨t, source, written, rest, rfl⟩ := begins
    -- What is written may go on; the shape reads it to its end, which is a token as well.
    obtain ⟨longest, taken, left, same, takenWritten, ends⟩ := readBy.extends_to_end written rest
    rw [← same] at fails
    exact (readBy.reads_iff.mpr ⟨takenWritten, ends⟩).read_ne_none fails
  · intro noToken
    cases read : shape.read input with
    | none => rfl
    | some found =>
      obtain ⟨whole, reads⟩ := Shape.reads_of_read read
      have written := (readBy.reads_iff.mp reads).1
      exact absurd ⟨found.token, found.source, written, found.rest, whole⟩ noToken

theorem ReadBy.cuts_pieces (readBy : script.ReadBy shape) (input : List Char) :
    script.Cuts input (pieces shape input) := by
  fun_induction pieces shape input with
  | case1 => exact .nil
  | case2 c cs lexeme read ih =>
    obtain ⟨whole, reads⟩ := Shape.reads_of_read read
    obtain ⟨written, ends⟩ := readBy.reads_iff.mp reads
    rw [← whole]
    exact .token written ends ih
  | case3 c cs fails ih =>
    have noToken := readBy.read_eq_none_iff.mp fails
    cases blank : isBlank c with
    | true => exact .blank blank noToken ih
    | false => exact .stray blank noToken ih

/-- There is one way to cut a text, which is the scanner's. -/
theorem ReadBy.cuts_iff (readBy : script.ReadBy shape) :
    script.Cuts input ps ↔ ps = pieces shape input := by
  constructor
  · intro cuts
    -- The conditions of each piece leave the scanner no other step.
    induction cuts with
    | nil => rw [pieces]
    | @token t source rest ps written ends _ ih =>
      rw [ih]
      exact (pieces_of_reads (readBy.reads_iff.mpr ⟨written, ends⟩)).symm
    | blank blank noToken _ ih =>
      rw [pieces_of_read_eq_none (readBy.read_eq_none_iff.mpr noToken), if_pos blank, ih]
    | stray noBlank noToken _ ih =>
      rw [pieces_of_read_eq_none (readBy.read_eq_none_iff.mpr noToken), if_neg (by simp [noBlank]), ih]
  · intro same
    rw [same]
    exact readBy.cuts_pieces input

/-! ## What a cut keeps -/

theorem Cuts.flatMap_source (cuts : script.Cuts input ps) : ps.flatMap Piece.source = input := by
  induction cuts with
  | nil => rfl
  | token _ _ _ ih => rw [List.flatMap_cons, ih, Piece.source]
  | blank _ _ _ ih | stray _ _ _ ih => rw [List.flatMap_cons, ih, Piece.source]; rfl

theorem Cuts.drop {front back : List (Piece τ)} (cuts : script.Cuts input (front ++ back)) :
    script.Cuts (back.flatMap Piece.source) back := by
  induction front generalizing input with
  | nil =>
    have whole := cuts.flatMap_source
    rw [List.nil_append] at cuts whole
    rw [whole]
    exact cuts
  | cons p front ih =>
    rw [List.cons_append] at cuts
    cases cuts with
    | token _ _ rest => exact ih rest
    | blank _ _ rest => exact ih rest
    | stray _ _ rest => exact ih rest

theorem Cuts.not_begins_of_stray {c : Char} (cuts : script.Cuts input (.stray c :: ps)) :
    ¬ script.Begins input := by
  cases cuts with
  | stray _ noToken _ => exact noToken

/-- No token stands inside a run of stray characters. -/
theorem Cuts.not_infix (cuts : script.Cuts input ps) {runs : List (List Char)}
    (strays : StrayRuns ps runs) {run : List Char} (member : run ∈ runs) {t : τ} {source : List Char}
    (written : script.Written t source) (nonempty : source ≠ []) : ¬ source <:+: run := by
  intro inRun
  obtain ⟨front, back, rfl⟩ := inRun
  obtain ⟨before, behind, rfl⟩ := strays.exists_of_mem member
  obtain ⟨c, cs, rfl⟩ := List.exists_cons_of_ne_nil nonempty
  -- Behind the pieces in front of it the text is cut as before, and there the token would begin.
  have apart : before ++ (front ++ c :: cs ++ back).map Piece.stray ++ behind =
      (before ++ front.map .stray) ++ (.stray c :: ((cs ++ back).map .stray ++ behind)) := by simp
  rw [apart] at cuts
  have sources : ((cs ++ back).map (Piece.stray : Char → Piece τ)).flatMap Piece.source =
      cs ++ back := by
    simp only [List.flatMap_map, Piece.source, List.flatMap_singleton']
  have noToken := cuts.drop.not_begins_of_stray
  rw [List.flatMap_cons, List.flatMap_append, sources] at noToken
  exact noToken ⟨t, c :: cs, written, back ++ behind.flatMap Piece.source, by simp [Piece.source]⟩

/-- Where each character of a class is a token by itself, no run of stray characters holds one. -/
theorem Cuts.eq_false_of_mem (cuts : script.Cuts input ps) {p : Char → Bool}
    (alone : ∀ c, p c = true → ∃ t, script.Written t [c]) {runs : List (List Char)}
    (strays : StrayRuns ps runs) {run : List Char} (member : run ∈ runs) {c : Char}
    (inRun : c ∈ run) : p c = false := by
  cases inside : p c with
  | false => rfl
  | true =>
    obtain ⟨t, single⟩ := alone c inside
    have apart := cuts.not_infix strays member single (by simp)
    exact absurd ((List.singleton_infix_iff c run).mpr inRun) apart

/-- Where each character of a class is a token by itself, those of the text are the ones in its
tokens. -/
theorem Cuts.filter_eq (cuts : script.Cuts input ps) {p : Char → Bool} {letters : τ → List Char}
    (written : ∀ t source, script.Written t source → source.filter p = letters t)
    (alone : ∀ c, p c = true → ∃ t, script.Written t [c]) :
    (ps.filterMap Piece.value?).flatMap letters = input.filter p := by
  -- A character of the class would begin a token, so no blank or stray piece holds one.
  have outside : ∀ c rest, ¬ script.Begins (c :: rest) → ¬ p c = true := by
    intro c rest noToken inside
    obtain ⟨t, single⟩ := alone c inside
    exact noToken ⟨t, [c], single, rest, rfl⟩
  induction cuts with
  | nil => rfl
  | @token t source rest ps tokenWritten _ _ ih =>
    have value : (Piece.token t source).value? = some t := rfl
    rw [List.filterMap_cons_some value, List.flatMap_cons, ih, List.filter_append,
      written t source tokenWritten]
  | @blank c rest ps _ noToken _ ih =>
    have value : (Piece.blank c : Piece τ).value? = none := rfl
    rw [List.filterMap_cons_none value, ih, List.filter_cons_of_neg (outside c rest noToken)]
  | @stray c rest ps _ noToken _ ih =>
    have value : (Piece.stray c : Piece τ).value? = none := rfl
    rw [List.filterMap_cons_none value, ih, List.filter_cons_of_neg (outside c rest noToken)]

end Script

end SpokenCommand.Template
