import SpokenCommand.Proofs.SentencePrinting

/-!
# Normal spacing

A text is laid out as its characters other than spaces, with the number of spaces in front of the
first of them and behind each (`Layout`); every text has exactly one layout (`text_eq_iff`). Leaving
out spaces behind a mark changes the numbers only (`dropSpacesBehind_text`), so the two passes of
`normalize` come to one change of the layout: one space where there were any, and none behind a bar
(`normalize_tidies_layout`).
-/

namespace SpokenCommand.Sentence

/-- A character other than a space, and the number of spaces behind it. -/
structure Cell where
  char : Char
  spaces : Nat
  solid : char ≠ ' '

/-- The number of spaces in front of all characters, and the characters with the spaces behind them. -/
structure Layout where
  lead : Nat
  cells : List Cell

def Cell.text (cell : Cell) : List Char := cell.char :: List.replicate cell.spaces ' '

/-- The text that is laid out. -/
def Layout.text (layout : Layout) : List Char :=
  List.replicate layout.lead ' ' ++ layout.cells.flatMap Cell.text

/-- One space where there is any, but none behind a bar. -/
def Cell.tidied (cell : Cell) : Cell :=
  { cell with spaces := if 0 < cell.spaces ∧ cell.char ≠ '|' then 1 else 0 }

/-- The layout in normal spacing. -/
def Layout.tidied (layout : Layout) : Layout where
  lead := if 0 < layout.lead then 1 else 0
  cells := layout.cells.map Cell.tidied

/-! ## The layout of a text -/

/-- The layout of a text, from the back. -/
def Layout.ofText : List Char → Layout
  | [] => ⟨0, []⟩
  | c :: cs =>
    let behind := ofText cs
    if space : c = ' ' then ⟨behind.lead + 1, behind.cells⟩
    else ⟨0, ⟨c, behind.lead, space⟩ :: behind.cells⟩

theorem Layout.text_ofText (cs : List Char) : (ofText cs).text = cs := by
  induction cs with
  | nil => rfl
  | cons c cs ih =>
    by_cases space : c = ' '
    · simp only [ofText, space, dif_pos]
      exact congrArg (' ' :: ·) ih
    · simp only [ofText, space, dif_neg, not_false_eq_true]
      exact congrArg (c :: ·) ih

theorem Layout.ofText_spaces (count : Nat) (rest : List Char) :
    ofText (List.replicate count ' ' ++ rest) =
      ⟨(ofText rest).lead + count, (ofText rest).cells⟩ := by
  induction count with
  | zero => rfl
  | succ count ih =>
    rw [List.replicate_succ, List.cons_append, ofText, dif_pos rfl, ih]
    rfl

theorem Layout.ofText_cells (cells : List Cell) :
    ofText (cells.flatMap Cell.text) = ⟨0, cells⟩ := by
  induction cells with
  | nil => rfl
  | cons cell cells ih =>
    rw [List.flatMap_cons, Cell.text, List.cons_append, ofText, dif_neg cell.solid, ofText_spaces, ih]
    simp

/-- Every text has exactly one layout. -/
theorem Layout.text_eq_iff {layout : Layout} {cs : List Char} :
    layout.text = cs ↔ layout = ofText cs := by
  constructor
  · intro same
    rw [← same, Layout.text, ofText_spaces, ofText_cells]
    simp
  · intro same
    rw [same, text_ofText]

theorem Layout.filter_text (layout : Layout) :
    layout.text.filter (· ≠ ' ') = layout.cells.map Cell.char := by
  have noSpaces : ∀ count, (List.replicate count ' ').filter (fun c => decide (c ≠ ' ')) = [] := by
    simp
  rw [Layout.text, List.filter_append, noSpaces, List.nil_append]
  induction layout.cells with
  | nil => rfl
  | cons cell cells ih =>
    rw [List.flatMap_cons, List.filter_append, ih, Cell.text,
      List.filter_cons_of_pos (by simpa using cell.solid), noSpaces]
    rfl

theorem ne_space_of_head_cells {cells : List Cell} {c : Char}
    (head : c ∈ (cells.flatMap Cell.text).head?) : c ≠ ' ' := by
  cases cells with
  | nil => simp at head
  | cons cell cells =>
    obtain rfl : cell.char = c := by simpa [Cell.text] using head
    exact cell.solid

/-! ## One pass -/

/-- How many of the spaces in a row are kept, where `behind` says whether they stand behind the
mark. -/
def spacesKept (mark : Char) (behind : Bool) (count : Nat) : Nat :=
  if behind then 0 else if mark = ' ' then min count 1 else count

def Cell.tightened (mark : Char) (cell : Cell) : Cell :=
  { cell with spaces := spacesKept mark (cell.char == mark) cell.spaces }

def Layout.tightened (mark : Char) (layout : Layout) : Layout :=
  ⟨spacesKept mark false layout.lead, layout.cells.map (Cell.tightened mark)⟩

theorem dropSpacesBehind_of_head {mark : Char} {rest : List Char}
    (noSpace : ∀ c ∈ rest.head?, c ≠ ' ') (behind : Bool) :
    dropSpacesBehind mark behind rest = dropSpacesBehind mark false rest := by
  cases rest with
  | nil => rfl
  | cons c rest =>
    have other : (c == ' ') = false := by simpa using noSpace c (by simp)
    simp only [dropSpacesBehind, other, Bool.and_false]

theorem dropSpacesBehind_spaces (mark : Char) (behind : Bool) (count : Nat) {rest : List Char}
    (noSpace : ∀ c ∈ rest.head?, c ≠ ' ') :
    dropSpacesBehind mark behind (List.replicate count ' ' ++ rest) =
      List.replicate (spacesKept mark behind count) ' ' ++ dropSpacesBehind mark false rest := by
  induction count generalizing behind with
  | zero =>
    rw [List.replicate_zero, List.nil_append, dropSpacesBehind_of_head noSpace]
    cases behind <;> simp [spacesKept]
  | succ count ih =>
    rw [List.replicate_succ, List.cons_append]
    cases behind with
    | true =>
      -- Behind the mark every space is left out.
      exact ih true
    | false =>
      -- The first space is kept; those behind it stand behind the mark if that is a space itself.
      have kept : dropSpacesBehind mark false (' ' :: (List.replicate count ' ' ++ rest)) =
          ' ' :: dropSpacesBehind mark (' ' == mark) (List.replicate count ' ' ++ rest) := rfl
      rw [kept, ih]
      by_cases space : mark = ' '
      · subst space
        simp [spacesKept]
      · have other : (' ' == mark) = false := by simpa using Ne.symm space
        simp [spacesKept, space, other, List.replicate_succ]

theorem dropSpacesBehind_cells (mark : Char) (behind : Bool) (cells : List Cell) :
    dropSpacesBehind mark behind (cells.flatMap Cell.text) =
      (cells.map (Cell.tightened mark)).flatMap Cell.text := by
  induction cells generalizing behind with
  | nil => rfl
  | cons cell cells ih =>
    have other : (cell.char == ' ') = false := by simpa using cell.solid
    rw [List.flatMap_cons, Cell.text, List.cons_append, dropSpacesBehind, other, Bool.and_false,
      if_neg Bool.false_ne_true, dropSpacesBehind_spaces mark _ _ (fun _ => ne_space_of_head_cells), ih]
    rfl

/-- Leaving out spaces behind a mark changes how many there are, and nothing else. -/
theorem dropSpacesBehind_text (mark : Char) (layout : Layout) :
    dropSpacesBehind mark false layout.text = (layout.tightened mark).text := by
  rw [Layout.text, dropSpacesBehind_spaces mark _ _ (fun _ => ne_space_of_head_cells),
    dropSpacesBehind_cells]
  rfl

/-! ## Both passes -/

theorem spacesKept_spacesKept (behind : Bool) (count : Nat) :
    spacesKept ' ' false (spacesKept '|' behind count) =
      if 0 < count ∧ behind = false then 1 else 0 := by
  cases behind with
  | true => simp [spacesKept]
  | false => cases count <;> simp [spacesKept]

theorem Cell.tightened_tightened (cell : Cell) :
    (cell.tightened '|').tightened ' ' = cell.tidied := by
  have other : (cell.char == ' ') = false := by simpa using cell.solid
  rw [Cell.mk.injEq]
  refine ⟨rfl, ?_⟩
  show spacesKept ' ' (cell.char == ' ') (spacesKept '|' (cell.char == '|') cell.spaces) = _
  simp only [other, spacesKept_spacesKept, beq_eq_false_iff_ne, Cell.tidied]

theorem Layout.tightened_tightened (layout : Layout) :
    (layout.tightened '|').tightened ' ' = layout.tidied := by
  rw [Layout.mk.injEq]
  constructor
  · show spacesKept ' ' false (spacesKept '|' false layout.lead) = _
    simp only [spacesKept_spacesKept, and_true, Layout.tidied]
  · show (layout.cells.map (Cell.tightened '|')).map (Cell.tightened ' ') = _
    rw [List.map_map]
    exact List.map_congr_left fun cell _ => cell.tightened_tightened

theorem dropControls_eq (cs : List Char) :
    dropControls cs = cs.filter (· ∉ ['\n', '\r', '\t']) := by
  refine List.filter_congr fun c _ => ?_
  rw [Bool.eq_iff_iff]
  simp [and_assoc]

theorem toList_normalize (template : String) :
    (normalize template).toList = (Layout.ofText (dropControls template.toList)).tidied.text := by
  have laidOut := Layout.text_ofText (dropControls template.toList)
  rw [normalize, String.toList_ofList, ← laidOut, dropSpacesBehind_text, dropSpacesBehind_text,
    Layout.tightened_tightened, laidOut]

/-! ## Tidy texts -/

theorem isChain_tidied (cells : List Cell) :
    ((cells.map Cell.tidied).flatMap Cell.text).IsChain
      fun front c => c = ' ' → front ≠ ' ' ∧ front ≠ '|' := by
  induction cells with
  | nil => exact .nil
  | cons cell cells ih =>
    have noSpace : ∀ c ∈ ((cells.map Cell.tidied).flatMap Cell.text).head?, c ≠ ' ' :=
      fun _ => ne_space_of_head_cells
    rw [List.map_cons, List.flatMap_cons, Cell.text]
    by_cases spaced : 0 < cell.spaces ∧ cell.char ≠ '|'
    · -- One space is kept, behind a character that is neither a space nor a bar.
      have one : cell.tidied.spaces = 1 := if_pos spaced
      rw [one]
      refine List.isChain_cons.mpr ⟨?_, List.isChain_cons.mpr ⟨?_, ih⟩⟩
      · exact fun c head space => ⟨cell.solid, spaced.2⟩
      · exact fun c head space => absurd space (noSpace c head)
    · have none : cell.tidied.spaces = 0 := if_neg spaced
      rw [none]
      refine List.isChain_cons.mpr ⟨?_, ih⟩
      exact fun c head space => absurd space (noSpace c head)

theorem Layout.tidy_tidied {layout : Layout} {cs : List Char} (text : layout.text = dropControls cs) :
    Tidy layout.tidied.text where
  noControls c member := by
    have outside : ∀ cell ∈ layout.cells, cell.char ∉ ['\n', '\r', '\t'] := by
      intro cell inCells
      have inText : cell.char ∈ layout.text :=
        List.mem_append_right _ (List.mem_flatMap.mpr ⟨cell, inCells, List.mem_cons_self⟩)
      rw [text, dropControls_eq] at inText
      simpa using (List.mem_filter.mp inText).2
    cases List.mem_append.mp member with
    | inl inLead =>
      rw [List.eq_of_mem_replicate inLead]
      decide
    | inr inCells =>
      obtain ⟨cell, cellMember, inCell⟩ := List.mem_flatMap.mp inCells
      obtain ⟨original, originalMember, rfl⟩ := List.mem_map.mp cellMember
      cases List.mem_cons.mp inCell with
      | inl same =>
        rw [same]
        simpa [Cell.tidied] using outside original originalMember
      | inr inSpaces =>
        rw [List.eq_of_mem_replicate inSpaces]
        decide
  single := by
    -- A cell begins with its character, so a leading space meets no other.
    have noSpace : ∀ c ∈ (layout.tidied.cells.flatMap Cell.text).head?, c ≠ ' ' :=
      fun _ => ne_space_of_head_cells
    rw [Layout.text]
    by_cases spaced : 0 < layout.lead
    · have one : layout.tidied.lead = 1 := if_pos spaced
      rw [one]
      refine List.isChain_cons.mpr ⟨?_, isChain_tidied layout.cells⟩
      exact fun c head space => absurd space (noSpace c head)
    · have none : layout.tidied.lead = 0 := if_neg spaced
      rw [none]
      exact isChain_tidied layout.cells

theorem tidy_normalize (template : String) : Tidy (normalize template).toList := by
  rw [toList_normalize]
  exact Layout.tidy_tidied (Layout.text_ofText _)

/-- A template without line breaks and tabs has exactly one layout. Its normal spacing keeps the
characters other than spaces in their order, with one space where there are any and none behind a
bar. So the result has no line break, no tab, and no space behind a space or a bar; such templates are
the ones that are left as they are, and a second pass changes nothing. -/
theorem normalize_tidies_layout (template : String) :
    ∃ layout : Layout,
      (∀ other : Layout,
        other.text = template.toList.filter (· ∉ ['\n', '\r', '\t']) ↔ other = layout) ∧
      (normalize template).toList = layout.tidied.text ∧
      (normalize template).toList.filter (· ≠ ' ') = layout.cells.map Cell.char ∧
      Tidy (normalize template).toList ∧
      (normalize template = template ↔ Tidy template.toList) ∧
      normalize (normalize template) = normalize template := by
  have tidy := tidy_normalize template
  refine ⟨.ofText (dropControls template.toList), fun other => ?_, toList_normalize template, ?_, tidy,
    ⟨fun same => ?_, normalize_of_tidy⟩, normalize_of_tidy tidy⟩
  · rw [← dropControls_eq]
    exact Layout.text_eq_iff
  · rw [toList_normalize, Layout.filter_text, Layout.tidied, List.map_map]
    rfl
  · rwa [same] at tidy

/-- A tab between a bar and a space, a line break between two spaces, and spaces at both ends. -/
example : normalize "  (a |\t  b| \r| )\n  go \n " = " (a |b||) go " := by decide +kernel

end SpokenCommand.Sentence
