/-!
# Token shapes

A template is cut into tokens by trying shapes at the front of the remaining text. A `Shape` finds
one token there together with the text it stands in; its proof field says that nothing of the
input is lost and that a token is never empty, which is what lets a scanner go on behind it.

The combinators `Shape.seq`, `Shape.orElse`, `Shape.map` and `Shape.many` build the shapes of both
template languages out of single characters and runs of characters.
-/

namespace SpokenCommand.Template

/-- A token found at the front of a text, the text it stands in, and what follows. -/
structure Lexeme (τ : Type) where
  token : τ
  source : List Char
  rest : List Char

/-- A way for a token to look, tried at the front of a text. -/
structure Shape (τ : Type) where
  /-- The token at the front of the text, if it has this shape. -/
  read : List Char → Option (Lexeme τ)
  /-- A token and what follows it make up the text, and a token takes at least one character. -/
  split : ∀ {input found}, read input = some found →
    found.source ++ found.rest = input ∧ found.source ≠ []

namespace Shape

variable {α β : Type}

theorem length_rest_lt (s : Shape α) {input : List Char} {found : Lexeme α}
    (h : s.read input = some found) : found.rest.length < input.length := by
  obtain ⟨whole, nonempty⟩ := s.split h
  have positive := List.length_pos_iff.mpr nonempty
  rw [← whole, List.length_append]
  omega

/-! ## Primitive shapes -/

def char (c : Char) : Shape Char where
  read
    | [] => none
    | x :: rest => if x = c then some ⟨c, [c], rest⟩ else none
  split := by
    intro input found h
    cases input with
    | nil => simp at h
    | cons x rest =>
      by_cases same : x = c
      · simp only [same, if_true, Option.some.injEq] at h
        subst h
        simp [same]
      · simp [same] at h

/-- A maximal, non-empty run of characters of one class. -/
def run (p : Char → Bool) : Shape (List Char) where
  read input :=
    let found := input.takeWhile p
    if found.isEmpty then none else some ⟨found, found, input.dropWhile p⟩
  split := by
    intro input found h
    by_cases empty : (input.takeWhile p).isEmpty
    · simp [empty] at h
    · simp only [empty, Bool.false_eq_true, if_false, Option.some.injEq] at h
      subst h
      exact ⟨List.takeWhile_append_dropWhile, by simpa using empty⟩

/-- A token of the given shape after any number of spaces. -/
def afterSpaces (s : Shape α) : Shape α where
  read input :=
    (s.read (input.dropWhile (· = ' '))).map fun found =>
      { found with source := input.takeWhile (· = ' ') ++ found.source }
  split := by
    intro input found h
    obtain ⟨inner, innerFound, rfl⟩ := Option.map_eq_some_iff.mp h
    obtain ⟨whole, nonempty⟩ := s.split innerFound
    exact ⟨by simp [List.append_assoc, whole, List.takeWhile_append_dropWhile],
      by simp [nonempty]⟩

/-! ## Combinators -/

def map (f : α → β) (s : Shape α) : Shape β where
  read input := (s.read input).map fun found => ⟨f found.token, found.source, found.rest⟩
  split := by
    intro input found h
    obtain ⟨inner, innerFound, rfl⟩ := Option.map_eq_some_iff.mp h
    exact s.split innerFound

def orElse (s t : Shape α) : Shape α where
  read input := match s.read input with
    | some found => some found
    | none => t.read input
  split := by
    intro input found h
    cases first : s.read input with
    | some lexeme =>
      simp only [first, Option.some.injEq] at h
      exact h ▸ s.split first
    | none =>
      simp only [first] at h
      exact t.split h

/-- One shape directly behind the other. -/
def seq (s : Shape α) (t : Shape β) : Shape (α × β) where
  read input := match s.read input with
    | none => none
    | some first => match t.read first.rest with
      | none => none
      | some second =>
        some ⟨(first.token, second.token), first.source ++ second.source, second.rest⟩
  split := by
    intro input found h
    cases firstFound : s.read input with
    | none => simp [firstFound] at h
    | some first =>
      cases secondFound : t.read first.rest with
      | none => simp [firstFound, secondFound] at h
      | some second =>
        simp only [firstFound, secondFound, Option.some.injEq] at h
        subst h
        obtain ⟨firstWhole, firstNonempty⟩ := s.split firstFound
        obtain ⟨secondWhole, _⟩ := t.split secondFound
        exact ⟨by rw [List.append_assoc, secondWhole, firstWhole], by simp [firstNonempty]⟩

/-- A shape that the character `c` may precede. -/
def afterOptional (c : Char) (s : Shape α) : Shape α :=
  orElse (map Prod.snd (seq (char c) s)) s

/-! ## Repetition -/

/-- Tokens of one shape as long as they follow each other, the text they stand in, and the rest. -/
def repeated (s : Shape α) (input : List Char) : Lexeme (List α) :=
  match found : s.read input with
  | none => ⟨[], [], input⟩
  | some first =>
    let more := s.repeated first.rest
    ⟨first.token :: more.token, first.source ++ more.source, more.rest⟩
termination_by input.length
decreasing_by exact s.length_rest_lt found

/-- Repeating a shape loses nothing of the text. -/
theorem repeated_split (s : Shape α) (input : List Char) :
    (s.repeated input).source ++ (s.repeated input).rest = input := by
  fun_induction repeated s input with
  | case1 input none => simp
  | case2 input first found more ih =>
    rw [List.append_assoc, ih]
    exact (s.split found).1

/-- One or more tokens of the given shape. -/
def many (s : Shape α) : Shape (List α) where
  read input := match s.read input with
    | none => none
    | some first =>
      let more := s.repeated first.rest
      some ⟨first.token :: more.token, first.source ++ more.source, more.rest⟩
  split := by
    intro input found h
    cases firstFound : s.read input with
    | none => simp [firstFound] at h
    | some first =>
      simp only [firstFound, Option.some.injEq] at h
      subst h
      obtain ⟨whole, nonempty⟩ := s.split firstFound
      exact ⟨by rw [List.append_assoc, s.repeated_split, whole], by simp [nonempty]⟩

/-- A shape, then any number of another. -/
def followedBy (s : Shape α) (t : Shape β) : Shape (α × List β) where
  read input := match s.read input with
    | none => none
    | some first =>
      let more := t.repeated first.rest
      some ⟨(first.token, more.token), first.source ++ more.source, more.rest⟩
  split := by
    intro input found h
    cases firstFound : s.read input with
    | none => simp [firstFound] at h
    | some first =>
      simp only [firstFound, Option.some.injEq] at h
      subst h
      obtain ⟨whole, nonempty⟩ := s.split firstFound
      exact ⟨by rw [List.append_assoc, t.repeated_split, whole], by simp [nonempty]⟩

end Shape

end SpokenCommand.Template
