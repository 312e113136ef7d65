import SpokenCommand.Proofs.PhrasePrinting
import SpokenCommand.Proofs.SentencePrinting

/-!
# Reading with a cursor

A shape takes a token off the front of a text. The same can be done with a single cursor that runs
over the whole text: reading moves it on, and a reader that gives up has to put it back. `groupAt` and
`wordRunAt` read like this, one loop each, which moves the cursor before it is known whether another
key or word follows.

`Cursor.Follows` says that such a reader does what a shape says: it finds the same token, it goes on
by exactly the text in which the token stands, and where there is none it leaves the cursor where it
was. What a loop does from any turn on is said by the repetition of its shape (`moreKeysAt_eq`,
`moreWordsAt_eq`).
-/

namespace SpokenCommand.Template

variable {α : Type}

/-- A place in a text. -/
structure Cursor where
  text : List Char
  /-- How many characters are in front of the cursor. -/
  position : Nat := 0
deriving DecidableEq, Repr

namespace Cursor

/-- What is still to be read. -/
def rest (c : Cursor) : List Char := c.text.drop c.position

def reset (c : Cursor) (position : Nat) : Cursor := { c with position }

def advance (c : Cursor) (count : Nat) : Cursor := c.reset (c.position + count)

/-- Goes over a character, if it comes next. -/
def eat (c : Cursor) (expected : Char) : Bool × Cursor :=
  if c.rest.head? = some expected then (true, c.advance 1) else (false, c)

/-- Goes over a character, if it comes next, and does not ask whether it did. -/
def past (c : Cursor) (mark : Char) : Cursor := (c.eat mark).2

/-- Goes over characters of a class as long as they come next. -/
def eatWhile (c : Cursor) (p : Char → Bool) : List Char × Cursor :=
  (c.rest.takeWhile p, c.advance (c.rest.takeWhile p).length)

/-- The reader finds what the shape finds and moves on behind it, and where the shape finds nothing it
does not move. -/
def Follows (reader : Cursor → Option α × Cursor) (s : Shape α) : Prop :=
  ∀ c, reader c = match s.read c.rest with
    | some found => (some found.token, c.advance found.source.length)
    | none => (none, c)

/-! ## Moving -/

@[simp]
theorem rest_advance (c : Cursor) (count : Nat) : (c.advance count).rest = c.rest.drop count := by
  simp [rest, advance, reset, List.drop_drop]

@[simp]
theorem advance_zero (c : Cursor) : c.advance 0 = c := rfl

@[simp]
theorem advance_advance (c : Cursor) (count more : Nat) :
    (c.advance count).advance more = c.advance (count + more) := by
  simp [advance, reset, Nat.add_assoc]

@[simp]
theorem reset_advance (c : Cursor) (count position : Nat) :
    (c.advance count).reset position = c.reset position := rfl

@[simp]
theorem reset_position (c : Cursor) : c.reset c.position = c := rfl

theorem rest_of_read {s : Shape α} {c : Cursor} {found : Lexeme α} (read : s.read c.rest = some found) :
    (c.advance found.source.length).rest = found.rest := by
  rw [rest_advance, ← (s.split read).1, List.drop_left]

theorem rest_eatWhile (c : Cursor) (p : Char → Bool) : (c.eatWhile p).2.rest = c.rest.dropWhile p := by
  have behind : (c.rest.takeWhile p ++ c.rest.dropWhile p).drop (c.rest.takeWhile p).length =
      c.rest.dropWhile p := List.drop_left
  rwa [List.takeWhile_append_dropWhile, ← rest_advance] at behind

theorem eat_eq (c : Cursor) (expected : Char) :
    c.eat expected = match (Shape.char expected).read c.rest with
      | some _ => (true, c.advance 1)
      | none => (false, c) := by
  cases rest : c.rest with
  | nil => simp [eat, rest, Shape.char]
  | cons next others => by_cases same : next = expected <;> simp [eat, rest, Shape.char, same]

theorem length_rest_eat (c : Cursor) (expected : Char) :
    (c.eat expected).2.rest.length ≤ c.rest.length := by
  cases read : (Shape.char expected).read c.rest <;> simp [eat_eq, read]

section Follows

variable {reader : Cursor → Option α × Cursor} {s : Shape α} {c after : Cursor}

theorem Follows.of_some (follows : Follows reader s) {a : α} (read : reader c = (some a, after)) :
    ∃ found, s.read c.rest = some found ∧ found.token = a ∧ c.advance found.source.length = after := by
  rw [follows c] at read
  cases found : s.read c.rest with
  | none => simp [found] at read
  | some lexeme => exact ⟨lexeme, rfl, by simpa [found] using read⟩

theorem Follows.of_none (follows : Follows reader s) (read : reader c = (none, after)) :
    s.read c.rest = none ∧ c = after := by
  rw [follows c] at read
  cases found : s.read c.rest with
  | none => exact ⟨rfl, by simpa [found] using read⟩
  | some lexeme => simp [found] at read

theorem Follows.length_rest_lt (follows : Follows reader s) {a : α}
    (read : reader c = (some a, after)) : after.rest.length < c.rest.length := by
  obtain ⟨found, reads, -, rfl⟩ := follows.of_some read
  rw [rest_of_read reads]
  exact s.length_rest_lt reads

end Follows

end Cursor

/-! ## A mark that may precede -/

/-- The mark at the front of a text, or nothing. -/
def leading (mark : Char) (input : List Char) : List Char :=
  if input.head? = some mark then [mark] else []

theorem Cursor.past_eq (c : Cursor) (mark : Char) :
    c.past mark = c.advance (leading mark c.rest).length := by
  by_cases next : c.rest.head? = some mark <;> simp [past, eat, leading, next]

/-- A shape that does not begin with the mark is read behind it, if it is there. -/
theorem Shape.read_afterOptional {s : Shape α} {mark : Char}
    (noMark : ∀ rest, s.read (mark :: rest) = none) (input : List Char) :
    (s.afterOptional mark).read input =
      (s.read (input.drop (leading mark input).length)).map fun found =>
        { found with source := leading mark input ++ found.source } := by
  cases input with
  | nil => cases read : s.read [] <;> simp [afterOptional, orElse, map, seq, char, leading, read]
  | cons next rest =>
    by_cases same : next = mark
    · cases read : s.read rest <;>
        simp [afterOptional, orElse, map, seq, char, leading, same, read, noMark]
    · cases read : s.read (next :: rest) <;>
        simp [afterOptional, orElse, map, seq, char, leading, same, read]

/-! ## Runs and repetitions -/

theorem Shape.read_run_of_nil {p : Char → Bool} {input : List Char} (nothing : input.takeWhile p = []) :
    (run p).read input = none := by
  simp only [run, nothing, List.isEmpty_nil, if_true]

theorem Shape.read_run_of_cons {p : Char → Bool} {input more : List Char} {first : Char}
    (found : input.takeWhile p = first :: more) :
    (run p).read input = some ⟨first :: more, first :: more, input.dropWhile p⟩ := by
  simp only [run, found, List.isEmpty_cons, Bool.false_eq_true, if_false]

/-- One or more tokens are found unless the repetition is empty. -/
theorem Shape.read_many_eq (s : Shape α) (input : List Char) :
    s.many.read input =
      if (s.repeated input).token = [] then none else some (s.repeated input) := by
  cases first : s.read input with
  | none => simp [many, first, repeated_of_none first]
  | some found => simp [many, first, repeated_of_some first]

end SpokenCommand.Template

namespace SpokenCommand.Sentence

open Template Text

/-- A key at the cursor. -/
def keyAt (c : Cursor) : Option (List Char) × Cursor :=
  let word := c.eatWhile isKeyChar
  (if word.1.isEmpty then none else some word.1, word.2)

theorem keyAt_follows : Cursor.Follows keyAt key := by
  intro c
  cases word : c.rest.takeWhile isKeyChar with
  | nil => simp [keyAt, Cursor.eatWhile, key, word, Shape.read_run_of_nil word]
  | cons first more => simp [keyAt, Cursor.eatWhile, key, word, Shape.read_run_of_cons word]

/-- The keys of a group behind those already found; a group that is given up leads back to `start`. -/
def moreKeysAt (start : Nat) (keys : List (List Char)) (c : Cursor) :
    Option (List (List Char)) × Cursor :=
  let closing := (c.past '|').eat ')'
  if closing.1 then (some keys, closing.2)
  else
    match found : keyAt closing.2 with
    | (some next, after) => moreKeysAt start (keys ++ [next]) after
    | (none, failed) => (none, failed.reset start)
termination_by c.rest.length
decreasing_by
  exact Nat.lt_of_lt_of_le (keyAt_follows.length_rest_lt found)
    (Nat.le_trans ((c.past '|').length_rest_eat ')') (c.length_rest_eat '|'))

/-- A group at the cursor. -/
def groupAt (c : Cursor) : Option (List (List Char)) × Cursor :=
  let opening := c.eat '('
  if opening.1 then
    match keyAt opening.2 with
    | (some first, after) => moreKeysAt c.position [first] after
    | (none, failed) => (none, failed.reset c.position)
  else (none, opening.2)

/-- A group behind a question mark at the cursor. -/
def optionalGroupAt (c : Cursor) : Option (List (List Char)) × Cursor :=
  if c.rest[0]? = some '?' ∧ c.rest[1]? = some '(' then
    match groupAt (c.advance 1) with
    | (some keys, after) => (some keys, after)
    | (none, failed) => (none, failed.reset c.position)
  else (none, c)

/-! ## Keys -/

theorem read_key_sign {sign : Char} (member : sign ∈ ['?', '(', '|', ')', '.', ' '])
    (rest : List Char) : key.read (sign :: rest) = none :=
  Shape.read_run_eq_none_iff.mpr (stops_cons_iff.mpr (isKeyChar_of_mem_signs sign member))

section Turns

variable {start : Nat} {keys : List (List Char)} {c : Cursor}

theorem moreKeysAt_closed {closing : Lexeme Char}
    (closes : (Shape.char ')').read (c.past '|').rest = some closing) :
    moreKeysAt start keys c = (some keys, (c.past '|').advance 1) := by
  rw [moreKeysAt]
  simp [Cursor.eat_eq, closes]

theorem moreKeysAt_key {next : Lexeme (List Char)}
    (unclosed : (Shape.char ')').read (c.past '|').rest = none)
    (read : key.read (c.past '|').rest = some next) :
    moreKeysAt start keys c =
      moreKeysAt start (keys ++ [next.token]) ((c.past '|').advance next.source.length) := by
  have goesOn : (c.past '|').eat ')' = (false, c.past '|') := by rw [Cursor.eat_eq, unclosed]
  have found : keyAt (c.past '|') = (some next.token, (c.past '|').advance next.source.length) := by
    rw [keyAt_follows, read]
  rw [moreKeysAt]
  simp only [goesOn, Bool.false_eq_true, if_false]
  split
  next own after same =>
    simp only [goesOn, found] at same
    cases same
    rfl
  next failed same => simp [goesOn, found] at same

theorem moreKeysAt_failed (unclosed : (Shape.char ')').read (c.past '|').rest = none)
    (fails : key.read (c.past '|').rest = none) : moreKeysAt start keys c = (none, c.reset start) := by
  have goesOn : (c.past '|').eat ')' = (false, c.past '|') := by rw [Cursor.eat_eq, unclosed]
  have found : keyAt (c.past '|') = (none, c.past '|') := by rw [keyAt_follows, fails]
  rw [moreKeysAt]
  simp only [goesOn, Bool.false_eq_true, if_false]
  split
  next own after same => simp [goesOn, found] at same
  next failed same =>
    simp only [goesOn, found] at same
    cases same
    rw [Cursor.past_eq, Cursor.reset_advance]

end Turns

theorem moreKeysAt_eq (start : Nat) (keys : List (List Char)) (c : Cursor) :
    moreKeysAt start keys c =
      let more := (key.afterOptional '|').repeated c.rest
      match ((Shape.char ')').afterOptional '|').read more.rest with
      | some closing =>
        (some (keys ++ more.token), c.advance (more.source.length + closing.source.length))
      | none => (none, c.reset start) := by
  induction length : c.rest.length using Nat.strong_induction_on generalizing keys c with
  | _ count ih =>
    -- Both shapes of the loop look behind the same bar.
    have behind : (c.past '|').rest = c.rest.drop (leading '|' c.rest).length := by
      rw [Cursor.past_eq, Cursor.rest_advance]
    have noKeyBar : ∀ rest, key.read ('|' :: rest) = none := read_key_sign (by simp)
    have noClosingBar : ∀ rest, (Shape.char ')').read ('|' :: rest) = none := fun _ => rfl
    have keyBehind := Shape.read_afterOptional noKeyBar c.rest
    have closingBehind := Shape.read_afterOptional noClosingBar c.rest
    rw [← behind] at keyBehind closingBehind
    cases closes : (Shape.char ')').read (c.past '|').rest with
    | some closing =>
      obtain ⟨whole, reads⟩ := Shape.reads_of_read closes
      have parenthesis : closing.source = [')'] := reads.of_char
      have noKey : key.read (c.past '|').rest = none := by
        rw [← whole, parenthesis]
        exact read_key_sign (by simp) _
      rw [noKey] at keyBehind
      rw [closes] at closingBehind
      rw [moreKeysAt_closed closes, Shape.repeated_of_none keyBehind]
      simp [closingBehind, Cursor.past_eq, parenthesis]
    | none =>
      cases read : key.read (c.past '|').rest with
      | none =>
        rw [read] at keyBehind
        rw [closes] at closingBehind
        rw [moreKeysAt_failed closes read, Shape.repeated_of_none keyBehind]
        simp only [closingBehind, Option.map_none]
      | some next =>
        rw [read] at keyBehind
        have behindKey : ((c.past '|').advance next.source.length).rest = next.rest :=
          Cursor.rest_of_read read
        have shorter : next.rest.length < count := by
          have taken := key.length_rest_lt read
          have notLonger : (c.past '|').rest.length ≤ c.rest.length := c.length_rest_eat '|'
          omega
        rw [moreKeysAt_key closes read, ih _ shorter _ _ (by rw [behindKey]), behindKey,
          Shape.repeated_of_some keyBehind]
        simp [Cursor.past_eq, Nat.add_assoc]

theorem read_group_cons (rest : List Char) :
    group.read ('(' :: rest) = (key.read rest).bind fun first =>
      let more := (key.afterOptional '|').repeated first.rest
      (((Shape.char ')').afterOptional '|').read more.rest).map fun closing =>
        ⟨first.token :: more.token, '(' :: (first.source ++ more.source ++ closing.source),
          closing.rest⟩ := by
  have opening : (Shape.char '(').read ('(' :: rest) = some ⟨'(', ['('], rest⟩ := rfl
  cases first : key.read rest with
  | none => simp [group, Shape.map, Shape.seq, Shape.followedBy, opening, first]
  | some found =>
    cases closing : ((Shape.char ')').afterOptional '|').read
        ((key.afterOptional '|').repeated found.rest).rest <;>
      simp [group, Shape.map, Shape.seq, Shape.followedBy, opening, first, closing]

theorem groupAt_follows : Cursor.Follows groupAt group := by
  intro c
  cases opens : (Shape.char '(').read c.rest with
  | none =>
    have noGroup : group.read c.rest = none :=
      Shape.read_map_eq_none _ (Shape.read_seq_eq_none_left opens _)
    simp [groupAt, Cursor.eat_eq, opens, noGroup]
  | some opening =>
    obtain ⟨whole, reads⟩ := Shape.reads_of_read opens
    have parenthesis : opening.source = ['('] := reads.of_char
    rw [parenthesis] at whole
    have behind : (c.advance 1).rest = opening.rest := by
      rw [Cursor.rest_advance, ← whole]
      rfl
    simp only [groupAt, Cursor.eat_eq, opens, if_true, keyAt_follows (c.advance 1), behind]
    rw [← whole, List.singleton_append, read_group_cons]
    cases first : key.read opening.rest with
    | none => simp
    | some found =>
      have behindKey : ((c.advance 1).advance found.source.length).rest = found.rest :=
        Cursor.rest_of_read (by rw [behind, first])
      simp only [moreKeysAt_eq, behindKey, Option.bind_some]
      cases ((Shape.char ')').afterOptional '|').read
          ((key.afterOptional '|').repeated found.rest).rest with
      | none => simp
      | some closing =>
        simp only [Cursor.advance_advance, Option.map_some, List.singleton_append]
        congr 2
        simp only [List.length_cons, List.length_append]
        omega

theorem read_optionalGroup_cons (rest : List Char) :
    optionalGroup.read ('?' :: rest) = (group.read rest).map fun found =>
      { found with source := '?' :: found.source } := by
  have mark : (Shape.char '?').read ('?' :: rest) = some ⟨'?', ['?'], rest⟩ := rfl
  cases read : group.read rest <;> simp [optionalGroup, Shape.map, Shape.seq, mark, read]

theorem optionalGroupAt_follows : Cursor.Follows optionalGroupAt optionalGroup := by
  intro c
  cases whole : c.rest with
  | nil => simp [optionalGroupAt, whole, optionalGroup, Shape.map, Shape.seq, Shape.char]
  | cons first rest =>
    by_cases question : first = '?'
    · subst question
      have behind : (c.advance 1).rest = rest := by
        rw [Cursor.rest_advance, whole]
        rfl
      rw [read_optionalGroup_cons]
      by_cases opened : rest[0]? = some '('
      · cases read : group.read rest with
        | none => simp [optionalGroupAt, whole, opened, groupAt_follows (c.advance 1), behind, read]
        | some found =>
          simp [optionalGroupAt, whole, opened, groupAt_follows (c.advance 1), behind, read,
            Nat.add_comm]
      · have noGroup : group.read rest = none := by
          refine read_group_eq_none fun d head => ?_
          rintro rfl
          exact opened (by simpa [List.head?_eq_getElem?] using head)
        simp [optionalGroupAt, whole, opened, noGroup]
    · have noMark : optionalGroup.read (first :: rest) = none :=
        read_optional_eq_none group (by simpa using question)
      simp [optionalGroupAt, whole, question, noMark]

end SpokenCommand.Sentence

namespace SpokenCommand.Phrase

open Template Text

/-- A word at the cursor. The spaces in front of it are eaten before it is known whether there is
one. -/
def wordAt (c : Cursor) : Option (List Char) × Cursor :=
  let word := (c.eatWhile (· = ' ')).2.eatWhile isWordChar
  if word.1.isEmpty then (none, word.2.reset c.position) else (some word.1, word.2)

theorem wordAt_follows : Cursor.Follows wordAt (Shape.run isWordChar).afterSpaces := by
  intro c
  have behind : c.rest.drop (c.rest.takeWhile (· = ' ')).length = c.rest.dropWhile (· = ' ') := by
    rw [← Cursor.rest_advance]
    exact c.rest_eatWhile _
  cases word : (c.rest.dropWhile (· = ' ')).takeWhile isWordChar with
  | nil =>
    simp [wordAt, Cursor.eatWhile, behind, Shape.afterSpaces, word, Shape.read_run_of_nil word]
  | cons first more =>
    simp [wordAt, Cursor.eatWhile, behind, Shape.afterSpaces, word, Shape.read_run_of_cons word]

/-- The words behind those already found. -/
def moreWordsAt (words : List (List Char)) (c : Cursor) : List (List Char) × Cursor :=
  match found : wordAt c with
  | (some word, after) => moreWordsAt (words ++ [word]) after
  | (none, same) => (words, same)
termination_by c.rest.length
decreasing_by exact wordAt_follows.length_rest_lt found

/-- One or more words at the cursor. -/
def wordRunAt (c : Cursor) : Option (List (List Char)) × Cursor :=
  match moreWordsAt [] c with
  | ([], after) => (none, after)
  | (words, after) => (some words, after)

theorem moreWordsAt_eq (words : List (List Char)) (c : Cursor) :
    moreWordsAt words c =
      let more := (Shape.run isWordChar).afterSpaces.repeated c.rest
      (words ++ more.token, c.advance more.source.length) := by
  fun_induction moreWordsAt words c with
  | case1 words c word after found ih =>
    obtain ⟨first, read, rfl, rfl⟩ := wordAt_follows.of_some found
    rw [ih, Cursor.rest_of_read read, Shape.repeated_of_some read]
    simp
  | case2 words c same found =>
    obtain ⟨fails, rfl⟩ := wordAt_follows.of_none found
    simp [Shape.repeated_of_none fails]

/-- The last turn of the loop eats spaces and finds no word, so it gives them back. -/
theorem wordRunAt_follows : Cursor.Follows wordRunAt wordRun := by
  intro c
  have readsAll := Shape.readsAll_repeated (Shape.run isWordChar).afterSpaces c.rest
  rw [wordRunAt, moreWordsAt_eq, wordRun, Shape.read_many_eq]
  cases found : ((Shape.run isWordChar).afterSpaces.repeated c.rest).token with
  | nil =>
    rw [found] at readsAll
    have nothing := readsAll.of_nil.1
    simp [found, nothing]
  | cons first others => simp [found]

end SpokenCommand.Phrase
