import SpokenCommand.Proofs.Words

/-!
# Well-formed tokens

Whatever text a scanner is given, the tokens it finds are well-formed: a word or key is a non-empty
run of characters of its class, and a group has at least one key. `Shape.Yields P` says that a
shape finds only tokens with the property `P`; there is one lemma for each combinator, so the
property of a whole token language is put together in the same way as its shape.
-/

namespace SpokenCommand.Template

variable {α β : Type}

/-- The shape finds only tokens with the property `P`. -/
def Shape.Yields (s : Shape α) (P : α → Prop) : Prop :=
  ∀ ⦃input found⦄, s.read input = some found → P found.token

namespace Shape.Yields

variable {s : Shape α} {t : Shape β} {P : α → Prop} {Q : β → Prop}

/-- A run is not empty, and all of its characters are of the class. -/
theorem run (p : Char → Bool) :
    (Shape.run p).Yields fun cs => cs ≠ [] ∧ ∀ c ∈ cs, p c = true := by
  intro input found read
  obtain ⟨nonempty, rfl⟩ :
      input.takeWhile p ≠ [] ∧ ⟨input.takeWhile p, input.takeWhile p, input.dropWhile p⟩ = found := by
    simpa [Shape.run] using read
  exact ⟨nonempty, fun c member => List.all_eq_true.mp List.all_takeWhile c member⟩

theorem afterSpaces (yields : s.Yields P) : s.afterSpaces.Yields P := by
  intro input found read
  obtain ⟨inner, innerRead, rfl⟩ := Option.map_eq_some_iff.mp read
  show P inner.token
  exact yields innerRead

theorem map {f : α → β} (yields : s.Yields P) (carried : ∀ a, P a → Q (f a)) :
    (s.map f).Yields Q := by
  intro input found read
  obtain ⟨inner, innerRead, rfl⟩ := Option.map_eq_some_iff.mp read
  exact carried _ (yields innerRead)

theorem orElse {u : Shape α} (first : s.Yields P) (second : u.Yields P) :
    (s.orElse u).Yields P := by
  intro input found read
  cases firstRead : s.read input with
  | some lexeme =>
    simp only [Shape.orElse, firstRead, Option.some.injEq] at read
    exact read ▸ first firstRead
  | none =>
    simp only [Shape.orElse, firstRead] at read
    exact second read

theorem seq (first : s.Yields P) (second : t.Yields Q) :
    (s.seq t).Yields fun pair => P pair.1 ∧ Q pair.2 := by
  intro input found read
  cases firstRead : s.read input with
  | none => simp [Shape.seq, firstRead] at read
  | some front =>
    cases secondRead : t.read front.rest with
    | none => simp [Shape.seq, firstRead, secondRead] at read
    | some back =>
      simp only [Shape.seq, firstRead, secondRead, Option.some.injEq] at read
      subst read
      exact ⟨first firstRead, second secondRead⟩

/-- What follows a given character. -/
theorem behind (c : Char) (yields : t.Yields Q) : (((Shape.char c).seq t).map Prod.snd).Yields Q :=
  ((seq (P := fun _ => True) (fun _ _ _ => trivial) yields).map fun _ both => both.2)

theorem afterOptional (c : Char) (yields : t.Yields Q) : (t.afterOptional c).Yields Q :=
  orElse (behind c yields) yields

/-- Every token of a repetition has the property. -/
theorem repeated (yields : s.Yields P) (input : List Char) :
    ∀ a ∈ (s.repeated input).token, P a := by
  fun_induction Shape.repeated s input with
  | case1 input none => simp
  | case2 input first read more ih =>
    intro a member
    cases List.mem_cons.mp member with
    | inl head => exact head ▸ yields read
    | inr tail => exact ih a tail

theorem followedBy (first : s.Yields P) (more : t.Yields Q) :
    (s.followedBy t).Yields fun pair => P pair.1 ∧ ∀ b ∈ pair.2, Q b := by
  intro input found read
  cases firstRead : s.read input with
  | none => simp [Shape.followedBy, firstRead] at read
  | some front =>
    simp only [Shape.followedBy, firstRead, Option.some.injEq] at read
    subst read
    exact ⟨first firstRead, repeated more front.rest⟩

theorem many (yields : s.Yields P) : s.many.Yields fun as => as ≠ [] ∧ ∀ a ∈ as, P a := by
  intro input found read
  cases firstRead : s.read input with
  | none => simp [Shape.many, firstRead] at read
  | some front =>
    simp only [Shape.many, firstRead, Option.some.injEq] at read
    subst read
    refine ⟨by simp, fun a member => ?_⟩
    cases List.mem_cons.mp member with
    | inl head => exact head ▸ yields firstRead
    | inr tail => exact repeated yields front.rest a tail

end Shape.Yields

/-- The tokens of a template are tokens that its shape has found. -/
theorem Shape.Yields.scan {shape : Shape α} {P : α → Prop} (yields : shape.Yields P)
    (template : List Char) : ∀ t ∈ (Template.scan shape template).tokens, P t := by
  suffices cut : ∀ piece ∈ pieces shape template, ∀ t, piece.value? = some t → P t by
    intro t member
    obtain ⟨piece, pieceMember, value⟩ := List.mem_filterMap.mp member
    exact cut piece pieceMember t value
  -- Along the cutting: a token piece comes from the shape, a single character has no token.
  fun_induction pieces shape template with
  | case1 => simp
  | case2 c cs lexeme read ih =>
    intro piece member t value
    cases List.mem_cons.mp member with
    | inl head =>
      subst head
      simp only [Piece.value?, Option.some.injEq] at value
      exact value ▸ yields read
    | inr tail => exact ih piece tail t value
  | case3 c cs read ih =>
    intro piece member t value
    cases List.mem_cons.mp member with
    | inl head => by_cases blank : Text.isBlank c <;> simp [head, blank, Piece.value?] at value
    | inr tail => exact ih piece tail t value

end SpokenCommand.Template

namespace SpokenCommand.Phrase

open Template Text

/-- Words are joined by single spaces, and there is at least one; an optional word is one word. -/
def Token.WellFormed : Token → Prop
  | .words text =>
    ∃ ws : List String, ws ≠ [] ∧ (∀ w ∈ ws, Spelled isWordChar w) ∧ text = " ".intercalate ws
  | .free => True
  | .optional word => Spelled isWordChar word

/-- A phrase template scans to well-formed tokens, whatever it is. -/
theorem wellFormed_of_mem_scan (template : String) :
    ∀ t ∈ (scan template).tokens, t.WellFormed := by
  have oneWord := Shape.Yields.run isWordChar
  apply Shape.Yields.scan
  refine .orElse (oneWord.afterSpaces.many.map ?_)
    (.orElse (.map (P := fun _ => True) ?_ ?_) ((oneWord.behind '?').map ?_))
  · rintro runs ⟨nonempty, spelled⟩
    exact ⟨runs.map String.ofList, by simpa using nonempty, .of_mem_map_ofList spelled, rfl⟩
  · exact fun _ _ _ => trivial
  · exact fun _ _ => trivial
  · exact fun _ spelled => .ofList spelled

end SpokenCommand.Phrase

namespace SpokenCommand.Sentence

open Template Text

/-- Keys are spelled in key characters, and a group has at least one. -/
def Token.WellFormed : Token → Prop
  | .key k _ => Spelled isKeyChar k
  | .group ks _ => ks ≠ [] ∧ ∀ k ∈ ks, Spelled isKeyChar k
  | .free => True

theorem group_yields :
    group.Yields fun keys => keys ≠ [] ∧ ∀ cs ∈ keys, cs ≠ [] ∧ ∀ c ∈ cs, isKeyChar c = true := by
  have oneKey := Shape.Yields.run isKeyChar
  have inside := oneKey.followedBy (oneKey.afterOptional '|')
  refine .map (.seq (P := fun _ => True) (fun _ _ _ => trivial)
    (inside.seq (Q := fun _ => True) fun _ _ _ => trivial)) ?_
  rintro found ⟨-, ⟨first, more⟩, -⟩
  refine ⟨by simp, fun cs member => ?_⟩
  cases List.mem_cons.mp member with
  | inl head => exact head ▸ first
  | inr tail => exact more cs tail

/-- A sentence template scans to well-formed tokens, whatever it is. -/
theorem wellFormed_of_mem_scan (template : String) :
    ∀ t ∈ (scan template).tokens, t.WellFormed := by
  have oneKey := Shape.Yields.run isKeyChar
  have spelledKeys : ∀ keys : List (List Char),
      (keys ≠ [] ∧ ∀ cs ∈ keys, cs ≠ [] ∧ ∀ c ∈ cs, isKeyChar c = true) →
      keys.map String.ofList ≠ [] ∧ ∀ k ∈ keys.map String.ofList, Spelled isKeyChar k := by
    rintro keys ⟨nonempty, spelled⟩
    exact ⟨by simpa using nonempty, .of_mem_map_ofList spelled⟩
  apply Shape.Yields.scan
  refine .orElse ((group_yields.behind '?').map ?_) (.orElse ((oneKey.behind '?').map ?_)
    (.orElse (oneKey.map ?_) (.orElse (group_yields.map ?_) (.map (P := fun _ => True) ?_ ?_))))
  · exact spelledKeys
  · exact fun _ spelled => .ofList spelled
  · exact fun _ spelled => .ofList spelled
  · exact spelledKeys
  · exact fun _ _ _ => trivial
  · exact fun _ _ => trivial

end SpokenCommand.Sentence
