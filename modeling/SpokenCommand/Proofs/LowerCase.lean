import SpokenCommand.Proofs.Words
import SpokenCommand.Text.Case

/-!
# Lower case is final

No small letter of the table is itself a capital of the table, and none is a blank
(`smallCodes_apart`). So whatever lower case writes, it would leave as it is wherever it stood
(`settled_of_mem_lowerFrom`): the two sigmas and the two characters of `İ` included, although the
choice between the sigmas looks at what is around them. Lower case is therefore idempotent
(`lowercase_lowercase`), and it turns a word into a word (`Spelled.lowercase`).
-/

namespace SpokenCommand.Text

/-! ## Large tables -/

/-- Code points as the bits of a number, so that two tables are compared at once. -/
def bits : List Nat → Nat
  | [] => 0
  | code :: codes => 1 <<< code ||| bits codes

theorem testBit_bits {codes : List Nat} {code : Nat} :
    (bits codes).testBit code = true ↔ code ∈ codes := by
  induction codes with
  | nil => simp [bits]
  | cons first codes ih =>
    rw [bits, Nat.testBit_or, Bool.or_eq_true, ih, Nat.one_shiftLeft, Nat.testBit_two_pow,
      decide_eq_true_eq, List.mem_cons, eq_comm]

/-- Tables without a common bit have no common member. -/
theorem notMem_of_bits {codes others : List Nat} (apart : bits codes &&& bits others = 0) :
    ∀ code ∈ codes, code ∉ others := by
  intro code member inOthers
  have common : (bits codes &&& bits others).testBit code = true := by
    rw [Nat.testBit_and, testBit_bits.mpr member, testBit_bits.mpr inOthers]
    rfl
  simp [apart] at common

/-! ## The table -/

-- The proofs below go by the members of the table; unfolding it would only exhaust the unifier.
attribute [local irreducible] lowerRuns

theorem findRun_succ (code fuel lo hi : Nat) :
    findRun code (fuel + 1) lo hi =
      if lo < hi then
        match lowerRuns[(lo + hi) / 2]? with
        | none => none
        | some run =>
          if code < run.first then findRun code fuel lo ((lo + hi) / 2)
          else if run.last < code then findRun code fuel ((lo + hi) / 2 + 1) hi
          else if (code - run.first) % run.step = 0 then some run else none
      else none := (rfl)

theorem lowerChar_eq (c : Char) :
    lowerChar c =
      match findRun c.toNat lowerRuns.size 0 lowerRuns.size with
      | none => c
      | some run => Char.ofNat (c.toNat + run.offset).toNat := (rfl)

/-- The code points of a run. -/
def CaseRun.codes (run : CaseRun) : List Nat :=
  List.range' run.first ((run.last - run.first) / run.step + 1) run.step

/-- The code points of the characters that the table changes. -/
def capitalCodes : List Nat := lowerRuns.toList.flatMap CaseRun.codes

/-- The code points of the small letters of the table. -/
def smallCodes : List Nat :=
  lowerRuns.toList.flatMap fun run =>
    run.codes.map fun (code : Nat) => (Char.ofNat (code + run.offset).toNat).toNat

/-- A small letter is no capital, not `İ` either, and no blank. -/
theorem smallCodes_apart : ∀ code ∈ smallCodes, code ∉ 'İ'.toNat :: (blankCodes ++ capitalCodes) :=
  notMem_of_bits (by decide +kernel)

theorem CaseRun.mem_codes {run : CaseRun} {code : Nat} (above : run.first ≤ code)
    (below : code ≤ run.last) (inStep : (code - run.first) % run.step = 0) : code ∈ run.codes := by
  rw [codes, List.mem_range']
  refine ⟨(code - run.first) / run.step, ?_, ?_⟩
  · have bound := Nat.div_le_div_right (c := run.step) (Nat.sub_le_sub_right below run.first)
    omega
  · have whole := Nat.div_add_mod (code - run.first) run.step
    omega

/-- What the halving finds is a run of the table that holds the code point. -/
theorem mem_codes_of_findRun {code fuel lo hi : Nat} {run : CaseRun}
    (found : findRun code fuel lo hi = some run) : run ∈ lowerRuns.toList ∧ code ∈ run.codes := by
  induction fuel generalizing lo hi with
  | zero => contradiction
  | succ fuel ih =>
    rw [findRun_succ] at found
    by_cases inside : lo < hi
    · simp only [inside, if_true] at found
      cases there : lowerRuns[(lo + hi) / 2]? with
      | none => simp [there] at found
      | some middle =>
        simp only [there] at found
        by_cases before : code < middle.first
        · simp only [before, if_true] at found
          exact ih found
        by_cases behind : middle.last < code
        · simp only [before, behind, if_true, if_false] at found
          exact ih found
        obtain ⟨inStep, rfl⟩ : (code - middle.first) % middle.step = 0 ∧ middle = run := by
          simpa [before, behind] using found
        exact ⟨Array.mem_toList_iff.mpr (Array.mem_of_getElem? there),
          CaseRun.mem_codes (by omega) (by omega) inStep⟩
    · simp [inside] at found

/-! ## One character -/

/-- A character that lower case leaves as it is, whatever stands around it. -/
structure Settled (c : Char) : Prop where
  notSigma : c ≠ 'Σ'
  notDotted : c ≠ 'İ'
  fixed : lowerChar c = c

/-- The table changes a capital into one of its small letters, and no other character. -/
theorem lowerChar_cases (c : Char) :
    lowerChar c = c ∨ c.toNat ∈ capitalCodes ∧ (lowerChar c).toNat ∈ smallCodes := by
  cases found : findRun c.toNat lowerRuns.size 0 lowerRuns.size with
  | none => exact .inl (by rw [lowerChar_eq, found])
  | some run =>
    obtain ⟨inTable, inRun⟩ := mem_codes_of_findRun found
    refine .inr ⟨List.mem_flatMap.mpr ⟨run, inTable, inRun⟩, ?_⟩
    rw [lowerChar_eq, found]
    exact List.mem_flatMap.mpr ⟨run, inTable, List.mem_map_of_mem inRun⟩

theorem settled_of_mem_smallCodes {c : Char} (small : c.toNat ∈ smallCodes) :
    Settled c ∧ isBlank c = false := by
  -- The small letters of the table are no capitals of it, no blanks, and not `İ`.
  have apart := smallCodes_apart c.toNat small
  simp only [List.mem_cons, List.mem_append, not_or] at apart
  obtain ⟨notDotted, notBlank, noCapital⟩ := apart
  have sigma : 'Σ'.toNat ∈ capitalCodes := testBit_bits.mp (by decide +kernel)
  have fixed : lowerChar c = c :=
    (lowerChar_cases c).resolve_right fun changed => noCapital changed.1
  refine ⟨⟨?_, ?_, fixed⟩, ?_⟩
  · rintro rfl
    exact noCapital sigma
  · rintro rfl
    exact notDotted rfl
  · cases blank : isBlank c with
    | false => rfl
    | true => exact absurd (toNat_mem_blankCodes blank) notBlank

/-! ## Whole words -/

/-- The characters of lower case: those it writes for `Σ` and `İ`, and what the table makes of the
others. -/
theorem mem_lowerFrom {before cs : List Char} {d : Char} (member : d ∈ lowerFrom before cs) :
    d ∈ ['ς', 'σ', 'i', '\u0307'] ∨ ∃ c ∈ cs, c ≠ 'Σ' ∧ c ≠ 'İ' ∧ lowerChar c = d := by
  induction cs generalizing before with
  | nil => simp [lowerFrom] at member
  | cons c cs ih =>
    -- Behind the first character all three cases go on in the same way.
    have later : d ∈ lowerFrom (c :: before) cs →
        d ∈ ['ς', 'σ', 'i', '\u0307'] ∨ ∃ e ∈ c :: cs, e ≠ 'Σ' ∧ e ≠ 'İ' ∧ lowerChar e = d := by
      intro inRest
      rcases ih inRest with written | ⟨e, inside, others⟩
      · exact .inl written
      · exact .inr ⟨e, by simp [inside], others⟩
    by_cases sigma : c = 'Σ'
    · rw [lowerFrom, if_pos sigma] at member
      rcases List.mem_cons.mp member with here | inRest
      · left
        split at here <;> simp [here]
      · exact later inRest
    by_cases dotted : c = 'İ'
    · rw [lowerFrom, if_neg sigma, if_pos dotted] at member
      rcases List.mem_cons.mp member with first | member
      · exact .inl (by simp [first])
      rcases List.mem_cons.mp member with second | inRest
      · exact .inl (by simp [second])
      · exact later inRest
    · rw [lowerFrom, if_neg sigma, if_neg dotted] at member
      rcases List.mem_cons.mp member with here | inRest
      · exact .inr ⟨c, by simp, sigma, dotted, here.symm⟩
      · exact later inRest

theorem settled_written : ∀ d ∈ ['ς', 'σ', 'i', '\u0307'], Settled d ∧ isBlank d = false := by
  have checked : ∀ d ∈ ['ς', 'σ', 'i', '\u0307'],
      d ≠ 'Σ' ∧ d ≠ 'İ' ∧ lowerChar d = d ∧ isBlank d = false :=
    List.all_iff_forall_prop.mp (by decide +kernel)
  intro d member
  obtain ⟨notSigma, notDotted, fixed, noBlank⟩ := checked d member
  exact ⟨⟨notSigma, notDotted, fixed⟩, noBlank⟩

/-- Whatever lower case writes is settled. -/
theorem settled_of_mem_lowerFrom {before cs : List Char} {d : Char}
    (member : d ∈ lowerFrom before cs) : Settled d := by
  rcases mem_lowerFrom member with written | ⟨c, -, notSigma, notDotted, rfl⟩
  · exact (settled_written d written).1
  · rcases lowerChar_cases c with unchanged | ⟨-, small⟩
    · rw [unchanged]
      exact ⟨notSigma, notDotted, unchanged⟩
    · exact (settled_of_mem_smallCodes small).1

/-- Lower case makes no blank out of another character. -/
theorem noBlank_of_mem_lowerFrom {before cs : List Char} (noBlank : ∀ c ∈ cs, isBlank c = false)
    {d : Char} (member : d ∈ lowerFrom before cs) : isBlank d = false := by
  rcases mem_lowerFrom member with written | ⟨c, inside, -, -, rfl⟩
  · exact (settled_written d written).2
  · rcases lowerChar_cases c with unchanged | ⟨-, small⟩
    · rw [unchanged]
      exact noBlank c inside
    · exact (settled_of_mem_smallCodes small).2

theorem lowerFrom_of_settled (before : List Char) {cs : List Char} (settled : ∀ c ∈ cs, Settled c) :
    lowerFrom before cs = cs := by
  induction cs generalizing before with
  | nil => rfl
  | cons c cs ih =>
    rw [List.forall_mem_cons] at settled
    obtain ⟨⟨notSigma, notDotted, fixed⟩, others⟩ := settled
    rw [lowerFrom, if_neg notSigma, if_neg notDotted, fixed, ih _ others]

/-- Lower case changes nothing in what it has written. -/
theorem lowercase_lowercase (s : String) : lowercase (lowercase s) = lowercase s := by
  rw [lowercase, lowercase, String.toList_ofList,
    lowerFrom_of_settled [] fun c member => settled_of_mem_lowerFrom member]

theorem lowerFrom_ne_nil (before : List Char) {cs : List Char} (nonempty : cs ≠ []) :
    lowerFrom before cs ≠ [] := by
  obtain ⟨c, cs, rfl⟩ := List.exists_cons_of_ne_nil nonempty
  rw [lowerFrom]
  split
  · simp
  · split <;> simp

/-- A word stays a word. -/
theorem Spelled.lowercase {w : String} (spelled : Spelled (fun c => !isBlank c) w) :
    Spelled (fun c => !isBlank c) (lowercase w) := by
  have nonempty : w.toList ≠ [] := by simpa using spelled.nonempty
  have noBlank : ∀ c ∈ w.toList, isBlank c = false := fun c member => by
    simpa using spelled.all c member
  refine .ofList ⟨lowerFrom_ne_nil [] nonempty, fun d member => ?_⟩
  simpa using noBlank_of_mem_lowerFrom noBlank member

/-- The sigma in front of a mark still ends its word. -/
example : lowercase "ΟΔΌΣ." = "οδός." ∧ lowercase "Σ İΣΑ" = "σ i̇σα" := by decide +kernel

end SpokenCommand.Text
