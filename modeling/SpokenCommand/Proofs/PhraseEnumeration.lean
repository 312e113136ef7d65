import Mathlib.Algebra.Group.Nat.Even
import Mathlib.Data.List.Chain
import SpokenCommand.Proofs.Meaning

/-!
# The order of a phrase's texts

The texts of a list of tokens are numbered by bit masks: the optional token number `i` is left out
where bit `i` of the mask is set (`expand_eq`). Each optional token doubles the list, and the second
half, which is without the token, is the half whose numbers have the next bit (`foldl_widen_eq`).

The tokens of a template have texts without spaces at their ends, so gluing them is joining them with
single spaces (`gluedTo_eq_intercalate`), and only the mask that leaves out everything gives the empty
text.
-/

namespace SpokenCommand.Text

/-- A text that is not empty and has no leading, trailing or double space. -/
structure SingleSpaced (s : String) : Prop where
  nonempty : s ≠ ""
  leading : ∀ c ∈ s.toList.head?, c ≠ ' '
  trailing : ∀ c ∈ s.toList.getLast?, c ≠ ' '
  double : s.toList.IsChain fun front c => ¬(front = ' ' ∧ c = ' ')

theorem Spelled.singleSpaced {p : Char → Bool} (outside : p ' ' = false) {s : String}
    (spelled : Spelled p s) : SingleSpaced s := by
  have noSpace : ∀ c ∈ s.toList, c ≠ ' ' := by
    rintro c member rfl
    exact spelled.notMem outside member
  refine ⟨spelled.nonempty, fun c head => ?_, fun c last => ?_, ?_⟩
  · exact noSpace c (List.mem_of_mem_head? head)
  · exact noSpace c (List.mem_of_getLast? last)
  · apply List.Pairwise.isChain
    apply List.pairwise_of_forall_mem_list
    intro front frontMember c _ both
    exact noSpace front frontMember both.1

theorem SingleSpaced.append {front back : String} (frontSpaced : SingleSpaced front)
    (backSpaced : SingleSpaced back) : SingleSpaced (front ++ " " ++ back) := by
  have someFront : front.toList ≠ [] := by simpa using frontSpaced.nonempty
  have someBack : back.toList ≠ [] := by simpa using backSpaced.nonempty
  have chars : (front ++ " " ++ back).toList = front.toList ++ ' ' :: back.toList := by simp
  refine ⟨by simp [frontSpaced.nonempty], fun c head => ?_, fun c last => ?_, ?_⟩
  · rw [chars, List.head?_append_of_ne_nil _ someFront] at head
    exact frontSpaced.leading c head
  · rw [chars, List.getLast?_append_of_ne_nil _ (by simp), List.getLast?_cons_of_ne_nil someBack] at last
    exact backSpaced.trailing c last
  · rw [chars]
    -- A double space could only arise on one side of the space between them.
    refine List.isChain_append.mpr ⟨frontSpaced.double, List.isChain_cons.mpr ⟨?_, backSpaced.double⟩, ?_⟩
    · intro c head both
      exact backSpaced.leading c head both.2
    · intro c last d _ both
      exact frontSpaced.trailing c last both.1

theorem singleSpaced_intercalate {ss : List String} (nonempty : ss ≠ [])
    (spaced : ∀ s ∈ ss, SingleSpaced s) : SingleSpaced (" ".intercalate ss) := by
  induction ss with
  | nil => exact absurd rfl nonempty
  | cons s ss ih =>
    rw [List.forall_mem_cons] at spaced
    cases ss with
    | nil => simpa using spaced.1
    | cons next ss =>
      rw [String.intercalate_cons_cons]
      exact spaced.1.append (ih (by simp) spaced.2)

end SpokenCommand.Text

namespace SpokenCommand.Phrase

open Text

/-- The tokens that a bit mask keeps, where the next optional token has the given bit: all but the
optional ones whose bit is set. -/
def keptFrom (bit mask : Nat) : List Token → List Token
  | [] => []
  | t :: ts =>
    if t.isOptional then
      if mask.testBit bit then keptFrom (bit + 1) mask ts else t :: keptFrom (bit + 1) mask ts
    else t :: keptFrom bit mask ts

/-- The tokens that a bit mask keeps. -/
def kept (mask : Nat) (ts : List Token) : List Token := keptFrom 0 mask ts

/-- How many tokens may be left out. -/
def optionalCount (ts : List Token) : Nat := ts.countP Token.isOptional

/-! ## One more token -/

theorem widen_optional {t : Token} (optional : t.isOptional = true) (f : Nat → String) (bits : Nat) :
    widen ((List.range (2 ^ bits)).map f) t =
      (List.range (2 ^ (bits + 1))).map fun j =>
        if j.testBit bits then f (j % 2 ^ bits) else glue (f (j % 2 ^ bits)) t.text := by
  rw [widen, if_pos optional, List.map_map, Nat.pow_succ, Nat.mul_two, List.range_add,
    List.map_append, List.map_map]
  -- The first half, where the bit is not set, has the token; the second half is without it.
  congr 1
  · apply List.map_congr_left
    intro j member
    have bound : j < 2 ^ bits := List.mem_range.mp member
    simp [Nat.testBit_lt_two_pow bound, Nat.mod_eq_of_lt bound]
  · apply List.map_congr_left
    intro j member
    have bound : j < 2 ^ bits := List.mem_range.mp member
    simp [Nat.testBit_two_pow_add_eq, Nat.testBit_lt_two_pow bound, Nat.mod_eq_of_lt bound]

theorem widen_mandatory {t : Token} (mandatory : t.isOptional = false) (variants : List String) :
    widen variants t = variants.map (glue · t.text) := by simp [widen, mandatory]

/-- The index law behind any list that the first optional tokens have made: the bits of a number that
they used index that list, and the following ones choose among the tokens to come. -/
theorem foldl_widen_eq (ts : List Token) (f : Nat → String) (bits : Nat) :
    ts.foldl widen ((List.range (2 ^ bits)).map f) =
      (List.range (2 ^ (bits + optionalCount ts))).map fun j =>
        gluedTo (f (j % 2 ^ bits)) (keptFrom bits j ts) := by
  induction ts generalizing f bits with
  | nil =>
    apply List.map_congr_left
    intro j member
    rw [Nat.mod_eq_of_lt (List.mem_range.mp member)]
    rfl
  | cons t ts ih =>
    cases optional : t.isOptional with
    | false =>
      have count : optionalCount (t :: ts) = optionalCount ts := by simp [optionalCount, optional]
      rw [List.foldl_cons, widen_mandatory optional, List.map_map, ih, count]
      simp [keptFrom, optional, gluedTo]
    | true =>
      have count : bits + optionalCount (t :: ts) = bits + 1 + optionalCount ts := by
        simp [optionalCount, optional]
        omega
      rw [List.foldl_cons, widen_optional optional, ih, count]
      apply List.map_congr_left
      intro j _
      -- The token has doubled the list, so its own bit is the one above those used before.
      have bit : (j % 2 ^ (bits + 1)).testBit bits = j.testBit bits := by
        simp [Nat.testBit_mod_two_pow]
      have below : j % 2 ^ (bits + 1) % 2 ^ bits = j % 2 ^ bits := by
        rw [Nat.pow_succ, Nat.mod_mul_right_mod]
      rw [bit, below, keptFrom, if_pos optional]
      cases j.testBit bits <;> rfl

theorem expand_eq (ts : List Token) :
    expand ts =
      ((List.range (2 ^ optionalCount ts)).map fun j =>
        ((kept j ts).map Token.text).foldl glue "").filter (!·.isEmpty) := by
  have folded := foldl_widen_eq ts (fun _ => "") 0
  rw [Nat.zero_add] at folded
  simp only [List.foldl_map]
  exact congrArg (List.filter (!·.isEmpty)) folded

theorem keeps_keptFrom (bit mask : Nat) (ts : List Token) : Keeps ts (keptFrom bit mask ts) := by
  induction ts generalizing bit with
  | nil => exact .nil
  | cons t ts ih =>
    cases t with
    | words text => exact (ih bit).keep (.words text)
    | free => exact (ih bit).keep .free
    | optional word =>
      have optional : (Token.optional word).isOptional = true := rfl
      rw [keptFrom, if_pos optional]
      cases mask.testBit bit with
      | true => exact (ih (bit + 1)).leave word
      | false => exact (ih (bit + 1)).keep (.optional word)

/-! ## The mask that keeps nothing -/

theorem keptFrom_eq_nil_iff (bit mask : Nat) (ts : List Token) :
    keptFrom bit mask ts = [] ↔
      (∀ t ∈ ts, t.isOptional = true) ∧ ∀ i < optionalCount ts, mask.testBit (bit + i) = true := by
  induction ts generalizing bit with
  | nil => simp [keptFrom, optionalCount]
  | cons t ts ih =>
    cases optional : t.isOptional with
    | false => simp [keptFrom, optional]
    | true =>
      have count : optionalCount (t :: ts) = optionalCount ts + 1 := by
        simp [optionalCount, optional]
      rw [keptFrom, if_pos optional, count, Nat.forall_lt_succ_left]
      cases first : mask.testBit bit with
      | false => simp
      | true =>
        rw [if_pos rfl, ih]
        simp [optional, Nat.add_assoc, Nat.add_comm 1]

theorem kept_eq_nil_iff {mask : Nat} {ts : List Token} (bound : mask < 2 ^ optionalCount ts) :
    kept mask ts = [] ↔
      (∀ t ∈ ts, t.isOptional = true) ∧ mask = 2 ^ optionalCount ts - 1 := by
  rw [kept, keptFrom_eq_nil_iff]
  refine and_congr_right fun _ => ⟨fun set => ?_, ?_⟩
  · apply Nat.eq_of_testBit_eq
    intro i
    rw [Nat.testBit_two_pow_sub_one]
    by_cases used : i < optionalCount ts
    · simpa [used] using set i used
    · -- A bit that no token uses is not set in a number below the power.
      have power : 2 ^ optionalCount ts ≤ 2 ^ i := Nat.pow_le_pow_right (by omega) (by omega)
      simp [used, Nat.testBit_lt_two_pow (Nat.lt_of_lt_of_le bound power)]
  · rintro rfl i used
    simpa [Nat.testBit_two_pow_sub_one] using used

/-- Only the last mask keeps nothing, and only where every token may be left out. -/
theorem filter_kept (ts : List Token) :
    (List.range (2 ^ optionalCount ts)).filter (fun j => !(kept j ts).isEmpty) =
      List.range (if ts.all Token.isOptional then 2 ^ optionalCount ts - 1
        else 2 ^ optionalCount ts) := by
  cases every : ts.all Token.isOptional with
  | false =>
    refine List.filter_eq_self.mpr fun j member => ?_
    have keepsSome : kept j ts ≠ [] := by
      intro nothing
      have optional := ((kept_eq_nil_iff (List.mem_range.mp member)).mp nothing).1
      simp [List.all_eq_true.mpr optional] at every
    simpa using keepsSome
  | true =>
    have positive : 0 < 2 ^ optionalCount ts := Nat.two_pow_pos _
    -- The last number has all its bits set.
    obtain ⟨last, power⟩ : ∃ last, 2 ^ optionalCount ts = last + 1 :=
      ⟨2 ^ optionalCount ts - 1, by omega⟩
    have keepsNothing : kept last ts = [] :=
      (kept_eq_nil_iff (by omega)).mpr ⟨List.all_eq_true.mp every, by omega⟩
    have others : (List.range last).filter (fun j => !(kept j ts).isEmpty) = List.range last := by
      refine List.filter_eq_self.mpr fun j member => ?_
      have bound : j < last := List.mem_range.mp member
      have keepsSome : kept j ts ≠ [] := by
        intro nothing
        have same := ((kept_eq_nil_iff (by omega)).mp nothing).2
        omega
      simpa using keepsSome
    rw [power, List.range_succ, List.filter_append, others]
    simp [keepsNothing]

/-! ## Scanned tokens -/

theorem Token.WellFormed.singleSpaced {t : Token} (wellFormed : t.WellFormed) :
    SingleSpaced t.text := by
  have outside : isWordChar ' ' = false := by decide +kernel
  cases t with
  | words text =>
    obtain ⟨ws, nonempty, spelled, rfl⟩ := wellFormed
    exact singleSpaced_intercalate nonempty fun w member => (spelled w member).singleSpaced outside
  | free =>
    have dots : Spelled (· == '.') Template.freeSpeech := by decide +kernel
    exact dots.singleSpaced (by decide)
  | optional word => exact Spelled.singleSpaced outside wellFormed

theorem glue_of_singleSpaced {said : String} (spaced : SingleSpaced said) (text : String) :
    glue said text = said ++ " " ++ text := by
  have noSpace : said.toList.getLast? ≠ some ' ' := fun last => spaced.trailing ' ' last rfl
  rw [glue, if_neg (by simp [spaced.nonempty, noSpace])]

theorem gluedTo_of_singleSpaced {said : String} (spaced : SingleSpaced said) {ts : List Token}
    (wellFormed : ∀ t ∈ ts, t.WellFormed) :
    gluedTo said ts = " ".intercalate (said :: ts.map Token.text) := by
  induction ts generalizing said with
  | nil => simp [gluedTo]
  | cons t ts ih =>
    rw [List.forall_mem_cons] at wellFormed
    have step : gluedTo said (t :: ts) = gluedTo (glue said t.text) ts := rfl
    rw [step, glue_of_singleSpaced spaced,
      ih (spaced.append wellFormed.1.singleSpaced) wellFormed.2]
    cases ts with
    | nil => simp [String.intercalate_cons_cons]
    | cons next ts => simp [String.intercalate_cons_cons, String.append_assoc]

/-- Gluing the texts of well-formed tokens is joining them with single spaces. -/
theorem gluedTo_eq_intercalate {ts : List Token} (wellFormed : ∀ t ∈ ts, t.WellFormed) :
    gluedTo "" ts = " ".intercalate (ts.map Token.text) := by
  cases ts with
  | nil => simp [gluedTo]
  | cons t ts =>
    rw [List.forall_mem_cons] at wellFormed
    have step : gluedTo "" (t :: ts) = gluedTo t.text ts := by simp [gluedTo, glue]
    rw [step, gluedTo_of_singleSpaced wellFormed.1.singleSpaced wellFormed.2, List.map_cons]

theorem singleSpaced_kept {ts : List Token} (wellFormed : ∀ t ∈ ts, t.WellFormed) {mask : Nat}
    (keepsSome : kept mask ts ≠ []) :
    SingleSpaced (" ".intercalate ((kept mask ts).map Token.text)) := by
  apply singleSpaced_intercalate (by simpa using keepsSome)
  intro text member
  obtain ⟨t, tMember, rfl⟩ := List.mem_map.mp member
  exact (wellFormed t ((keeps_keptFrom 0 mask ts).sublist.subset tMember)).singleSpaced

theorem isEmpty_kept {ts : List Token} (wellFormed : ∀ t ∈ ts, t.WellFormed) (mask : Nat) :
    (" ".intercalate ((kept mask ts).map Token.text)).isEmpty = (kept mask ts).isEmpty := by
  by_cases keepsNothing : kept mask ts = []
  · simp [keepsNothing]
  · have someText := (singleSpaced_kept wellFormed keepsNothing).nonempty
    rw [List.isEmpty_eq_false_iff.mpr keepsNothing]
    simpa using someText

/-- The texts of well-formed tokens are the kept texts joined by spaces, for each mask that keeps
something. -/
theorem expand_of_wellFormed {ts : List Token} (wellFormed : ∀ t ∈ ts, t.WellFormed) :
    expand ts =
      (List.range (if ts.all Token.isOptional then 2 ^ optionalCount ts - 1
        else 2 ^ optionalCount ts)).map fun j => " ".intercalate ((kept j ts).map Token.text) := by
  have joined : ∀ j, ((kept j ts).map Token.text).foldl glue "" =
      " ".intercalate ((kept j ts).map Token.text) := by
    intro j
    rw [List.foldl_map]
    exact gluedTo_eq_intercalate fun t member =>
      wellFormed t ((keeps_keptFrom 0 j ts).sublist.subset member)
  rw [expand_eq]
  simp only [joined]
  rw [List.filter_map, ← filter_kept]
  simp only [Function.comp_def, isEmpty_kept wellFormed]

/-- The texts of a list of tokens are numbered by the bit masks of its optional tokens, and the empty
ones are left out. For the tokens of a template these are the kept texts with single spaces between
them, and at most the last mask is left out. -/
theorem expand_by_masks :
    (∀ ts : List Token,
      expand ts =
        ((List.range (2 ^ optionalCount ts)).map fun j =>
          ((kept j ts).map Token.text).foldl glue "").filter (!·.isEmpty)) ∧
    ∀ template : String,
      let ts := (scan template).tokens
      (texts template =
        (List.range (if ts.all Token.isOptional then 2 ^ optionalCount ts - 1
          else 2 ^ optionalCount ts)).map fun j => " ".intercalate ((kept j ts).map Token.text)) ∧
      ∀ text ∈ texts template, SingleSpaced text := by
  refine ⟨expand_eq, fun template => ?_⟩
  intro ts
  have wellFormed : ∀ t ∈ ts, t.WellFormed := wellFormed_of_mem_scan template
  have enumerated := expand_of_wellFormed wellFormed
  refine ⟨enumerated, fun text member => ?_⟩
  rw [texts, enumerated, ← filter_kept] at member
  obtain ⟨j, jMember, rfl⟩ := List.mem_map.mp member
  apply singleSpaced_kept wellFormed
  simpa using (List.mem_filter.mp jMember).2

/-- The first optional word changes fastest. -/
example : texts "go ?right ?now" = ["go right now", "go now", "go right", "go"] := by decide +kernel

end SpokenCommand.Phrase
