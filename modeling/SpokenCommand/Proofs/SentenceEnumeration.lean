import Mathlib.Algebra.BigOperators.Group.List.Basic
import Mathlib.Data.List.Forall2
import Mathlib.Data.List.ReduceOption
import SpokenCommand.Proofs.Meaning

/-!
# The order of a sentence's variants

A token can be resolved in a number of ways: one for each of its choices, and one more when it may
be left out. The variants of a list of tokens are numbered by their resolutions, in mixed radix with
the first token as the least significant digit (`expand_eq`). Each further token repeats the list
for each of its ways, so the invariant of the loop is an index law for a list of any length
(`foldl_widen_eq`).

The first token counts leaving it out as its last way, every other token as its first.
-/

namespace SpokenCommand.Sentence

/-- In how many ways a token can be resolved. -/
def Token.ways (t : Token) : Nat := t.choices.length + (if t.isOptional then 1 else 0)

/-- The digits of a number in mixed radix, the least significant one first. -/
def digits : List Nat → Nat → List Nat
  | [], _ => []
  | radix :: radices, n => n % radix :: digits radices (n / radix)

/-- What a digit of the first token picks: nothing behind the last choice. -/
def Token.pickFirst (t : Token) (digit : Nat) : Option Term := t.choices[digit]?

/-- What a digit of a later token picks: nothing in front of the first choice, if it may be left
out. -/
def Token.pickLater (t : Token) (digit : Nat) : Option Term :=
  if t.isOptional then (if digit = 0 then none else t.choices[digit - 1]?) else t.choices[digit]?

/-- What each token contributes under a digit of its own. -/
def select : List Token → List Nat → List (Option Term)
  | t :: ts, d :: ds => t.pickFirst d :: List.zipWith Token.pickLater ts ds
  | _, _ => []

/-- A digit for each token, below its number of ways. -/
def IsSelection (ts : List Token) (ds : List Nat) : Prop :=
  List.Forall₂ (fun t d => d < t.ways) ts ds

/-! ## Digits -/

/-- Digits below their radices are those of exactly one number below the product. -/
theorem existsUnique_digits {radices ds : List Nat}
    (below : List.Forall₂ (fun radix d => d < radix) radices ds) :
    ∃! n, n < radices.prod ∧ digits radices n = ds := by
  induction below with
  | nil => exact ⟨0, by simp [digits], by simp⟩
  | @cons radix d radices ds bound _ ih =>
    obtain ⟨n, ⟨small, own⟩, only⟩ := ih
    rw [List.prod_cons]
    refine ⟨d + radix * n, ⟨?_, ?_⟩, ?_⟩
    · calc d + radix * n < radix + radix * n := by omega
        _ = radix * (n + 1) := by rw [Nat.mul_succ, Nat.add_comm]
        _ ≤ radix * radices.prod := Nat.mul_le_mul_left radix small
    · have remainder : (d + radix * n) % radix = d := by
        rw [Nat.add_mul_mod_self_left, Nat.mod_eq_of_lt bound]
      have quotient : (d + radix * n) / radix = n := by
        rw [Nat.add_mul_div_left _ _ (by omega), Nat.div_eq_of_lt bound, Nat.zero_add]
      rw [digits, remainder, quotient, own]
    · rintro m ⟨mSmall, mDigits⟩
      obtain ⟨rfl, mRest⟩ : m % radix = d ∧ digits radices (m / radix) = ds := by
        simpa [digits] using mDigits
      have quotient : m / radix = n := only (m / radix) ⟨Nat.div_lt_of_lt_mul mSmall, mRest⟩
      rw [← quotient, Nat.mod_add_div]

theorem digits_below {radices : List Nat} {n : Nat} (small : n < radices.prod) :
    List.Forall₂ (fun radix d => d < radix) radices (digits radices n) := by
  induction radices generalizing n with
  | nil => exact .nil
  | cons radix radices ih =>
    rw [List.prod_cons] at small
    have positive : 0 < radix := Nat.pos_of_mul_pos_right (Nat.zero_lt_of_lt small)
    exact .cons (Nat.mod_lt n positive) (ih (Nat.div_lt_of_lt_mul small))

/-! ## One more token -/

/-- Blocks of equal length one after the other are a single list, indexed by remainder and
quotient. -/
theorem flatMap_blocks {α : Type} (g : Nat → Nat → α) (length count : Nat) :
    ((List.range count).flatMap fun d => (List.range length).map fun i => g i d) =
      (List.range (length * count)).map fun j => g (j % length) (j / length) := by
  induction count with
  | zero => simp
  | succ count ih =>
    -- The last block begins at `length * count`.
    have last : ((List.range length).map fun i => g i count) =
        (List.range length).map fun i =>
          g ((length * count + i) % length) ((length * count + i) / length) := by
      apply List.map_congr_left
      intro i member
      have bound : i < length := List.mem_range.mp member
      rw [Nat.mul_add_mod, Nat.mod_eq_of_lt bound, Nat.mul_add_div (by omega),
        Nat.div_eq_of_lt bound, Nat.add_zero]
    rw [List.range_succ, List.flatMap_append, ih, List.flatMap_singleton, last, Nat.mul_succ,
      List.range_add, List.map_append, List.map_map]
    rfl

theorem map_some_eq {α : Type} (as : List α) :
    as.map some = (List.range as.length).map fun d => as[d]? := by
  apply List.ext_getElem?
  intro i
  by_cases bound : i < as.length
  · simp [bound]
  · simp [bound]

theorem seed_eq (t : Token) :
    seed t = (List.range t.ways).map fun d => (t.pickFirst d).toList := by
  have chosen : t.choices.map ([·]) =
      (List.range t.choices.length).map fun d => (t.pickFirst d).toList := by
    have indexed := congrArg (List.map Option.toList) (map_some_eq t.choices)
    simpa [Token.pickFirst, Function.comp_def] using indexed
  by_cases optional : t.isOptional
  · -- The last way is behind the last choice, where there is none.
    have ways : t.ways = t.choices.length + 1 := by simp [Token.ways, optional]
    have absent : t.pickFirst t.choices.length = none := by simp [Token.pickFirst]
    rw [seed, if_pos optional, ways, List.range_succ, List.map_append, ← chosen]
    simp [absent]
  · have ways : t.ways = t.choices.length := by simp [Token.ways, optional]
    rw [seed, if_neg optional, ways, List.append_nil, chosen]

theorem widen_eq_flatMap (variants : List Variant) (t : Token) :
    widen variants t =
      (List.range t.ways).flatMap fun d => variants.map (· ++ (t.pickLater d).toList) := by
  have chosen : (t.choices.flatMap fun choice => variants.map (· ++ [choice])) =
      (List.range t.choices.length).flatMap fun d => variants.map (· ++ (t.choices[d]?).toList) := by
    have indexed := congrArg (List.flatMap fun o : Option Term => variants.map (· ++ o.toList))
      (map_some_eq t.choices)
    simpa [List.flatMap_map] using indexed
  -- Where the token may be left out, the first way is the list as it stands.
  rw [widen, chosen]
  by_cases optional : t.isOptional
  · have ways : t.ways = t.choices.length + 1 := by simp [Token.ways, optional]
    rw [if_pos optional, ways, List.range_succ_eq_map, List.flatMap_cons, List.flatMap_map]
    simp [Token.pickLater, optional]
  · have ways : t.ways = t.choices.length := by simp [Token.ways, optional]
    rw [if_neg optional, ways, List.nil_append]
    simp [Token.pickLater, optional]

theorem widen_eq (f : Nat → Variant) (length : Nat) (t : Token) :
    widen ((List.range length).map f) t =
      (List.range (length * t.ways)).map fun j =>
        f (j % length) ++ (t.pickLater (j / length)).toList := by
  rw [widen_eq_flatMap, ← flatMap_blocks fun i d => f i ++ (t.pickLater d).toList]
  simp only [List.map_map, Function.comp_def]

/-! ## All tokens -/

/-- The index law behind any list: its own index is the remainder, and the quotient has the digits of
the tokens to come. -/
theorem foldl_widen_eq (ts : List Token) (f : Nat → Variant) (length : Nat) :
    ts.foldl widen ((List.range length).map f) =
      (List.range (length * (ts.map Token.ways).prod)).map fun j =>
        f (j % length) ++
          (List.zipWith Token.pickLater ts (digits (ts.map Token.ways) (j / length))).reduceOption := by
  induction ts generalizing f length with
  | nil =>
    rw [List.foldl_nil, List.map_nil, List.prod_nil, Nat.mul_one]
    apply List.map_congr_left
    intro j member
    rw [Nat.mod_eq_of_lt (List.mem_range.mp member)]
    simp
  | cons t ts ih =>
    rw [List.foldl_cons, widen_eq, ih, List.map_cons, List.prod_cons, Nat.mul_assoc]
    apply List.map_congr_left
    intro j _
    -- The digit of the token is the quotient by what came before it, up to its number of ways.
    rw [Nat.mod_mul_right_mod, Nat.mod_mul_right_div_self, ← Nat.div_div_eq_div_mul, digits,
      List.zipWith_cons_cons, List.append_assoc]
    congr 1
    cases t.pickLater (j / length % t.ways) <;> simp [List.reduceOption]

theorem expand_eq (t : Token) (ts : List Token) :
    expand (t :: ts) =
      (List.range ((t :: ts).map Token.ways).prod).map fun j =>
        (select (t :: ts) (digits ((t :: ts).map Token.ways) j)).reduceOption := by
  rw [expand, seed_eq, foldl_widen_eq, List.map_cons, List.prod_cons]
  apply List.map_congr_left
  intro j _
  rw [digits, select]
  cases t.pickFirst (j % t.ways) <;> simp [List.reduceOption]

/-- A list of digits is a selection exactly when it numbers a variant, and then only one. -/
theorem isSelection_iff (ts : List Token) (ds : List Nat) :
    IsSelection ts ds ↔
      ∃! j, j < (ts.map Token.ways).prod ∧ digits (ts.map Token.ways) j = ds := by
  have mapped : IsSelection ts ds ↔
      List.Forall₂ (fun radix d => d < radix) (ts.map Token.ways) ds := by
    rw [IsSelection, List.forall₂_map_left_iff]
  rw [mapped]
  constructor
  · exact existsUnique_digits
  · rintro ⟨j, ⟨small, rfl⟩, -⟩
    exact digits_below small

/-! ## Saying nothing -/

theorem count_nil_widen (variants : List Variant) (t : Token) :
    (widen variants t).count [] = if t.isOptional then variants.count [] else 0 := by
  have extended : (t.choices.flatMap fun choice => variants.map (· ++ [choice])).count [] = 0 := by
    apply List.count_eq_zero.mpr
    simp
  rw [widen, List.count_append, extended]
  by_cases optional : t.isOptional
  · simp [optional]
  · simp [optional]

theorem count_nil_foldl_widen (ts : List Token) (variants : List Variant) :
    (ts.foldl widen variants).count [] =
      if ts.all Token.isOptional then variants.count [] else 0 := by
  induction ts generalizing variants with
  | nil => simp
  | cons t ts ih =>
    rw [List.foldl_cons, ih, count_nil_widen, List.all_cons]
    cases t.isOptional <;> simp

theorem count_nil_expand (ts : List Token) :
    (expand ts).count [] = if ts ≠ [] ∧ ts.all Token.isOptional then 1 else 0 := by
  cases ts with
  | nil => simp [expand]
  | cons t ts =>
    have seeded : (seed t).count [] = if t.isOptional then 1 else 0 := by
      have chosen : (t.choices.map fun choice => [choice]).count [] = 0 := by
        apply List.count_eq_zero.mpr
        simp
      rw [seed, List.count_append, chosen]
      cases t.isOptional <;> simp
    rw [expand, count_nil_foldl_widen, seeded, List.all_cons]
    cases t.isOptional <;> simp

theorem filter_eq_erase {variants : List Variant} (once : variants.count [] ≤ 1) :
    variants.filter (!·.isEmpty) = variants.erase [] := by
  induction variants with
  | nil => rfl
  | cons v variants ih =>
    cases v with
    | nil =>
      -- This was the only one, so nothing else is left out.
      have others : [] ∉ variants := by
        apply List.count_eq_zero.mp
        rw [List.count_cons_self] at once
        omega
      have kept : variants.filter (!·.isEmpty) = variants := by
        refine List.filter_eq_self.mpr fun v member => ?_
        cases v with
        | nil => exact absurd member others
        | cons term v => rfl
      simp [kept]
    | cons term v =>
      have rest := ih (by simpa using once)
      simp [rest]

/-- The variants of a list of tokens are numbered by its selections, each of which occurs exactly
once. The sentences of a template are the variants of its tokens without the one that says nothing,
which there is exactly when there is a token and each may be left out. -/
theorem expand_enumerates :
    (∀ (t : Token) (ts : List Token),
      (expand (t :: ts) =
        (List.range ((t :: ts).map Token.ways).prod).map fun j =>
          (select (t :: ts) (digits ((t :: ts).map Token.ways) j)).reduceOption) ∧
      ∀ ds, IsSelection (t :: ts) ds ↔
        ∃! j, j < ((t :: ts).map Token.ways).prod ∧ digits ((t :: ts).map Token.ways) j = ds) ∧
    ∀ template : String,
      variants template = (expand (tokens template)).erase [] ∧
        ([] ∈ expand (tokens template) ↔
          tokens template ≠ [] ∧ ∀ t ∈ tokens template, t.isOptional = true) := by
  refine ⟨fun t ts => ⟨expand_eq t ts, isSelection_iff (t :: ts)⟩, fun template => ?_⟩
  have count := count_nil_expand (tokens template)
  constructor
  · rw [variants, filter_eq_erase]
    rw [count]
    split <;> omega
  · rw [← List.count_pos_iff, count, ← List.all_eq_true]
    split
    next all => simpa using all
    next some => simpa using some

/-- Leaving out the first token comes last, leaving out another one comes first. -/
example : (expand [.group ["a", "b"] true, .key "c" true]).map Variant.render =
    ["a", "b", "", "a c", "b c", "c"] := by decide +kernel

end SpokenCommand.Sentence
