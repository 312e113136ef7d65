import Mathlib.Data.List.Basic
import SpokenCommand.Recognition.Reducer

/-!
# What an event is reduced to

An engine may report steps in any order and under any ids. Sorted by position, their values have
exactly one arrangement: it ascends, and steps whose positions are equal stay as they were reported
(`StableSort.unique`), among them all those whose ids tell no position. So a reducer that goes by the
positions only sees in which order the steps of each position are reported, and whatever the order,
no value is lost, doubled or added (`Reducer.reduce_arranges_values`).
-/

namespace SpokenCommand

/-! ## Arrangements -/

section Arrangements

variable {α : Type} {key : α → Nat} {given others : List α}

/-- The members of a list in another order, which is the same among members with equal keys. -/
structure KeepsTies (key : α → Nat) (given others : List α) : Prop where
  perm : others.Perm given
  ties : ∀ k, (others.filter fun a => key a = k) = given.filter fun a => key a = k

/-- The arrangement of a list by ascending keys that keeps ties. -/
structure StableSort (key : α → Nat) (given sorted : List α) : Prop extends
    KeepsTies key given sorted where
  ascending : sorted.Pairwise fun a b => key a ≤ key b

theorem key_trans (key : α → Nat) (a b c : α) (first : decide (key a ≤ key b) = true)
    (second : decide (key b ≤ key c) = true) : decide (key a ≤ key c) = true := by
  rw [decide_eq_true_eq] at first second ⊢
  exact Nat.le_trans first second

theorem key_total (key : α → Nat) (a b : α) :
    (decide (key a ≤ key b) || decide (key b ≤ key a)) = true := by
  rw [Bool.or_eq_true, decide_eq_true_eq, decide_eq_true_eq]
  exact Nat.le_total _ _

theorem filter_mergeSort (key : α → Nat) (as : List α) (k : Nat) :
    ((as.mergeSort fun a b => key a ≤ key b).filter fun a => key a = k) =
      as.filter fun a => key a = k := by
  let ties := as.filter fun a => key a = k
  have equal : ties.Pairwise fun a b => decide (key a ≤ key b) = true := by
    refine List.pairwise_of_forall_mem_list fun a inTies b alsoInTies => ?_
    have first : key a = k := by simpa using (List.mem_filter.mp inTies).2
    have second : key b = k := by simpa using (List.mem_filter.mp alsoInTies).2
    exact decide_eq_true (Nat.le_of_eq (first.trans second.symm))
  -- The ties are in order already, so sorting leaves them as a part of the whole.
  have inSorted : ties.Sublist (as.mergeSort fun a b => key a ≤ key b) :=
    List.sublist_mergeSort (key_trans key) (key_total key) equal List.filter_sublist
  have onlyTies := inSorted.filter fun a => key a = k
  have sameLength := ((List.mergeSort_perm as fun a b => key a ≤ key b).filter
    fun a => key a = k).length_eq
  rw [List.filter_filter] at onlyTies
  simp only [Bool.and_self] at onlyTies
  exact (onlyTies.eq_of_length sameLength.symm).symm

theorem stableSort_mergeSort (key : α → Nat) (as : List α) :
    StableSort key as (as.mergeSort fun a b => key a ≤ key b) where
  perm := List.mergeSort_perm as _
  ties := filter_mergeSort key as
  ascending := by
    have sorted := List.pairwise_mergeSort (key_trans key) (key_total key) as
    exact sorted.imp of_decide_eq_true

theorem mem_of_ties {as bs : List α}
    (ties : ∀ k, (as.filter fun a => key a = k) = bs.filter fun a => key a = k) {b : α}
    (member : b ∈ bs) : b ∈ as := by
  have inTies : b ∈ bs.filter fun a => key a = key b := List.mem_filter.mpr ⟨member, by simp⟩
  rw [← ties] at inTies
  exact (List.mem_filter.mp inTies).1

theorem key_head_le {a b : α} {as : List α}
    (ascending : (a :: as).Pairwise fun a b => key a ≤ key b) (member : b ∈ a :: as) :
    key a ≤ key b := by
  cases member with
  | head => exact Nat.le_refl _
  | tail _ later => exact (List.pairwise_cons.mp ascending).1 b later

/-- Lists in ascending order with the same ties are equal. -/
theorem eq_of_ties {as bs : List α} (ascending : as.Pairwise fun a b => key a ≤ key b)
    (ascendingToo : bs.Pairwise fun a b => key a ≤ key b)
    (ties : ∀ k, (as.filter fun a => key a = k) = bs.filter fun a => key a = k) : as = bs := by
  induction as generalizing bs with
  | nil =>
    cases bs with
    | nil => rfl
    | cons b bs => exact absurd (mem_of_ties ties List.mem_cons_self) List.not_mem_nil
  | cons a as ih =>
    have inOther : a ∈ bs := mem_of_ties (fun k => (ties k).symm) List.mem_cons_self
    cases bs with
    | nil => contradiction
    | cons b bs =>
      have inFirst : b ∈ a :: as := mem_of_ties ties List.mem_cons_self
      have sameKey : key b = key a :=
        Nat.le_antisymm (key_head_le ascendingToo inOther) (key_head_le ascending inFirst)
      -- Both begin with the first of the ties with the least key.
      have least := ties (key a)
      rw [List.filter_cons_of_pos (by simp), List.filter_cons_of_pos (by simp [sameKey]),
        List.cons.injEq] at least
      obtain ⟨rfl, leastRest⟩ := least
      have rest : ∀ k, (as.filter fun a => key a = k) = bs.filter fun a => key a = k := by
        intro k
        by_cases same : key a = k
        · rw [← same]
          exact leastRest
        · have others := ties k
          rwa [List.filter_cons_of_neg (by simp [same]), List.filter_cons_of_neg (by simp [same])]
            at others
      rw [ih (List.pairwise_cons.mp ascending).2 (List.pairwise_cons.mp ascendingToo).2 rest]

theorem StableSort.unique {sorted sortedToo : List α} (stable : StableSort key given sorted)
    (stableToo : StableSort key given sortedToo) : sorted = sortedToo :=
  eq_of_ties stable.ascending stableToo.ascending fun k => by rw [stable.ties, stableToo.ties]

/-- Keeping ties makes no difference to the arrangement. -/
theorem StableSort.of_keepsTies {sorted : List α} (keeps : KeepsTies key given others)
    (stable : StableSort key others sorted) : StableSort key given sorted where
  perm := stable.perm.trans keeps.perm
  ties k := by rw [stable.ties, keeps.ties]
  ascending := stable.ascending

end Arrangements

/-! ## Values of an event -/

/-- The ids and values of the steps that have a value, in reported order. -/
def Event.valued (e : Event) : List (String × String) :=
  e.steps.filterMap fun s => s.value.map (s.step, ·)

theorem Event.map_snd_valued (e : Event) :
    e.valued.map Prod.snd = e.steps.filterMap EventStep.value := by
  rw [valued, List.map_filterMap]
  refine List.filterMap_congr fun s _ => ?_
  cases s.value <;> rfl

theorem Event.filter_valued (e : Event) (k : Nat) :
    (e.valued.filter fun step => Reducer.position step.1 = k) =
      (e.steps.filter fun s => Reducer.position s.step = k).filterMap fun s =>
        s.value.map (s.step, ·) := by
  rw [valued, List.filter_filterMap, List.filterMap_filter]
  refine List.filterMap_congr fun s _ => ?_
  cases s.value with
  | none => simp
  | some value => simp [Option.filter]

/-- An event whose steps keep their ties reports its values with their ties kept. -/
theorem KeepsTies.valued {e other : Event}
    (keeps : KeepsTies (fun s : EventStep => Reducer.position s.step) e.steps other.steps) :
    KeepsTies (fun step => Reducer.position step.1) e.valued other.valued where
  perm := keeps.perm.filterMap _
  ties k := by rw [Event.filter_valued, Event.filter_valued, keeps.ties]

/-- The arrangement of values that an order of steps asks for. -/
def StepOrder.Arranges : StepOrder → (given arranged : List (String × String)) → Prop
  | .reported, given, arranged => arranged = given
  | .sentencePosition, given, arranged =>
    StableSort (fun step => Reducer.position step.1) given arranged

namespace StepOrder.Arranges

variable {order : StepOrder} {given arranged arrangedToo : List (String × String)}

theorem perm (arranges : order.Arranges given arranged) : arranged.Perm given := by
  cases order with
  | reported => exact .of_eq arranges
  | sentencePosition => exact StableSort.toKeepsTies arranges |>.perm

theorem unique (arranges : order.Arranges given arranged)
    (arrangesToo : order.Arranges given arrangedToo) : arranged = arrangedToo := by
  cases order with
  | reported => exact Eq.trans arranges (Eq.symm arrangesToo)
  | sentencePosition => exact StableSort.unique arranges arrangesToo

end StepOrder.Arranges

namespace Reducer

theorem arranges_tagged (r : Reducer) (e : Event) : r.order.Arranges e.valued (r.tagged e) := by
  cases order : r.order with
  | reported =>
    show r.tagged e = e.valued
    simp only [tagged, order, Event.valued]
  | sentencePosition =>
    have sorted := stableSort_mergeSort (fun step : String × String => position step.1) e.valued
    simpa only [StepOrder.Arranges, tagged, order, Event.valued] using sorted

theorem accepts_iff {r : Reducer} {e : Event} :
    r.accepts e = true ↔ r.threshold < e.confidence ∧ e.grammar = r.grammar := by
  rw [accepts, Bool.and_eq_true, decide_eq_true_eq, beq_iff_eq]

theorem tagged_of_keepsTies {r : Reducer} {e other : Event}
    (byPosition : r.order = .sentencePosition)
    (keeps : KeepsTies (fun s : EventStep => position s.step) e.steps other.steps) :
    r.tagged other = r.tagged e := by
  have arranged := arranges_tagged r e
  have arrangedOther := arranges_tagged r other
  rw [byPosition] at arranged arrangedOther
  exact (StableSort.of_keepsTies keeps.valued arrangedOther).unique arranged

/-- An event that is not accepted is reduced to nothing. An accepted one is reduced to its values,
joined by spaces in the only arrangement that the order asks for, or to nothing where that is empty.
The values are those of its steps, each as often as it is reported; and where the positions decide,
all that matters is the order of the steps with equal positions. -/
theorem reduce_arranges_values (r : Reducer) (e : Event) :
    (∀ id tag place, StepId.parse? id = some (tag, place) → position id = place) ∧
    (∀ id, StepId.parse? id = none → position id = StepId.positionLimit - 1) ∧
    (∃! arranged, r.order.Arranges e.valued arranged) ∧
    (∀ arranged, r.order.Arranges e.valued arranged →
      (arranged.map Prod.snd).Perm (e.steps.filterMap EventStep.value) ∧
      (r.threshold < e.confidence ∧ e.grammar = r.grammar →
        r.reduce e = if " ".intercalate (arranged.map Prod.snd) = "" then none
          else some (" ".intercalate (arranged.map Prod.snd)))) ∧
    (¬ (r.threshold < e.confidence ∧ e.grammar = r.grammar) → r.reduce e = none) ∧
    (r.order = .sentencePosition → ∀ steps,
      KeepsTies (fun s : EventStep => position s.step) e.steps steps →
      r.reduce { e with steps } = r.reduce e) := by
  have arranges := arranges_tagged r e
  refine ⟨?_, ?_, ⟨_, arranges, fun other otherArranges => otherArranges.unique arranges⟩, ?_, ?_, ?_⟩
  · intro id tag place read
    simp [position, read]
  · intro id unread
    simp [position, unread]
  · intro arranged arrangesToo
    obtain rfl := arrangesToo.unique arranges
    refine ⟨?_, fun accepted => ?_⟩
    · rw [← Event.map_snd_valued]
      exact arranges.perm.map Prod.snd
    · rw [reduce, if_pos (accepts_iff.mpr accepted)]
      simp only [String.isEmpty_iff]
  · intro refused
    rw [reduce, if_neg fun accepted => refused (accepts_iff.mp accepted)]
  · intro byPosition steps keeps
    have sameTagged : r.tagged { e with steps } = r.tagged e := tagged_of_keepsTies byPosition keeps
    have sameAccepts : r.accepts { e with steps } = r.accepts e := rfl
    rw [reduce, reduce, sameAccepts, sameTagged]

/-- Two steps at one position, one of them spelled with a sign, and an id that tells no position. -/
theorem reduce_arranges_values_mixed_ids :
    let r : Reducer := ⟨.ofInt 0, "Command", .sentencePosition⟩
    let steps : List EventStep :=
      [⟨"on#2", some "on"⟩, ⟨"go", some "now"⟩, ⟨"light#+02", some "light"⟩, ⟨"...#1", none⟩,
        ⟨"turn#0", some "turn"⟩]
    let e : Event := ⟨.ofInt 1, "Command", steps, false⟩
    (r.threshold < e.confidence ∧ e.grammar = r.grammar) ∧
      r.order.Arranges e.valued
        [("turn#0", "turn"), ("on#2", "on"), ("light#+02", "light"), ("go", "now")] ∧
      r.reduce e = some "turn on light now" := by
  intro r steps e
  have accepted : r.threshold < e.confidence ∧ e.grammar = r.grammar := by decide +kernel
  have arranges : r.order.Arranges e.valued
      [("turn#0", "turn"), ("on#2", "on"), ("light#+02", "light"), ("go", "now")] := by
    refine ⟨⟨by decide +kernel, fun k => ?_⟩, by decide +kernel⟩
    have valued : e.valued =
        [("on#2", "on"), ("go", "now"), ("light#+02", "light"), ("turn#0", "turn")] := rfl
    rw [valued]
    by_cases zero : 0 = k
    · subst k
      decide +kernel
    by_cases two : 2 = k
    · subst k
      decide +kernel
    -- At any other position there is at most the step whose id tells none.
    have turn : position "turn#0" = 0 := by decide +kernel
    have on : position "on#2" = 2 := by decide +kernel
    have light : position "light#+02" = 2 := by decide +kernel
    simp only [List.filter_cons, turn, on, light, zero, two, decide_false, Bool.false_eq_true,
      if_false]
  obtain ⟨-, -, -, joins, -, -⟩ := reduce_arranges_values r e
  refine ⟨accepted, arranges, ?_⟩
  rw [(joins _ arranges).2 accepted]
  decide +kernel

end Reducer

end SpokenCommand
