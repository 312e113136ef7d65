import Mathlib.Data.List.Induction
import Mathlib.Data.List.Nodup
import Mathlib.Data.List.Perm.Basic
import SpokenCommand.Proofs.Assembly

/-!
# Vocabularies over whole runs

A vocabulary keeps its keys in a list and its texts in a hash map. A run of edits leaves the two in
step (`InStep`): the map has a bucket for exactly the keys of the list, a bucket has the texts of the
edits of its key, and the list has the keys in the order of their first edits. One edit keeps this
(`InStep.apply`), so it holds behind every run (`inStep_run`).

All that a caller can ask of a vocabulary is read off it (`InStep.tells`). Runs that bring the same
texts for each key can only be told apart by the order of the keys (`InStep.sameButOrder`).
-/

namespace SpokenCommand

/-! ## Order of first use -/

section FirstUse

variable {α β : Type} [BEq α] {f : β → α} {met : List α} {listed : List β}

theorem nodup_of_pairwise_idxOf
    (ordered : listed.Pairwise fun a b => met.idxOf (f a) < met.idxOf (f b)) : listed.Nodup :=
  ordered.imp fun before same => by simp [same] at before

variable [LawfulBEq α]

/-- What is met later does not change what was met first. -/
theorem pairwise_idxOf_append (old : ∀ b ∈ listed, f b ∈ met)
    (ordered : listed.Pairwise fun a b => met.idxOf (f a) < met.idxOf (f b)) (more : List α) :
    listed.Pairwise fun a b => (met ++ more).idxOf (f a) < (met ++ more).idxOf (f b) := by
  refine ordered.imp_of_mem fun {a b} aMember bMember before => ?_
  rw [List.idxOf_append_of_mem (old a aMember), List.idxOf_append_of_mem (old b bMember)]
  exact before

/-- What is met for the first time is listed last. -/
theorem pairwise_idxOf_concat (old : ∀ b ∈ listed, f b ∈ met)
    (ordered : listed.Pairwise fun a b => met.idxOf (f a) < met.idxOf (f b)) {last : β}
    (new : f last ∉ met) :
    (listed ++ [last]).Pairwise fun a b =>
      (met ++ [f last]).idxOf (f a) < (met ++ [f last]).idxOf (f b) := by
  refine List.pairwise_append.mpr
    ⟨pairwise_idxOf_append old ordered _, by simp, fun a member b isLast => ?_⟩
  obtain rfl : b = last := by simpa using isLast
  have bound := List.idxOf_lt_length_of_mem (old a member)
  rw [List.idxOf_append_of_mem (old a member), List.idxOf_append_of_notMem new]
  omega

end FirstUse

end SpokenCommand

namespace SpokenCommand.Vocabulary

/-- A call that adds texts to a key. -/
inductive Edit where
  | insert (entry : PhraseEntry)
  | extend (key : String) (texts : List String)
deriving DecidableEq, Repr

namespace Edit

def key : Edit → String
  | .insert entry => entry.key
  | .extend key _ => key

def texts : Edit → List String
  | .insert entry => Phrase.texts entry.template
  | .extend _ texts => texts

def apply (v : Vocabulary) : Edit → Vocabulary
  | .insert entry => v.insert entry
  | .extend key texts => v.extend key texts

theorem apply_eq_extend (v : Vocabulary) (e : Edit) : e.apply v = v.extend e.key e.texts := by
  cases e <;> rfl

end Edit

/-- What a run of edits makes of the empty vocabulary. -/
def run (edits : List Edit) : Vocabulary := edits.foldl (fun v e => e.apply v) empty

theorem run_concat (edits : List Edit) (e : Edit) : run (edits ++ [e]) = e.apply (run edits) := by
  simp [run]

/-! ## What edits bring -/

/-- The keys of edits, one for each. -/
def usedKeys (edits : List Edit) : List String := edits.map Edit.key

/-- The texts that edits bring for a key. -/
def textsFor (key : String) (edits : List Edit) : List String :=
  (edits.filter (·.key = key)).flatMap Edit.texts

theorem usedKeys_concat (edits : List Edit) (e : Edit) :
    usedKeys (edits ++ [e]) = usedKeys edits ++ [e.key] := by
  simp [usedKeys]

theorem textsFor_append (key : String) (front back : List Edit) :
    textsFor key (front ++ back) = textsFor key front ++ textsFor key back := by
  simp [textsFor]

theorem textsFor_cons (key : String) (e : Edit) (edits : List Edit) :
    textsFor key (e :: edits) = (if e.key = key then e.texts else []) ++ textsFor key edits := by
  by_cases same : e.key = key <;> simp [textsFor, same]

theorem textsFor_concat (key : String) (edits : List Edit) (e : Edit) :
    textsFor key (edits ++ [e]) = textsFor key edits ++ (if e.key = key then e.texts else []) := by
  rw [textsFor_append, textsFor_cons]
  simp [textsFor]

theorem textsFor_of_notMem {key : String} {edits : List Edit} (unused : key ∉ usedKeys edits) :
    textsFor key edits = [] := by
  have others : edits.filter (·.key = key) = [] := by
    refine List.filter_eq_nil_iff.mpr fun e member => ?_
    have different : e.key ≠ key := fun same => unused (List.mem_map.mpr ⟨e, member, same⟩)
    simpa using different
  rw [textsFor, others, List.flatMap_nil]

theorem flatMap_own {keys : List String} (distinct : keys.Nodup) {own : String}
    (member : own ∈ keys) (texts : List String) :
    (keys.flatMap fun key => if own = key then texts else []) = texts := by
  obtain ⟨front, back, rfl⟩ := List.append_of_mem member
  have others : own ∉ front ++ back := (List.nodup_cons.mp (List.nodup_middle.mp distinct)).1
  have nothing : ∀ {keys : List String}, own ∉ keys →
      (keys.flatMap fun key => if own = key then texts else []) = [] := by
    intro keys absent
    refine List.flatMap_eq_nil_iff.mpr fun key keyMember => if_neg ?_
    rintro rfl
    exact absent keyMember
  rw [List.mem_append, not_or] at others
  rw [List.flatMap_append, List.flatMap_cons, nothing others.1, nothing others.2, if_pos rfl]
  simp

/-- The texts of edits, listed key by key, are all the texts of the edits. -/
theorem perm_textsFor {keys : List String} (distinct : keys.Nodup) {edits : List Edit}
    (covered : ∀ e ∈ edits, e.key ∈ keys) :
    (keys.flatMap fun key => textsFor key edits).Perm (edits.flatMap Edit.texts) := by
  induction edits with
  | nil => simp [textsFor]
  | cons e edits ih =>
    rw [List.forall_mem_cons] at covered
    simp only [textsFor_cons, List.flatMap_cons]
    -- The first edit brings its texts for its own key only, and that is listed once.
    refine (List.flatMap_append_perm keys _ _).symm.trans ?_
    rw [flatMap_own distinct covered.1]
    exact (ih covered.2).append_left e.texts

/-! ## Keys and buckets in step -/

/-- The list of keys and the map of buckets are what edits have made of them. -/
structure InStep (v : Vocabulary) (edits : List Edit) : Prop where
  used : ∀ key, key ∈ v.keys ↔ key ∈ usedKeys edits
  ordered : v.keys.Pairwise fun a b => (usedKeys edits).idxOf a < (usedKeys edits).idxOf b
  bucket : ∀ key, v.buckets[key]? =
    if key ∈ v.keys then some (textsFor key edits).toArray else none

theorem keys_extend (v : Vocabulary) (key : String) (texts : List String) :
    (v.extend key texts).keys = if v.buckets.contains key then v.keys else v.keys ++ [key] := by
  simp only [keys, extend]
  split <;> simp

theorem inStep_empty : empty.InStep [] where
  used := by simp [keys, empty, usedKeys]
  ordered := by simp [keys, empty]
  bucket := by simp [keys, empty]

namespace InStep

variable {v : Vocabulary} {edits : List Edit}

theorem contains_eq (inStep : v.InStep edits) (key : String) :
    v.buckets.contains key = decide (key ∈ v.keys) := by
  rw [Std.HashMap.contains_eq_isSome_getElem?, inStep.bucket]
  by_cases used : key ∈ v.keys <;> simp [used]

theorem keys_apply (inStep : v.InStep edits) (e : Edit) :
    (e.apply v).keys = if e.key ∈ v.keys then v.keys else v.keys ++ [e.key] := by
  rw [e.apply_eq_extend, keys_extend, inStep.contains_eq]
  simp

theorem mem_keys_apply (inStep : v.InStep edits) (e : Edit) (key : String) :
    key ∈ (e.apply v).keys ↔ key ∈ v.keys ∨ key = e.key := by
  rw [inStep.keys_apply]
  by_cases old : e.key ∈ v.keys
  · rw [if_pos old]
    exact ⟨.inl, fun either => either.elim id fun same => same ▸ old⟩
  · simp [old]

theorem apply (inStep : v.InStep edits) (e : Edit) : (e.apply v).InStep (edits ++ [e]) where
  used key := by
    rw [inStep.mem_keys_apply, inStep.used]
    simp [usedKeys_concat]
  ordered := by
    have earlier : ∀ key ∈ v.keys, key ∈ usedKeys edits := fun key => (inStep.used key).mp
    rw [inStep.keys_apply, usedKeys_concat]
    by_cases old : e.key ∈ v.keys
    · rw [if_pos old]
      exact pairwise_idxOf_append earlier inStep.ordered _
    · rw [if_neg old]
      have new : e.key ∉ usedKeys edits := fun member => old ((inStep.used e.key).mpr member)
      exact pairwise_idxOf_concat earlier inStep.ordered new
  bucket key := by
    have before := inStep.bucket key
    simp only [inStep.mem_keys_apply, textsFor_concat]
    rw [e.apply_eq_extend, extend, Std.HashMap.getElem?_alter]
    by_cases same : e.key = key
    · subst same
      by_cases old : e.key ∈ v.keys
      · simp [before, old]
      · -- A key that is new had no bucket, so no edit before was one of its own.
        have nothing : textsFor e.key edits = [] :=
          textsFor_of_notMem fun member => old ((inStep.used e.key).mpr member)
        simp [before, old, nothing]
    · simp [before, same, Ne.symm same]

end InStep

theorem inStep_run (edits : List Edit) : (run edits).InStep edits := by
  induction edits using List.reverseRecOn with
  | nil => exact inStep_empty
  | append_singleton edits e ih =>
    rw [run_concat]
    exact ih.apply e

/-! ## What a caller sees -/

theorem texts?_eq_some_iff {v : Vocabulary} {key : String} {texts : List String} :
    v.texts? key = some texts ↔ v.bucket key = texts ∧ texts ≠ [] := by
  simp only [texts?, List.isEmpty_iff, Option.ite_none_left_eq_some, Option.some.injEq]
  constructor
  · rintro ⟨nonempty, rfl⟩
    exact ⟨rfl, nonempty⟩
  · rintro ⟨rfl, nonempty⟩
    exact ⟨nonempty, rfl⟩

theorem texts?_eq_none_iff {v : Vocabulary} {key : String} :
    v.texts? key = none ↔ v.bucket key = [] := by
  simp [texts?]

/-- The answers of a vocabulary after edits. -/
structure Tells (v : Vocabulary) (edits : List Edit) : Prop where
  distinct : v.keys.Nodup
  used : ∀ key, key ∈ v.keys ↔ key ∈ usedKeys edits
  ordered : v.keys.Pairwise fun a b => (usedKeys edits).idxOf a < (usedKeys edits).idxOf b
  bucket : ∀ key, v.bucket key = textsFor key edits
  entries : v.toList = v.keys.map fun key => (key, textsFor key edits)
  texts : ∀ key texts, v.texts? key = some texts ↔ textsFor key edits = texts ∧ texts ≠ []
  noTexts : ∀ key, v.texts? key = none ↔ textsFor key edits = [] ∨ key ∉ usedKeys edits
  contains : ∀ key, v.contains key = true ↔ ∃ texts, v.texts? key = some texts
  size : v.size = v.keys.length
  isEmpty : v.isEmpty = true ↔ v.keys = []
  textCount : v.textCount = (edits.flatMap Edit.texts).length

/-- Vocabularies that give the same answers, but for the order of their keys. -/
structure SameButOrder (v w : Vocabulary) : Prop where
  keys : v.keys.Perm w.keys
  entries : v.toList.Perm w.toList
  texts : ∀ key, v.texts? key = w.texts? key
  contains : ∀ key, v.contains key = w.contains key
  size : v.size = w.size
  isEmpty : v.isEmpty = w.isEmpty
  textCount : v.textCount = w.textCount

theorem foldl_add_length {α β : Type} (f : α → List β) (as : List α) (count : Nat) :
    as.foldl (fun count a => count + (f a).length) count = count + (as.flatMap f).length := by
  induction as generalizing count with
  | nil => rfl
  | cons a as ih => rw [List.foldl_cons, ih, List.flatMap_cons, List.length_append, Nat.add_assoc]

namespace InStep

variable {v w : Vocabulary} {edits others : List Edit}

theorem nodup_keys (inStep : v.InStep edits) : v.keys.Nodup :=
  nodup_of_pairwise_idxOf inStep.ordered

theorem bucket_eq (inStep : v.InStep edits) (key : String) :
    Vocabulary.bucket v key = textsFor key edits := by
  rw [Vocabulary.bucket, Std.HashMap.getD_eq_getD_getElem?, inStep.bucket]
  by_cases used : key ∈ v.keys
  · simp [used]
  · have nothing : textsFor key edits = [] :=
      textsFor_of_notMem fun member => used ((inStep.used key).mpr member)
    simp [used, nothing]

theorem toList_eq (inStep : v.InStep edits) :
    v.toList = v.keys.map fun key => (key, textsFor key edits) := by
  rw [toList, ← List.filterMap_eq_map']
  refine List.filterMap_congr fun key member => ?_
  simp [inStep.bucket, member]

/-- The map holds the buckets of the listed keys and nothing else. -/
theorem perm_buckets (inStep : v.InStep edits) :
    v.buckets.toList.Perm (v.keys.map fun key => (key, (textsFor key edits).toArray)) := by
  have mapDistinct : v.buckets.toList.Nodup :=
    Std.HashMap.distinct_keys_toList.imp fun different same => by simp [same] at different
  have listDistinct : (v.keys.map fun key => (key, (textsFor key edits).toArray)).Nodup :=
    List.Nodup.of_map Prod.fst (by simpa [Function.comp_def] using inStep.nodup_keys)
  rw [List.perm_ext_iff_of_nodup mapDistinct listDistinct]
  rintro ⟨key, texts⟩
  rw [Std.HashMap.mem_toList_iff_getElem?_eq_some, inStep.bucket]
  by_cases used : key ∈ v.keys
  · simp [used]
  · simp [used]

theorem textCount_eq (inStep : v.InStep edits) :
    v.textCount = (v.keys.flatMap fun key => textsFor key edits).length := by
  calc v.textCount
      = (v.buckets.toList.flatMap fun entry => entry.2.toList).length := by
        rw [textCount, Std.HashMap.fold_eq_foldl_toList]
        simpa using foldl_add_length (fun entry : String × Array String => entry.2.toList) _ 0
    _ = (v.keys.flatMap fun key => textsFor key edits).length := by
        rw [(inStep.perm_buckets.flatMap_right fun entry => entry.2.toList).length_eq,
          List.flatMap_map]

theorem tells (inStep : v.InStep edits) : v.Tells edits where
  distinct := inStep.nodup_keys
  used := inStep.used
  ordered := inStep.ordered
  bucket := inStep.bucket_eq
  entries := inStep.toList_eq
  texts key texts := by rw [texts?_eq_some_iff, inStep.bucket_eq]
  noTexts key := by
    rw [texts?_eq_none_iff, inStep.bucket_eq]
    exact ⟨.inl, fun either => either.elim id textsFor_of_notMem⟩
  contains key := by rw [Vocabulary.contains, Option.isSome_iff_exists]
  size := by simp [Vocabulary.size, keys]
  isEmpty := by simp [Vocabulary.isEmpty, keys]
  textCount := by
    -- Grouped by key the texts come in another order, but none is lost or counted twice.
    rw [inStep.textCount_eq]
    refine (perm_textsFor inStep.nodup_keys fun e member => ?_).length_eq
    exact (inStep.used e.key).mpr (List.mem_map_of_mem member)

/-- Runs that use the same keys and bring the same texts for each differ in the order of keys only. -/
theorem sameButOrder (inStep : v.InStep edits) (otherInStep : w.InStep others)
    (sameKeys : ∀ key, key ∈ usedKeys edits ↔ key ∈ usedKeys others)
    (sameTexts : ∀ key, textsFor key edits = textsFor key others) : v.SameButOrder w := by
  have perm : v.keys.Perm w.keys := by
    rw [List.perm_ext_iff_of_nodup inStep.nodup_keys otherInStep.nodup_keys]
    intro key
    rw [inStep.used, otherInStep.used, sameKeys]
  have sameBucket : ∀ key, v.bucket key = w.bucket key := fun key => by
    rw [inStep.bucket_eq, otherInStep.bucket_eq, sameTexts]
  have sameAnswer : ∀ key, v.texts? key = w.texts? key := fun key => by
    rw [texts?, texts?, sameBucket]
  refine ⟨perm, ?_, sameAnswer, fun key => ?_, ?_, ?_, ?_⟩
  · rw [inStep.toList_eq, otherInStep.toList_eq]
    simp only [sameTexts]
    exact perm.map _
  · rw [Vocabulary.contains, Vocabulary.contains, sameAnswer]
  · simpa [size, keys] using perm.length_eq
  · rw [Bool.eq_iff_iff, inStep.tells.isEmpty, otherInStep.tells.isEmpty]
    rw [← List.length_eq_zero_iff, perm.length_eq, List.length_eq_zero_iff]
  · rw [inStep.textCount_eq, otherInStep.textCount_eq]
    simp only [sameTexts]
    exact (perm.flatMap_right _).length_eq

end InStep

theorem textsFor_swap {a b : Edit} (different : a.key ≠ b.key) (key : String)
    (front back : List Edit) :
    textsFor key (front ++ a :: b :: back) = textsFor key (front ++ b :: a :: back) := by
  simp only [textsFor_append, textsFor_cons]
  -- At most one of the two edits brings texts for this key.
  by_cases first : a.key = key
  · have second : b.key ≠ key := fun same => different (first.trans same.symm)
    simp [second]
  · simp [first]

/-- After any run of edits the keys are those used, once each and by first use; the bucket of a key has
the texts of its edits in order, and the other answers follow from the two. Edits of different keys may
be exchanged anywhere in a run: at most the order of the keys changes. -/
theorem run_tells_edits :
    (∀ edits : List Edit, (run edits).Tells edits) ∧
    ∀ (front : List Edit) (a b : Edit) (back : List Edit), a.key ≠ b.key →
      (run (front ++ a :: b :: back)).SameButOrder (run (front ++ b :: a :: back)) := by
  refine ⟨fun edits => (inStep_run edits).tells, fun front a b back different => ?_⟩
  refine (inStep_run _).sameButOrder (inStep_run _) (fun key => ?_) fun key => ?_
  · simp only [usedKeys, List.map_append, List.map_cons, List.mem_append, List.mem_cons]
    tauto
  · exact textsFor_swap different key front back

/-- A key that first stands for nothing gets its place all the same, and its texts later. -/
theorem run_tells_edits_filled_later :
    let noise : Edit := .insert ⟨"noise", "!!"⟩
    let go : Edit := .extend "go" ["go", "go"]
    let hum : Edit := .insert ⟨"noise", "hum ?low"⟩
    noise.texts = [] ∧ (run [noise]).texts? "noise" = none ∧ "noise" ∈ (run [noise]).keys ∧
      (run [noise, go, hum]).texts? "noise" = some ["hum low", "hum"] ∧
      (run [noise, go, hum]).textCount = 4 ∧
      noise.key ≠ go.key ∧ (run [noise, go, hum]).SameButOrder (run [go, noise, hum]) := by
  intro noise go hum
  have silent : noise.texts = [] := by decide +kernel
  have different : noise.key ≠ go.key := by decide
  have first := run_tells_edits.1 [noise]
  have whole := run_tells_edits.1 [noise, go, hum]
  refine ⟨silent, ?_, ?_, ?_, ?_, different, run_tells_edits.2 [] noise go [hum] different⟩
  · exact (first.noTexts "noise").mpr (.inl (by decide +kernel))
  · exact (first.used "noise").mpr (by decide)
  · exact (whole.texts "noise" _).mpr ⟨by decide +kernel, by decide⟩
  · rw [whole.textCount]
    decide +kernel

end SpokenCommand.Vocabulary
