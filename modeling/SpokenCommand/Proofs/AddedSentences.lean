import SpokenCommand.Match
import SpokenCommand.Proofs.Assembly

/-!
# Adding sentences

Sentences are compiled each by itself and tried in order, so those of further templates go behind the
ones that were there and leave them as they are. The larger grammar recognizes first what the smaller
one recognized, and only then what the new sentences do, under numbers that go on behind the old ones
(`Grammar.recognize?_append`). Templates that stand for no sentence change nothing
(`Compiler.compile_append`).
-/

namespace SpokenCommand

/-- The same match where further sentences stand in front. -/
def Match.behind (sentences : Nat) (m : Match) : Match :=
  { m with sentence := m.sentence + sentences }

theorem findSome?_zipIdx_behind (sentences : List StepSequence) (said : List String) (index : Nat) :
    ((sentences.zipIdx index).findSome? fun (steps, index) => (cut? steps said).map fun found =>
        Match.mk index (List.zipWith Step.report steps found)) =
      (sentences.zipIdx.findSome? fun (steps, index) => (cut? steps said).map fun found =>
        Match.mk index (List.zipWith Step.report steps found)).map (Match.behind index) := by
  -- Whether a sentence is found does not depend on its number, which is only reported.
  rw [List.zipIdx_eq_map_add, List.findSome?_map, List.map_findSome?]
  congr 1
  funext entry
  obtain ⟨steps, own⟩ := entry
  cases found : cut? steps said with
  | none => simp [found]
  | some pieces => simp [found, Match.behind, Nat.add_comm]

theorem Grammar.recognize?_append {g front back : Grammar}
    (sentences : g.sentences = front.sentences ++ back.sentences) (utterance : String) :
    g.recognize? utterance =
      (front.recognize? utterance).or
        ((back.recognize? utterance).map (Match.behind front.sentences.length)) := by
  by_cases silent : spokenWords utterance = []
  · simp [recognize?, silent]
  · simp only [recognize?, silent, List.isEmpty_iff, if_false, sentences, List.zipIdx_append,
      List.findSome?_append, Nat.zero_add]
    rw [findSome?_zipIdx_behind back.sentences]

namespace Compiler

theorem totalWeight_append (front back : List StepSequence) :
    totalWeight (front ++ back) = totalWeight front + totalWeight back := by
  induction front with
  | nil => simp [totalWeight]
  | cons steps front ih => rw [List.cons_append, totalWeight, totalWeight, ih, Nat.add_assoc]

/-- Where two lists of templates compile, so do both together, to the sentences of the one and behind
them those of the other; what the first grammar recognizes stays, and where it recognizes nothing, the
second one does, with its sentences renumbered. A list without sentences adds nothing to the other. -/
theorem compile_append (c : Compiler) (entries : List PhraseEntry) (templates others : List String) :
    (∀ front back, c.compile entries templates = .ok front → c.compile entries others = .ok back →
      ∃ g, c.compile entries (templates ++ others) = .ok g ∧
        g.sentences = front.sentences ++ back.sentences ∧
        g.choiceCount = front.choiceCount + back.choiceCount ∧
        ∀ utterance, g.recognize? utterance =
          (front.recognize? utterance).or
            ((back.recognize? utterance).map (Match.behind front.sentences.length))) ∧
    (∀ g name, c.compile entries templates = .ok g →
      c.compile entries others = .error (.empty name) →
      c.compile entries (templates ++ others) = .ok g) ∧
    ∀ g name, c.compile entries templates = .error (.empty name) →
      c.compile entries others = .ok g → c.compile entries (templates ++ others) = .ok g := by
  -- Templates are expanded one by one, so the two lists of variants stand one behind the other.
  simp only [compile, List.flatMap_append]
  refine ⟨fun front back compiled otherCompiled => ?_, fun g name compiled silent => ?_,
    fun g name silent compiled => ?_⟩
  · obtain ⟨nonempty, rfl⟩ := assemble_eq_ok_iff.mp compiled
    obtain ⟨-, rfl⟩ := assemble_eq_ok_iff.mp otherCompiled
    refine ⟨_, assemble_eq_ok c _ (by simp [nonempty]), ?_, ?_, ?_⟩
    · exact List.map_append
    · simp only [plainGrammar, List.map_append, totalWeight_append]
    · exact Grammar.recognize?_append List.map_append
  · rw [(assemble_eq_error_iff.mp silent).1, List.append_nil, compiled]
  · rw [(assemble_eq_error_iff.mp silent).1, List.nil_append, compiled]

/-- The last of three sentences is the last of the two that were added, and both lists use the key. -/
theorem compile_append_go_home :
    let entries : List PhraseEntry := [⟨"go", "go ?on"⟩]
    let templates := ["go ... north"]
    let others := ["... stop", "go home"]
    let pieces : List StepMatch :=
      [⟨some "go#0", some "go", "go on"⟩, ⟨some "home#1", some "home", "home"⟩]
    ∃ front back g, ({} : Compiler).compile entries templates = .ok front ∧
      ({} : Compiler).compile entries others = .ok back ∧
      ({} : Compiler).compile entries (templates ++ others) = .ok g ∧
      front.recognize? "go on home" = none ∧ back.recognize? "go on home" = some ⟨1, pieces⟩ ∧
      g.recognize? "go on home" = some ⟨2, pieces⟩ ∧
      ({} : Compiler).compile entries ["!!"] = .error (.empty "Command") ∧
      ({} : Compiler).compile entries (templates ++ ["!!"]) = .ok front ∧
      ({} : Compiler).compile entries (["!!"] ++ others) = .ok back := by
  intro entries templates others pieces
  let sentence : Sentence.Variant := [.key "go", .free, .key "north"]
  let added : List Sentence.Variant := [[.free, .key "stop"], [.key "go", .key "home"]]
  let front := ({} : Compiler).plainGrammar (.ofEntries entries) [sentence]
  let back := ({} : Compiler).plainGrammar (.ofEntries entries) added
  have compiled : ({} : Compiler).compile entries templates = .ok front := by
    have variants : templates.flatMap Sentence.variants = [sentence] := by decide +kernel
    rw [compile, variants, assemble_eq_ok _ _ (by simp)]
  have otherCompiled : ({} : Compiler).compile entries others = .ok back := by
    have variants : others.flatMap Sentence.variants = added := by decide +kernel
    rw [compile, variants, assemble_eq_ok _ _ (by simp [added])]
  have silent : ({} : Compiler).compile entries ["!!"] = .error (.empty "Command") := by
    have noVariants : ["!!"].flatMap Sentence.variants = [] := by decide +kernel
    rw [compile, noVariants, assemble_nil]
  obtain ⟨g, made, -, -, recognized⟩ :=
    (compile_append {} entries templates others).1 front back compiled otherCompiled
  have texts : Phrase.texts "go ?on" = ["go on", "go"] := by decide +kernel
  have frontFails : front.recognize? "go on home" = none := by
    have steps : front.sentences =
        [[.choice (StepId.render "go" 0) "go" ["go on", "go"], .free,
          .choice (StepId.render "north" 2) "north" ["north"]]] := by
      simp [front, sentence, plainGrammar, plainSteps, plainStepsFrom, plainStep, resolve_eq,
        Vocabulary.bucket_ofEntries, entries, texts]
    rw [Grammar.recognize?, steps]
    decide +kernel
  have backFinds : back.recognize? "go on home" = some ⟨1, pieces⟩ := by
    have steps : back.sentences =
        [[.free, .choice (StepId.render "stop" 1) "stop" ["stop"]],
          [.choice (StepId.render "go" 0) "go" ["go on", "go"],
            .choice (StepId.render "home" 1) "home" ["home"]]] := by
      simp [back, added, plainGrammar, plainSteps, plainStepsFrom, plainStep, resolve_eq,
        Vocabulary.bucket_ofEntries, entries, texts]
    rw [Grammar.recognize?, steps]
    decide +kernel
  refine ⟨front, back, g, compiled, otherCompiled, made, frontFails, backFinds, ?_, silent, ?_, ?_⟩
  · rw [recognized, frontFails, backFinds]
    rfl
  · exact (compile_append {} entries templates ["!!"]).2.1 front "Command" compiled silent
  · exact (compile_append {} entries ["!!"] others).2.2 back "Command" silent otherCompiled

end Compiler

end SpokenCommand
