import Mathlib.Logic.ExistsUnique
import SpokenCommand.Proofs.Phases

/-!
# Runs of a session

A run is any history of operations on a session that was opened over a recognizer with arbitrary
schedules of refusals. After every operation, whether it succeeded or not, the session is in a phase
(`inPhase_run`). So its parts agree with each other (`run_consistent`), and a load that fails leaves
it in one of four ways, each of which is as good as nothing happened or tells plainly what was lost
(`failed_load_outcome`).
-/

namespace SpokenCommand

variable {σ : Type}

/-- What can be done with a session. -/
inductive Operation (σ : Type) where
  | load (g : Grammar)
  | start (subscriber : σ)
  | stop
  | say (utterance : String) (confidence : Numeral.Single)
  | emit (e : Event)

namespace Session

/-- A new session over a recognizer that refuses as the two schedules say. -/
def opened (config : RecognitionConfig) (locale : String)
    (loadRefusal startRefusal : Nat → Option String) : Session σ :=
  { config, backend := { recognizer := { locale }, loadRefusal, startRefusal } }

/-- The session after one operation, whatever its result. -/
def perform (s : Session σ) : Operation σ → Session σ
  | .load g => (s.load g).1
  | .start subscriber => (s.start subscriber).1
  | .stop => s.stop
  | .say _ _ => s
  | .emit _ => s

/-- The session after a history of operations. -/
def run (s : Session σ) (history : List (Operation σ)) : Session σ := history.foldl perform s

@[simp]
theorem run_nil (s : Session σ) : s.run [] = s := rfl

@[simp]
theorem run_cons (s : Session σ) (op : Operation σ) (history : List (Operation σ)) :
    s.run (op :: history) = (s.perform op).run history := rfl

@[simp]
theorem run_append (s : Session σ) (front back : List (Operation σ)) :
    s.run (front ++ back) = (s.run front).run back := List.foldl_append

/-! ## Every run is in a phase -/

variable {s : Session σ} {p : Phase σ}

theorem opened_inPhase (config : RecognitionConfig) (locale : String)
    (loadRefusal startRefusal : Nat → Option String) :
    (opened config locale loadRefusal startRefusal : Session σ).InPhase .bare :=
  ⟨rfl, rfl, rfl, rfl, rfl, by simp [Phase.grammar?]⟩

theorem stop_config (s : Session σ) : s.stop.config = s.config := by
  by_cases busy : s.listening <;> simp [stop, busy, endListening]

/-- One operation leads from a phase to a phase and keeps the settings. -/
theorem InPhase.perform (inPhase : s.InPhase p) (op : Operation σ) :
    ∃ after, (s.perform op).InPhase after ∧ (s.perform op).config = s.config := by
  cases op with
  | load g =>
    obtain ⟨next, result, after, loads, -, nextPhase, sameConfig⟩ := inPhase.load g
    rw [Session.perform, loads]
    exact ⟨after, nextPhase, sameConfig⟩
  | start subscriber =>
    obtain ⟨next, result, after, starts, -, nextPhase, sameConfig⟩ := inPhase.start subscriber
    rw [Session.perform, starts]
    exact ⟨after, nextPhase, sameConfig⟩
  | stop => exact ⟨p.silent, inPhase.stop, stop_config s⟩
  | say _ _ | emit _ => exact ⟨p, inPhase, rfl⟩

theorem InPhase.run (inPhase : s.InPhase p) (history : List (Operation σ)) :
    ∃ after, (s.run history).InPhase after ∧ (s.run history).config = s.config := by
  induction history generalizing s p with
  | nil => exact ⟨p, inPhase, rfl⟩
  | cons op history ih =>
    obtain ⟨middle, middlePhase, middleConfig⟩ := inPhase.perform op
    obtain ⟨after, afterPhase, afterConfig⟩ := ih middlePhase
    exact ⟨after, afterPhase, afterConfig.trans middleConfig⟩

section Runs

variable (config : RecognitionConfig) (locale : String)
  (loadRefusal startRefusal : Nat → Option String)

theorem inPhase_run (history : List (Operation σ)) :
    ∃ p, ((opened config locale loadRefusal startRefusal).run history).InPhase p :=
  let ⟨p, inPhase, _⟩ := (opened_inPhase config locale loadRefusal startRefusal).run history
  ⟨p, inPhase⟩

/-- After every history, the flag, the subscriber and the channel of the recognizer agree, the session
has the grammar that the recognizer has, and it listens only under a grammar. -/
theorem run_consistent (history : List (Operation σ)) :
    let s := (opened config locale loadRefusal startRefusal).run history
    (s.listening = true ↔ s.subscriber.isSome = true) ∧
      (s.listening = true ↔ s.backend.recognizer.channel.isSome = true) ∧
      (∀ g, s.grammar = some g ↔ s.backend.recognizer.grammars = [g]) ∧
      (s.grammar = none ↔ s.backend.recognizer.grammars = []) ∧
      (s.listening = true → ∃ g, s.grammar = some g) := by
  intro s
  obtain ⟨p, inPhase⟩ : ∃ p, s.InPhase p :=
    inPhase_run config locale loadRefusal startRefusal history
  rw [inPhase.listening, inPhase.subscriber, inPhase.channel, inPhase.grammar, inPhase.loaded]
  cases p <;> simp [Phase.subscriber?, Phase.channel?, Phase.grammar?]

end Runs

/-! ## Loads that fail -/

/-- Nobody is listened for, and no part of the session says otherwise. -/
structure Silent (s : Session σ) : Prop where
  listening : s.listening = false
  subscriber : s.subscriber = none
  channel : s.backend.recognizer.channel = none

/-- The session and its recognizer have this grammar and no other, or none at all. -/
structure Holds (s : Session σ) (g? : Option Grammar) : Prop where
  grammar : s.grammar = g?
  loaded : s.backend.recognizer.grammars = g?.toList

/-- Grammar, subscriber and listening are as they were in another session. -/
structure SameAs (after before : Session σ) : Prop where
  grammar : after.grammar = before.grammar
  listening : after.listening = before.listening
  subscriber : after.subscriber = before.subscriber
  loaded : after.backend.recognizer.grammars = before.backend.recognizer.grammars
  channel : after.backend.recognizer.channel = before.backend.recognizer.channel

theorem InPhase.silent (inPhase : s.InPhase p) (nobody : p.subscriber? = none) : s.Silent where
  listening := by rw [inPhase.listening, nobody]; rfl
  subscriber := by rw [inPhase.subscriber, nobody]
  channel := by
    rw [inPhase.channel]
    cases p with
    | bare | loaded g => rfl
    | listening g subscriber => simp [Phase.subscriber?] at nobody

theorem InPhase.sameAs {after : Session σ} (inPhase : after.InPhase p) (before : s.InPhase p)
    (sameConfig : after.config = s.config) : after.SameAs s where
  grammar := inPhase.grammar.trans before.grammar.symm
  listening := inPhase.listening.trans before.listening.symm
  subscriber := inPhase.subscriber.trans before.subscriber.symm
  loaded := inPhase.loaded.trans before.loaded.symm
  channel := by rw [inPhase.channel, before.channel, sameConfig]

end Session

/-- The ways that a load can fail. -/
inductive LoadFailure where
  /-- The grammar was rejected, and everything is as before. -/
  | unchanged
  /-- The grammar was rejected, and the one of before could not be loaded again. -/
  | lost
  /-- The grammar was rejected, and the session could not listen again under the one of before. -/
  | silenced
  /-- The grammar was accepted, but the session could not listen again. -/
  | unresumed
deriving DecidableEq, Repr

/-- What each way of failing with the error `e` says about the calls to the backend and about the
session `after` the load. The load asks for the new grammar first; then it asks once more for the
grammar of `before`, or once to listen, or both. -/
def LoadFailure.Describes (before : Session σ) (g : Grammar) (e : RecognitionError)
    (after : Session σ) : LoadFailure → Prop
  | .unchanged =>
    before.backend.loadFault? (before.backend.loads + 1) g = some e ∧
      (before.grammar.isSome = true →
        before.backend.loadRefusal (before.backend.loads + 2) = none) ∧
      (before.listening = true → before.backend.startRefusal (before.backend.starts + 1) = none) ∧
      after.SameAs before
  | .lost =>
    before.backend.loadFault? (before.backend.loads + 1) g = some e ∧
      before.grammar.isSome = true ∧
      (before.backend.loadRefusal (before.backend.loads + 2)).isSome = true ∧
      after.Holds none ∧ after.Silent
  | .silenced =>
    before.backend.loadFault? (before.backend.loads + 1) g = some e ∧
      before.grammar.isSome = true ∧
      before.backend.loadRefusal (before.backend.loads + 2) = none ∧
      before.listening = true ∧
      (before.backend.startRefusal (before.backend.starts + 1)).isSome = true ∧
      after.Holds before.grammar ∧ after.Silent
  | .unresumed =>
    before.backend.loadFault? (before.backend.loads + 1) g = none ∧
      before.listening = true ∧
      (∃ reason, before.backend.startRefusal (before.backend.starts + 1) = some reason ∧
        e = .backend reason) ∧
      after.Holds (some g) ∧ after.Silent

namespace LoadFailure

variable {before after : Session σ} {p : Phase σ} {g : Grammar} {e : RecognitionError}

/-- A load fails in one way only: the answers of the backend tell the ways apart. -/
theorem Describes.unique {one other : LoadFailure} (first : one.Describes before g e after)
    (second : other.Describes before g e after) : one = other := by
  cases one <;> cases other <;> simp_all [Describes]

theorem exists_describes (inPhase : before.InPhase p) (failed : (before.load g).2 = .error e) :
    ∃ failure : LoadFailure, failure.Describes before g e (before.load g).1 := by
  obtain ⟨next, result, nextPhase, loads, way, inNext, sameConfig⟩ := inPhase.load g
  rw [loads] at failed ⊢
  obtain rfl : result = .error e := failed
  have holds : next.Holds nextPhase.grammar? := ⟨inNext.grammar, inNext.loaded⟩
  -- Loads that succeed are out of the list already; what is left is read off the way it went.
  cases way with
  | unresumed accepted refused =>
    exact ⟨.unresumed, accepted, inPhase.listening, ⟨_, refused, rfl⟩, holds, inNext.silent rfl⟩
  | rejected rejected restores =>
    cases restores with
    | bare =>
      refine ⟨.unchanged, rejected, ?_, ?_, inNext.sameAs inPhase sameConfig⟩
      · simp [inPhase.grammar, Phase.grammar?]
      · simp [inPhase.listening, Phase.subscriber?]
    | lost previous refused =>
      refine ⟨.lost, rejected, ?_, by simp [refused], holds, inNext.silent rfl⟩
      simp [inPhase.grammar, previous]
    | reloaded reloaded =>
      refine ⟨.unchanged, rejected, fun _ => reloaded, ?_, inNext.sameAs inPhase sameConfig⟩
      simp [inPhase.listening, Phase.subscriber?]
    | restored reloaded restarted =>
      exact ⟨.unchanged, rejected, fun _ => reloaded, fun _ => restarted,
        inNext.sameAs inPhase sameConfig⟩
    | silenced reloaded refused =>
      refine ⟨.silenced, rejected, ?_, reloaded, inPhase.listening, by simp [refused], ?_,
        inNext.silent rfl⟩
      · simp [inPhase.grammar, Phase.grammar?]
      · rw [inPhase.grammar]
        exact holds

end LoadFailure

/-- Whatever happened before and whatever the backend refuses, a load that fails does so in exactly
one of the four ways. -/
theorem failed_load_outcome (config : RecognitionConfig) (locale : String)
    (loadRefusal startRefusal : Nat → Option String) (history : List (Operation σ)) (g : Grammar)
    (e : RecognitionError)
    (failed : (((Session.opened config locale loadRefusal startRefusal).run history).load g).2 =
      .error e) :
    ∃! failure : LoadFailure,
      failure.Describes ((Session.opened config locale loadRefusal startRefusal).run history) g e
        (((Session.opened config locale loadRefusal startRefusal).run history).load g).1 := by
  obtain ⟨p, inPhase⟩ := Session.inPhase_run config locale loadRefusal startRefusal history
  obtain ⟨failure, describes⟩ := LoadFailure.exists_describes inPhase failed
  exact ⟨failure, describes, fun _ otherDescribes => otherDescribes.unique describes⟩

/-- A session that listens and loses both its second load and its second start. -/
theorem failed_load_and_restart :
    let second (reason : String) (call : Nat) := if call = 2 then some reason else none
    let g : Grammar := ⟨"Command", "en-US", [], 0⟩
    let s : Session Nat := (Session.opened {} "en-US" (second "no memory") (second "no device")).run
      [.load g, .start 7]
    (s.load g).2 = .error (.backend "no memory") ∧
      ∃! failure : LoadFailure, failure.Describes s g (.backend "no memory") (s.load g).1 :=
  ⟨rfl, failed_load_outcome _ _ _ _ _ _ _ rfl⟩

end SpokenCommand
