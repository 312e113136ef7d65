import SpokenCommand.Recognition.Session

/-!
# The phases of a session

Seen from outside, a session is bare, has a grammar loaded, or listens under a grammar for a
subscriber. The parts of its state (the flag, the slot of the subscriber, the grammars and the
channel of the recognizer) must all tell the same phase: `Session.InPhase`.

Each operation takes a session from one phase to another, and which one depends on nothing but the
calls that the backend refuses. `Starts` and `Loads` list the ways that starting and loading can go,
with their results; `InPhase.start`, `InPhase.stop` and `InPhase.load` show that they go no other way.
What holds of sessions is read off these lists.
-/

namespace SpokenCommand

variable {σ : Type}

/-! ## Calls to the backend -/

namespace Backend

/-- Why the call of this number to load this grammar fails, if it does: it is refused, or the grammar
is of another locale. -/
def loadFault? (b : Backend) (call : Nat) (g : Grammar) : Option RecognitionError :=
  match b.loadRefusal call with
  | some reason => some (.backend reason)
  | none =>
    if sameLocale g.locale b.recognizer.locale then none
    else some (.localeMismatch g.locale b.recognizer.locale)

variable {b : Backend} {g : Grammar} {channel : Reducer}

/-- A call that is not refused fails only for the locale. -/
theorem loadFault?_of_sameLocale (fits : sameLocale g.locale b.recognizer.locale = true)
    (call : Nat) :
    b.loadFault? call g = (b.loadRefusal call).map .backend := by
  cases refusal : b.loadRefusal call <;> simp [loadFault?, refusal, fits]

theorem sameLocale_of_loadFault? {call : Nat} (accepted : b.loadFault? call g = none) :
    sameLocale g.locale b.recognizer.locale = true := by
  cases refusal : b.loadRefusal call with
  | some reason => simp [loadFault?, refusal] at accepted
  | none => simpa [loadFault?, refusal] using accepted

/-- A call to load that fails is counted, and has no other effect. -/
theorem load_of_fault {e : RecognitionError} (fault : b.loadFault? (b.loads + 1) g = some e) :
    b.load g = ({ b with loads := b.loads + 1 }, .error e) := by
  cases refusal : b.loadRefusal (b.loads + 1) with
  | some reason =>
    obtain rfl : .backend reason = e := by simpa [loadFault?, refusal] using fault
    simp [load, refusal]
  | none =>
    obtain ⟨other, rfl⟩ : sameLocale g.locale b.recognizer.locale = false ∧
        .localeMismatch g.locale b.recognizer.locale = e := by
      simpa [loadFault?, refusal] using fault
    simp [load, refusal, Recognizer.load, other]

/-- A call to load that does not fail puts the grammar behind the others. -/
theorem load_of_accepted (accepted : b.loadFault? (b.loads + 1) g = none) :
    b.load g =
      ({ b with
          loads := b.loads + 1
          recognizer := { b.recognizer with grammars := b.recognizer.grammars ++ [g] } },
        .ok ()) := by
  have fits := sameLocale_of_loadFault? accepted
  have notRefused : b.loadRefusal (b.loads + 1) = none := by
    simpa [loadFault?_of_sameLocale fits] using accepted
  simp [load, notRefused, Recognizer.load, fits]

theorem start_of_refused {reason : String} (refused : b.startRefusal (b.starts + 1) = some reason) :
    b.start channel = ({ b with starts := b.starts + 1 }, .error (.backend reason)) := by
  simp [start, refused]

/-- Where a grammar is loaded, a call to listen fails only when it is refused. -/
theorem start_of_granted (granted : b.startRefusal (b.starts + 1) = none)
    (loaded : b.recognizer.grammars = [g]) :
    b.start channel =
      ({ b with
          starts := b.starts + 1
          recognizer := { b.recognizer with channel := some channel } },
        .ok ()) := by
  simp [start, granted, Recognizer.start, loaded]

end Backend

/-! ## Phases -/

/-- What a session is doing. -/
inductive Phase (σ : Type) where
  /-- There is no grammar. -/
  | bare
  /-- A grammar is loaded. -/
  | loaded (g : Grammar)
  /-- The session listens under a grammar. -/
  | listening (g : Grammar) (subscriber : σ)

namespace Phase

/-- The grammar of a phase. -/
def grammar? : Phase σ → Option Grammar
  | .bare => none
  | .loaded g => some g
  | .listening g _ => some g

/-- The subscriber of a phase. -/
def subscriber? : Phase σ → Option σ
  | .listening _ subscriber => some subscriber
  | _ => none

/-- The channel of a phase ends at a reducer for its own grammar. -/
def channel? (config : RecognitionConfig) : Phase σ → Option Reducer
  | .listening g _ => some (.ofConfig config g.name)
  | _ => none

/-- The phase without its subscriber. -/
def silent : Phase σ → Phase σ
  | .listening g _ => .loaded g
  | p => p

end Phase

/-- Every part of the session tells the same phase, and the recognizer would accept the grammar of the
phase again. -/
structure Session.InPhase (s : Session σ) (p : Phase σ) : Prop where
  grammar : s.grammar = p.grammar?
  loaded : s.backend.recognizer.grammars = p.grammar?.toList
  subscriber : s.subscriber = p.subscriber?
  listening : s.listening = p.subscriber?.isSome
  channel : s.backend.recognizer.channel = p.channel? s.config
  fits : ∀ g, p.grammar? = some g → sameLocale g.locale s.backend.recognizer.locale = true

/-! ## What starting and loading can do

The three relations depend on the backend only through its answers: why it will refuse to listen, why
it will refuse to load the grammar of before again, and what is wrong with a new grammar. -/

/-- The ways that starting for a subscriber can go: from which phase, to which phase, and with which
result. -/
inductive Starts (refusal : Option String) (subscriber : σ) :
    Phase σ → Phase σ → Except RecognitionError Unit → Prop
  /-- Without a grammar there is nothing to listen for. -/
  | bare : Starts refusal subscriber .bare .bare (.error .noGrammar)
  /-- The session begins to listen. -/
  | opened {g : Grammar} : refusal = none →
      Starts refusal subscriber (.loaded g) (.listening g subscriber) (.ok ())
  /-- The backend refuses to listen. -/
  | refused {g : Grammar} {reason : String} : refusal = some reason →
      Starts refusal subscriber (.loaded g) (.loaded g) (.error (.backend reason))
  /-- A session that listens already goes on for the subscriber it has. -/
  | already {g : Grammar} {own : σ} :
      Starts refusal subscriber (.listening g own) (.listening g own) (.ok ())

/-- The ways that going back to a phase can go once a new grammar was rejected: to which phase it
leads. -/
inductive Restores (reload restart : Option String) : Phase σ → Phase σ → Prop
  /-- There was no grammar to go back to. -/
  | bare : Restores reload restart .bare .bare
  /-- The grammar of before is refused. -/
  | lost {p : Phase σ} {old : Grammar} {reason : String} : p.grammar? = some old →
      reload = some reason → Restores reload restart p .bare
  /-- The grammar of before is loaded again. -/
  | reloaded {old : Grammar} : reload = none → Restores reload restart (.loaded old) (.loaded old)
  /-- The session listens again under the grammar of before. -/
  | restored {old : Grammar} {subscriber : σ} : reload = none → restart = none →
      Restores reload restart (.listening old subscriber) (.listening old subscriber)
  /-- The grammar of before is loaded again, but the session cannot listen. -/
  | silenced {old : Grammar} {subscriber : σ} {reason : String} : reload = none →
      restart = some reason → Restores reload restart (.listening old subscriber) (.loaded old)

/-- The ways that loading a grammar can go: from which phase, to which phase, and with which
result. -/
inductive Loads (fault : Option RecognitionError) (reload restart : Option String) (g : Grammar) :
    Phase σ → Phase σ → Except RecognitionError Unit → Prop
  /-- The grammar takes the place of the one before, and nobody was listening. -/
  | replaced {p : Phase σ} : fault = none → p.subscriber? = none →
      Loads fault reload restart g p (.loaded g) (.ok ())
  /-- The grammar takes the place of the one before, and the session listens again. -/
  | resumed {old : Grammar} {subscriber : σ} : fault = none → restart = none →
      Loads fault reload restart g (.listening old subscriber) (.listening g subscriber) (.ok ())
  /-- The grammar takes the place of the one before, but the session cannot listen again. -/
  | unresumed {old : Grammar} {subscriber : σ} {reason : String} : fault = none →
      restart = some reason →
      Loads fault reload restart g (.listening old subscriber) (.loaded g) (.error (.backend reason))
  /-- The grammar is rejected, and the session goes back. -/
  | rejected {p after : Phase σ} {e : RecognitionError} : fault = some e →
      Restores reload restart p after → Loads fault reload restart g p after (.error e)

/-! ## No other ways -/

namespace Session

variable {s : Session σ} {p : Phase σ} {g : Grammar}

theorem InPhase.beginListening (inPhase : s.InPhase (.loaded g)) (subscriber : σ) :
    ∃ next result after, s.beginListening subscriber = (next, result) ∧
      Starts (s.backend.startRefusal (s.backend.starts + 1)) subscriber (.loaded g) after result ∧
      next.InPhase after ∧ next.config = s.config := by
  have own : s.grammar = some g := inPhase.grammar
  have loaded : s.backend.recognizer.grammars = [g] := inPhase.loaded
  cases refusal : s.backend.startRefusal (s.backend.starts + 1) with
  | some reason =>
    -- A refusal leaves the slot empty, as it was in this phase.
    let next : Session σ :=
      { s with backend := { s.backend with starts := s.backend.starts + 1 }, subscriber := none }
    have result : s.beginListening subscriber = (next, .error (.backend reason)) := by
      simp [Session.beginListening, own, Backend.start_of_refused refusal, next]
    exact ⟨next, _, .loaded g, result, .refused rfl, { inPhase with subscriber := rfl }, rfl⟩
  | none =>
    let recognizer := { s.backend.recognizer with channel := some (Reducer.ofConfig s.config g.name) }
    let next : Session σ :=
      { s with
        backend := { s.backend with starts := s.backend.starts + 1, recognizer }
        subscriber := some subscriber
        listening := true }
    have result : s.beginListening subscriber = (next, .ok ()) := by
      simp [Session.beginListening, own, Backend.start_of_granted refusal loaded, next, recognizer]
    refine ⟨next, _, .listening g subscriber, result, .opened rfl, ?_, rfl⟩
    exact ⟨own, loaded, rfl, rfl, rfl, inPhase.fits⟩

theorem InPhase.start (inPhase : s.InPhase p) (subscriber : σ) :
    ∃ next result after, s.start subscriber = (next, result) ∧
      Starts (s.backend.startRefusal (s.backend.starts + 1)) subscriber p after result ∧
      next.InPhase after ∧ next.config = s.config := by
  cases p with
  | bare =>
    have quiet : s.listening = false := inPhase.listening
    have own : s.grammar = none := inPhase.grammar
    have result : s.start subscriber = (s, .error .noGrammar) := by
      simp [Session.start, quiet, Session.beginListening, own]
    exact ⟨s, _, .bare, result, .bare, inPhase, rfl⟩
  | loaded g =>
    have quiet : s.listening = false := inPhase.listening
    have result : s.start subscriber = s.beginListening subscriber := by
      simp [Session.start, quiet]
    rw [result]
    exact inPhase.beginListening subscriber
  | listening g own =>
    have busy : s.listening = true := inPhase.listening
    have result : s.start subscriber = (s, .ok ()) := by simp [Session.start, busy]
    exact ⟨s, _, .listening g own, result, .already, inPhase, rfl⟩

/-- Stopping leaves the grammar, and nobody to listen for. -/
theorem InPhase.stop (inPhase : s.InPhase p) : s.stop.InPhase p.silent := by
  cases p with
  | bare | loaded g =>
    have quiet : s.listening = false := inPhase.listening
    have result : s.stop = s := by simp [Session.stop, quiet]
    rw [result]
    exact inPhase
  | listening g own =>
    have busy : s.listening = true := inPhase.listening
    have result : s.stop = s.endListening := by simp [Session.stop, busy]
    rw [result]
    exact ⟨inPhase.grammar, inPhase.loaded, rfl, rfl, rfl, inPhase.fits⟩

/-- The session as loading leaves it before it asks for the new grammar: silent, and without any
grammar. -/
def emptied (s : Session σ) : Session σ :=
  { s.stop with backend := s.stop.backend.unloadAll, grammar := none }

/-- Emptying changes neither the settings nor the number of calls. -/
theorem emptied_frame (s : Session σ) :
    s.emptied.config = s.config ∧
      ∃ channel, s.emptied.backend = { s.backend with
        recognizer := { s.backend.recognizer with grammars := [], channel } } := by
  by_cases busy : s.listening
  · exact ⟨by simp [emptied, stop, busy, endListening], none, by
      simp [emptied, stop, busy, endListening, Backend.stop, Backend.unloadAll, Recognizer.stop,
        Recognizer.unloadAll]⟩
  · exact ⟨by simp [emptied, stop, busy], s.backend.recognizer.channel, by
      simp [emptied, stop, busy, Backend.unloadAll, Recognizer.unloadAll]⟩

theorem InPhase.emptied (inPhase : s.InPhase p) : s.emptied.InPhase .bare := by
  have stopped := inPhase.stop
  refine ⟨rfl, rfl, ?_, ?_, ?_, by simp [Phase.grammar?]⟩
  · rw [Session.emptied, stopped.subscriber]
    cases p <;> rfl
  · rw [Session.emptied, stopped.listening]
    cases p <;> rfl
  · show s.stop.backend.recognizer.channel = none
    rw [stopped.channel]
    cases p <;> rfl

/-- A bare session takes a grammar that its backend accepts, and the backend's answer to the next call
to listen stays the same. -/
theorem InPhase.accept (inPhase : s.InPhase .bare)
    (accepted : s.backend.loadFault? (s.backend.loads + 1) g = none) :
    ∃ backend, s.backend.load g = (backend, .ok ()) ∧
      { s with backend, grammar := some g }.InPhase (.loaded g) ∧
      backend.startRefusal (backend.starts + 1) = s.backend.startRefusal (s.backend.starts + 1) := by
  refine ⟨_, Backend.load_of_accepted accepted, ?_, rfl⟩
  have none : s.backend.recognizer.grammars = [] := inPhase.loaded
  refine ⟨rfl, by simp [none, Phase.grammar?], inPhase.subscriber, inPhase.listening,
    inPhase.channel, ?_⟩
  rintro own same
  obtain rfl : g = own := by simpa [Phase.grammar?] using same
  exact Backend.sameLocale_of_loadFault? accepted

theorem InPhase.restore (inPhase : s.InPhase .bare)
    (fits : ∀ old, p.grammar? = some old →
      sameLocale old.locale s.backend.recognizer.locale = true) :
    ∃ after,
      Restores (s.backend.loadRefusal (s.backend.loads + 1))
        (s.backend.startRefusal (s.backend.starts + 1)) p after ∧
      (s.restore p.grammar? p.subscriber?).InPhase after ∧
      (s.restore p.grammar? p.subscriber?).config = s.config := by
  cases previous : p.grammar? with
  | none =>
    cases p with
    | bare => exact ⟨.bare, .bare, inPhase, rfl⟩
    | loaded old | listening old own => simp [Phase.grammar?] at previous
  | some old =>
    -- The locale of the old grammar fits, so that only a refusal can keep it out.
    have fault := Backend.loadFault?_of_sameLocale (fits old previous) (s.backend.loads + 1)
    cases refusal : s.backend.loadRefusal (s.backend.loads + 1) with
    | some reason =>
      rw [refusal] at fault
      rw [Session.restore, Backend.load_of_fault fault]
      exact ⟨.bare, .lost previous rfl, { inPhase with }, rfl⟩
    | none =>
      rw [refusal] at fault
      obtain ⟨backend, loads, loaded, sameAnswer⟩ := inPhase.accept fault
      rw [Session.restore, loads]
      cases p with
      | bare => simp [Phase.grammar?] at previous
      | loaded own =>
        obtain rfl : own = old := by simpa [Phase.grammar?] using previous
        exact ⟨.loaded own, .reloaded rfl, loaded, rfl⟩
      | listening own subscriber =>
        obtain rfl : own = old := by simpa [Phase.grammar?] using previous
        obtain ⟨next, result, after, begun, starts, nextPhase, sameConfig⟩ :=
          loaded.beginListening subscriber
        simp only [Phase.subscriber?, Session.resume, begun]
        refine ⟨after, ?_, nextPhase, sameConfig⟩
        cases starts with
        | opened granted => exact .restored rfl (sameAnswer.symm.trans granted)
        | refused refused => exact .silenced rfl (sameAnswer.symm.trans refused)

/-- Loading empties the session, asks for the new grammar, and then goes on or goes back with what the
phase had. -/
theorem InPhase.load_eq (inPhase : s.InPhase p) (g : Grammar) :
    s.load g = match s.emptied.backend.load g with
      | (backend, .ok ()) => { s.emptied with backend, grammar := some g }.resume p.subscriber?
      | (backend, .error e) =>
        ({ s.emptied with backend }.restore p.grammar? p.subscriber?, .error e) := by
  have kept : (if s.listening then s.subscriber else none) = p.subscriber? := by
    rw [inPhase.listening, inPhase.subscriber]
    cases p <;> rfl
  rw [← kept, ← inPhase.grammar]
  rfl

theorem InPhase.load (inPhase : s.InPhase p) (g : Grammar) :
    ∃ next result after, s.load g = (next, result) ∧
      Loads (s.backend.loadFault? (s.backend.loads + 1) g)
        (s.backend.loadRefusal (s.backend.loads + 2))
        (s.backend.startRefusal (s.backend.starts + 1)) g p after result ∧
      next.InPhase after ∧ next.config = s.config := by
  obtain ⟨sameConfig, channel, frame⟩ := s.emptied_frame
  have bare : s.emptied.InPhase .bare := inPhase.emptied
  -- The backend answers the emptied session as it would have answered this one.
  have sameFault : s.emptied.backend.loadFault? (s.emptied.backend.loads + 1) g =
      s.backend.loadFault? (s.backend.loads + 1) g := by rw [frame]; rfl
  cases fault : s.backend.loadFault? (s.backend.loads + 1) g with
  | some e =>
    rw [fault] at sameFault
    let rejected : Session σ := { s.emptied with
      backend := { s.emptied.backend with loads := s.emptied.backend.loads + 1 } }
    have rejectedBare : rejected.InPhase .bare := { bare with }
    have fits : ∀ old, p.grammar? = some old →
        sameLocale old.locale rejected.backend.recognizer.locale = true := by
      intro old previous
      show sameLocale old.locale s.emptied.backend.recognizer.locale = true
      rw [frame]
      exact inPhase.fits old previous
    obtain ⟨after, restores, nextPhase, keptConfig⟩ := rejectedBare.restore fits
    have sameReload : rejected.backend.loadRefusal (rejected.backend.loads + 1) =
        s.backend.loadRefusal (s.backend.loads + 2) := by
      simp only [rejected, frame]
    have sameRestart : rejected.backend.startRefusal (rejected.backend.starts + 1) =
        s.backend.startRefusal (s.backend.starts + 1) := by
      simp only [rejected, frame]
    rw [sameReload, sameRestart] at restores
    rw [inPhase.load_eq, Backend.load_of_fault sameFault]
    exact ⟨_, _, after, rfl, .rejected rfl restores, nextPhase, keptConfig.trans sameConfig⟩
  | none =>
    rw [fault] at sameFault
    obtain ⟨backend, loads, loaded, sameAnswer⟩ := bare.accept sameFault
    have sameRestart : backend.startRefusal (backend.starts + 1) =
        s.backend.startRefusal (s.backend.starts + 1) := by
      rw [sameAnswer, frame]
    rw [inPhase.load_eq, loads]
    cases p with
    | bare | loaded old =>
      exact ⟨_, _, .loaded g, rfl, .replaced rfl rfl, loaded, sameConfig⟩
    | listening old subscriber =>
      obtain ⟨next, result, after, begun, starts, nextPhase, keptConfig⟩ :=
        loaded.beginListening subscriber
      refine ⟨next, result, after, begun, ?_, nextPhase, keptConfig.trans sameConfig⟩
      cases starts with
      | opened granted => exact .resumed rfl (sameRestart.symm.trans granted)
      | refused refused => exact .unresumed rfl (sameRestart.symm.trans refused)

end Session

end SpokenCommand
