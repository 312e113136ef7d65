import SpokenCommand.Proofs.SessionRuns

/-!
# Who gets what

An utterance or an event reaches the subscriber through the channel that was opened when the session
began to listen, with the reducer of that moment at its end. Over any history of operations, what is
delivered is a function of three things only: whether the session listens, its current grammar, and
the subscriber whose start opened the listening (`latestOpener`). `delivery_law` says which function.
-/

namespace SpokenCommand

variable {σ : Type}

/-- The subscriber for whom an operation opens the listening: that of a start which succeeds while the
session does not listen. -/
def Operation.opener? (s : Session σ) : Operation σ → Option σ
  | .start subscriber =>
    if !s.listening && (s.start subscriber).2.isOk then some subscriber else none
  | _ => none

/-- A load resumes for the subscriber it has interrupted, or for nobody. -/
theorem Loads.subscriber? {fault : Option RecognitionError} {reload restart : Option String}
    {g : Grammar} {p after : Phase σ} {result : Except RecognitionError Unit} {subscriber : σ}
    (loads : Loads fault reload restart g p after result)
    (resumed : after.subscriber? = some subscriber) : p.subscriber? = some subscriber := by
  cases loads with
  | replaced | unresumed => simp [Phase.subscriber?] at resumed
  | resumed => exact resumed
  | rejected _ restores =>
    cases restores with
    | bare | lost | reloaded | silenced => simp [Phase.subscriber?] at resumed
    | restored => exact resumed

namespace Session

/-- The subscriber of the latest start in a history that succeeded while the session did not listen,
and `latest` where there is none. -/
def latestOpener (s : Session σ) (latest : Option σ) : List (Operation σ) → Option σ
  | [] => latest
  | op :: history => (s.perform op).latestOpener (op.opener? s <|> latest) history

variable {s : Session σ} {p : Phase σ}

/-! ## One delivery -/

theorem InPhase.emit (inPhase : s.InPhase p) (e : Event) :
    s.emit e = match p with
      | .listening g subscriber =>
        (true, ((Reducer.ofConfig s.config g.name).reduce e).map (subscriber, ·))
      | _ => (false, none) := by
  cases p with
  | bare | loaded g =>
    have noChannel : s.backend.recognizer.channel = none := inPhase.channel
    simp [Session.emit, Recognizer.emit, noChannel, deliver]
  | listening g subscriber =>
    have channel : s.backend.recognizer.channel = some (.ofConfig s.config g.name) := inPhase.channel
    have slot : s.subscriber = some subscriber := inPhase.subscriber
    cases reduced : (Reducer.ofConfig s.config g.name).reduce e <;>
      simp [Session.emit, Recognizer.emit, channel, deliver, slot, reduced]

/-- An utterance is heard as the event that the only grammar of the session makes of it. -/
theorem InPhase.say (inPhase : s.InPhase p) (utterance : String) (confidence : Numeral.Single) :
    s.say utterance confidence = match p with
      | .listening g _ =>
        match g.recognize? utterance with
        | some m => s.emit ⟨confidence, g.name, m.eventSteps, true⟩
        | none => (false, none)
      | _ => (false, none) := by
  cases p with
  | bare | loaded g =>
    have noChannel : s.backend.recognizer.channel = none := inPhase.channel
    simp [Session.say, Recognizer.hear, noChannel, deliver]
  | listening g subscriber =>
    have channel : s.backend.recognizer.channel = some (.ofConfig s.config g.name) := inPhase.channel
    have only : s.backend.recognizer.grammars = [g] := inPhase.loaded
    cases recognized : g.recognize? utterance <;>
      simp [Session.say, Session.emit, Recognizer.hear, Recognizer.emit, Recognizer.eventFor, channel,
        only, recognized, deliver]

/-- A session that has stopped hears nothing. -/
theorem InPhase.say_stop (inPhase : s.InPhase p) (utterance : String) (confidence : Numeral.Single) :
    s.stop.say utterance confidence = (false, none) := by
  rw [inPhase.stop.say]
  cases p <;> rfl

/-! ## The subscriber -/

/-- If anybody is listened for, it is the one whose start opened the listening. -/
def Tracks (s : Session σ) (latest : Option σ) : Prop :=
  ∃ p : Phase σ, s.InPhase p ∧ ∀ subscriber, p.subscriber? = some subscriber →
    latest = some subscriber

theorem Tracks.perform {latest : Option σ} (tracks : s.Tracks latest) (op : Operation σ) :
    (s.perform op).Tracks (op.opener? s <|> latest) := by
  obtain ⟨p, inPhase, kept⟩ := tracks
  cases op with
  | load g =>
    obtain ⟨next, result, after, loads, way, inNext, -⟩ := inPhase.load g
    rw [Session.perform, loads]
    exact ⟨after, inNext, fun subscriber same => kept subscriber (way.subscriber? same)⟩
  | start own =>
    obtain ⟨next, result, after, starts, way, inNext, -⟩ := inPhase.start own
    rw [Session.perform, starts]
    refine ⟨after, inNext, fun subscriber same => ?_⟩
    cases way with
    | bare | refused => simp [Phase.subscriber?] at same
    | opened =>
      -- The start succeeds on a session that did not listen: this is the opener.
      have quiet : s.listening = false := inPhase.listening
      obtain rfl : own = subscriber := by simpa [Phase.subscriber?] using same
      simp [Operation.opener?, quiet, starts, Except.isOk, Except.toBool]
    | already =>
      -- The start succeeds as well, but opens nothing.
      have busy : s.listening = true := inPhase.listening
      simpa [Operation.opener?, busy] using kept subscriber same
  | stop =>
    refine ⟨p.silent, inPhase.stop, fun subscriber same => ?_⟩
    cases p <;> simp [Phase.silent, Phase.subscriber?] at same
  | say _ _ | emit _ => exact ⟨p, inPhase, kept⟩

theorem Tracks.run {latest : Option σ} (tracks : s.Tracks latest) (history : List (Operation σ)) :
    (s.run history).Tracks (s.latestOpener latest history) := by
  induction history generalizing s latest with
  | nil => exact tracks
  | cons op history ih => exact ih (tracks.perform op)

/-! ## The grammar -/

theorem InPhase.grammar_perform (inPhase : s.InPhase p) (op : Operation σ) {current : Grammar}
    (has : (s.perform op).grammar = some current) :
    s.grammar = some current ∨ op = .load current := by
  cases op with
  | load g =>
    obtain ⟨next, result, after, loads, way, inNext, -⟩ := inPhase.load g
    rw [Session.perform, loads, inNext.grammar] at has
    rw [inPhase.grammar]
    cases way with
    | replaced | resumed | unresumed =>
      obtain rfl : g = current := by simpa [Phase.grammar?] using has
      exact .inr rfl
    | rejected _ restores =>
      cases restores with
      -- After these two there is no grammar at all.
      | bare | lost => simp [Phase.grammar?] at has
      | reloaded | restored | silenced => exact .inl has
  | start own =>
    obtain ⟨next, result, after, starts, way, inNext, -⟩ := inPhase.start own
    rw [Session.perform, starts, inNext.grammar] at has
    rw [inPhase.grammar]
    cases way <;> exact .inl has
  | stop =>
    rw [Session.perform, inPhase.stop.grammar] at has
    rw [inPhase.grammar]
    cases p <;> exact .inl has
  | say _ _ | emit _ => exact .inl has

/-- The grammar after a history is the one from before or was loaded in between. -/
theorem InPhase.grammar_run (inPhase : s.InPhase p) (history : List (Operation σ))
    {current : Grammar} (has : (s.run history).grammar = some current) :
    s.grammar = some current ∨ .load current ∈ history := by
  induction history generalizing s p with
  | nil => exact .inl has
  | cons op history ih =>
    obtain ⟨middle, inMiddle, -⟩ := inPhase.perform op
    rcases ih inMiddle has with before | later
    · rcases inPhase.grammar_perform op before with kept | loaded
      · exact .inl kept
      · exact .inr (by simp [loaded])
    · exact .inr (List.mem_cons_of_mem op later)

theorem InPhase.grammar_of_load (inPhase : s.InPhase p) {g : Grammar}
    (succeeded : (s.load g).2 = .ok ()) : (s.load g).1.grammar = some g := by
  obtain ⟨next, result, after, loads, way, inNext, -⟩ := inPhase.load g
  rw [loads] at succeeded ⊢
  obtain rfl : result = .ok () := succeeded
  rw [inNext.grammar]
  cases way <;> rfl

/-- Since a load that succeeded, no other grammars count than its own and those loaded later. -/
theorem InPhase.grammar_since_load (inPhase : s.InPhase p) {g : Grammar}
    (succeeded : (s.load g).2 = .ok ()) (history : List (Operation σ)) {current : Grammar}
    (has : ((s.perform (.load g)).run history).grammar = some current) :
    current = g ∨ .load current ∈ history := by
  obtain ⟨middle, inMiddle, -⟩ := inPhase.perform (.load g)
  rcases inMiddle.grammar_run history has with kept | loaded
  · have own : (s.perform (.load g)).grammar = some g := inPhase.grammar_of_load succeeded
    rw [own] at kept
    exact .inl (Option.some.inj kept).symm
  · exact .inr loaded

/-! ## The law -/

theorem InPhase.emit_fst_iff (inPhase : s.InPhase p) (e : Event) :
    (s.emit e).1 = true ↔ s.listening = true := by
  rw [inPhase.emit, inPhase.listening]
  cases p <;> simp [Phase.subscriber?]

theorem InPhase.say_fst_iff (inPhase : s.InPhase p) (utterance : String)
    (confidence : Numeral.Single) :
    (s.say utterance confidence).1 = true ↔
      s.listening = true ∧ ∃ g, s.grammar = some g ∧ (g.recognize? utterance).isSome = true := by
  rw [inPhase.say, inPhase.grammar, inPhase.listening]
  cases p with
  | bare | loaded g => simp [Phase.subscriber?]
  | listening g subscriber =>
    cases recognized : g.recognize? utterance <;>
      simp [Phase.subscriber?, Phase.grammar?, inPhase.emit, recognized]

theorem Tracks.emit_snd_iff {latest : Option σ} (tracks : s.Tracks latest) (e : Event)
    (receiver : σ) (text : String) :
    (s.emit e).2 = some (receiver, text) ↔
      s.listening = true ∧ latest = some receiver ∧
        ∃ g, s.grammar = some g ∧ (Reducer.ofConfig s.config g.name).reduce e = some text := by
  obtain ⟨p, inPhase, kept⟩ := tracks
  rw [inPhase.emit, inPhase.grammar, inPhase.listening]
  cases p with
  | bare | loaded g => simp [Phase.subscriber?]
  | listening g subscriber =>
    -- While the session listens, the latest opener and the subscriber in the slot are the same.
    obtain rfl : latest = some subscriber := kept subscriber rfl
    cases reduced : (Reducer.ofConfig s.config g.name).reduce e <;>
      simp [Phase.subscriber?, Phase.grammar?, reduced]

theorem Tracks.say_snd_iff {latest : Option σ} (tracks : s.Tracks latest) (utterance : String)
    (confidence : Numeral.Single) (receiver : σ) (text : String) :
    (s.say utterance confidence).2 = some (receiver, text) ↔
      s.listening = true ∧ latest = some receiver ∧
        ∃ g m, s.grammar = some g ∧ g.recognize? utterance = some m ∧
          (Reducer.ofConfig s.config g.name).reduce ⟨confidence, g.name, m.eventSteps, true⟩ =
            some text := by
  have emitted := tracks.emit_snd_iff
  obtain ⟨p, inPhase, -⟩ := tracks
  rw [inPhase.say]
  rw [inPhase.grammar, inPhase.listening] at *
  cases p with
  | bare | loaded g => simp [Phase.subscriber?]
  | listening g subscriber =>
    cases recognized : g.recognize? utterance <;>
      simp [Phase.subscriber?, Phase.grammar?, recognized, emitted]

/-- Over every history: an utterance is heard exactly when the session listens and its own grammar
recognizes it, and an event exactly when the session listens. What is delivered then goes to the
subscriber who opened the listening, and it is what reducing the event gives under the threshold and
the order of the settings and the name of the current grammar. No grammar from before a successful load
is ever the current one again. -/
theorem delivery_law (config : RecognitionConfig) (locale : String)
    (loadRefusal startRefusal : Nat → Option String) (history : List (Operation σ)) :
    let origin : Session σ := opened config locale loadRefusal startRefusal
    let s := origin.run history
    (∀ utterance confidence, (s.say utterance confidence).1 = true ↔
      s.listening = true ∧ ∃ g, s.grammar = some g ∧ (g.recognize? utterance).isSome = true) ∧
    (∀ e, (s.emit e).1 = true ↔ s.listening = true) ∧
    (∀ utterance confidence receiver text, (s.say utterance confidence).2 = some (receiver, text) ↔
      s.listening = true ∧ origin.latestOpener none history = some receiver ∧
        ∃ g m, s.grammar = some g ∧ g.recognize? utterance = some m ∧
          (Reducer.mk config.threshold g.name config.order).reduce
            ⟨confidence, g.name, m.eventSteps, true⟩ = some text) ∧
    (∀ e receiver text, (s.emit e).2 = some (receiver, text) ↔
      s.listening = true ∧ origin.latestOpener none history = some receiver ∧
        ∃ g, s.grammar = some g ∧
          (Reducer.mk config.threshold g.name config.order).reduce e = some text) ∧
    (∀ before g after, history = before ++ .load g :: after →
      ((origin.run before).load g).2 = .ok () →
      ∀ current, s.grammar = some current → current = g ∨ .load current ∈ after) := by
  intro origin s
  have start : origin.InPhase .bare := opened_inPhase config locale loadRefusal startRefusal
  have tracks : s.Tracks (origin.latestOpener none history) :=
    Tracks.run ⟨.bare, start, by simp [Phase.subscriber?]⟩ history
  obtain ⟨p, inPhase, sameConfig⟩ := start.run history
  have config_eq : s.config = config := sameConfig
  refine ⟨inPhase.say_fst_iff, inPhase.emit_fst_iff, ?_, ?_, ?_⟩
  · rw [← config_eq]
    exact tracks.say_snd_iff
  · rw [← config_eq]
    exact tracks.emit_snd_iff
  · rintro before g after rfl succeeded current has
    obtain ⟨q, inBefore, -⟩ := start.run before
    exact inBefore.grammar_since_load succeeded after (by simpa [s] using has)

/-- The second start opens nothing, and the second load is refused: what is heard goes to the first
subscriber, under the first grammar. -/
theorem delivery_law_refused_load :
    let only (key : String) : Grammar :=
      ⟨"Command", "en-US", [[.choice (StepId.render key 0) key [key], .free]], 2⟩
    let refusal (call : Nat) : Option String := if call = 2 then some "no memory" else none
    let s : Session Nat := (opened {} "en-US" refusal fun _ => none).run
      [.load (only "halt"), .start 1, .start 2, .load (only "go")]
    s.say "Halt at once" typedConfidence = (true, some (1, "halt")) ∧
      (s.say "go home" typedConfidence).1 = false := by
  intro only refusal s
  let history : List (Operation Nat) :=
    [.load (only "halt"), .start 1, .start 2, .load (only "go")]
  obtain ⟨hears, -, delivers, -, -⟩ := delivery_law {} "en-US" refusal (fun _ => none) history
  have halt : (only "halt").recognize? "Halt at once" =
      some ⟨0, [⟨some "halt#0", some "halt", "halt"⟩, ⟨none, none, "at once"⟩]⟩ := by decide +kernel
  have go : (only "halt").recognize? "go home" = none := by decide +kernel
  have kept : s.grammar = some (only "halt") := by decide +kernel
  have listens : s.listening = true := by decide +kernel
  constructor
  · exact Prod.ext ((hears _ _).mpr ⟨listens, _, kept, by rw [halt]; rfl⟩)
      ((delivers _ _ _ _).mpr
        ⟨listens, by decide +kernel, _, _, kept, halt, by decide +kernel⟩)
  · refine Bool.eq_false_iff.mpr fun said => ?_
    obtain ⟨-, g, own, recognized⟩ := (hears _ _).mp said
    obtain rfl : only "halt" = g := Option.some.inj (kept.symm.trans own)
    simp [go] at recognized

end Session

end SpokenCommand
