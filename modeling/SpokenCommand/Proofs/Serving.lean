import SpokenCommand.Proofs.ResultStream

/-!
# When the host serves a client

A client is turned away for one of five reasons, of which the first that applies is reported: three
about the line it sends (`Transport.Unreadable`), one about the settings of the host, and one about
its sentences (`Host.Hinders`). Nothing else can keep the host from listening, and a client that is
turned away has seen nothing of the host (`Host.serve_fails_exactly`).
-/

namespace SpokenCommand

/-! ## The line of a handshake -/

namespace Transport

section Reading

variable {stream : List UInt8}

theorem readHandshake_long (long : maxHandshake < (firstLine stream).length) :
    (readHandshake stream).1 = .error (.handshakeTooLarge maxHandshake) := by
  -- One byte more than allowed is taken, and is enough to tell.
  have taken : (nextChunk stream).length = maxHandshake + 1 := by
    rw [nextChunk, List.length_take]
    omega
  have nonempty : stream ≠ [] := by
    intro nothing
    simp [nothing, firstLine] at long
  rw [readHandshake_eq, if_neg nonempty, if_pos (by omega)]

theorem readHandshake_short (nonempty : stream ≠ [])
    (short : (firstLine stream).length ≤ maxHandshake) :
    (readHandshake stream).1 = decodeHandshake (firstLine stream) := by
  rw [readHandshake_eq, if_neg nonempty, nextChunk_of_short (by omega),
    if_neg (Nat.not_lt.mpr short)]

/-- Why a stream does not begin with a handshake. -/
inductive Unreadable (stream : List UInt8) : TransportError → Prop
  /-- Nothing is sent. -/
  | closed : stream = [] → Unreadable stream .connectionClosed
  /-- The line is too long. -/
  | tooLarge : maxHandshake < (firstLine stream).length →
      Unreadable stream (.handshakeTooLarge maxHandshake)
  /-- The line is none of a handshake. -/
  | malformed {cause : Json.Fault} : stream ≠ [] → (firstLine stream).length ≤ maxHandshake →
      Handshake.decode (firstLine stream) = .error cause →
      Unreadable stream (.malformedHandshake cause)

theorem readHandshake_eq_error_iff {e : TransportError} :
    (readHandshake stream).1 = .error e ↔ Unreadable stream e := by
  constructor
  · intro failed
    -- In the order in which the reader decides.
    by_cases nothing : stream = []
    · rw [nothing, readHandshake_nil] at failed
      cases failed
      exact .closed nothing
    · by_cases long : maxHandshake < (firstLine stream).length
      · rw [readHandshake_long long] at failed
        cases failed
        exact .tooLarge long
      · have short := Nat.le_of_not_lt long
        rw [readHandshake_short nothing short, decodeHandshake] at failed
        cases decoded : Handshake.decode (firstLine stream) with
        | ok h => simp [decoded] at failed
        | error cause =>
          simp only [decoded] at failed
          cases failed
          exact .malformed nothing short decoded
  · intro unreadable
    cases unreadable with
    | closed nothing => rw [nothing, readHandshake_nil]
    | tooLarge long => exact readHandshake_long long
    | malformed nonempty short decoded =>
      rw [readHandshake_short nonempty short, decodeHandshake, decoded]

end Reading

end Transport

/-! ## Compiling -/

/-- The name for grammars holds nothing but blanks. -/
def RecognitionConfig.Nameless (c : RecognitionConfig) : Prop :=
  ∀ ch ∈ c.grammarName.toList, Text.isBlank ch = true

theorem RecognitionConfig.nameless_iff {c : RecognitionConfig} :
    c.Nameless ↔ Text.allBlank c.grammarName = true := by
  rw [Nameless, Text.allBlank, List.all_eq_true]

theorem RecognitionConfig.compiler_eq_error_iff {c : RecognitionConfig} {e : GrammarError} :
    c.compiler = .error e ↔ c.Nameless ∧ .invalidName c.grammarName = e := by
  rw [nameless_iff]
  cases blank : Text.allBlank c.grammarName <;>
    simp [RecognitionConfig.compiler, Compiler.named, blank, Except.map]

theorem RecognitionConfig.compiler_eq_ok_iff {c : RecognitionConfig} {compiler : Compiler} :
    c.compiler = .ok compiler ↔ ¬ c.Nameless ∧ ⟨c.grammarName, c.locale⟩ = compiler := by
  rw [nameless_iff]
  cases blank : Text.allBlank c.grammarName <;>
    simp [RecognitionConfig.compiler, Compiler.named, blank, Except.map]

theorem Compiler.compile_eq_error_iff {c : Compiler} {entries : List PhraseEntry}
    {templates : List String} {e : GrammarError} :
    c.compile entries templates = .error e ↔
      (∀ template ∈ templates, Sentence.tokens template = []) ∧ .empty c.name = e := by
  have noVariants : templates.flatMap Sentence.variants = [] ↔
      ∀ template ∈ templates, Sentence.tokens template = [] := by
    simp only [List.flatMap_eq_nil_iff, Sentence.variants_eq_nil_iff]
  rw [Compiler.compile, ← noVariants, assemble_eq_error_iff]

theorem bind_eq_error_iff {ε α β : Type} {result : Except ε α} {next : α → Except ε β} {e : ε} :
    (result >>= next) = .error e ↔
      result = .error e ∨ ∃ a, result = .ok a ∧ next a = .error e := by
  cases result <;> simp [bind, Except.bind]

theorem Session.ready_eq_ok_iff {σ : Type} {config : RecognitionConfig} {g : Grammar}
    {subscriber : σ} {session : Session σ} :
    Session.ready config g subscriber = .ok session ↔
      ∃ loaded, (Session.fresh config config.locale).load g = (loaded, .ok ()) ∧
        loaded.start subscriber = (session, .ok ()) := by
  rcases loads : (Session.fresh config config.locale).load g with ⟨loaded, _ | _⟩
  · simp [Session.ready, loads]
  · rcases starts : loaded.start subscriber with ⟨started, _ | _⟩
    · simp [Session.ready, loads, starts]
    · simp [Session.ready, loads, starts]

namespace Host

variable {config : Config} {stream : List UInt8} {f : Failure}

/-! ## Turning a client away -/

/-- What keeps the host from listening to a client who sends these bytes. Each reason counts only where
those above it do not apply. -/
inductive Hinders (config : Config) (stream : List UInt8) : Failure → Prop
  /-- There is no handshake. -/
  | handshake {e : TransportError} : Transport.Unreadable stream e →
      Hinders config stream ⟨some "reading handshake", .transport e⟩
  /-- The name for the grammar is blank. -/
  | name {h : Handshake} : (Transport.readHandshake stream).1 = .ok h →
      config.recognition.Nameless →
      Hinders config stream
        ⟨none, .recognition (.grammar (.invalidName config.recognition.grammarName))⟩
  /-- There is no token in any sentence. -/
  | sentences {h : Handshake} : (Transport.readHandshake stream).1 = .ok h →
      ¬ config.recognition.Nameless →
      (∀ template ∈ h.sentences, Sentence.tokens template = []) →
      Hinders config stream
        ⟨some "compiling grammar", .recognition (.grammar (.empty config.recognition.grammarName))⟩

theorem attach_eq_error_iff : attach config stream = .error f ↔ Hinders config stream f := by
  simp only [attach, listen, bind_eq_error_iff, during_eq_error_iff, during_eq_ok_iff,
    plainly_eq_error_iff, plainly_eq_ok_iff, Transport.readHandshake_eq_error_iff,
    RecognitionConfig.compiler_eq_error_iff, Compiler.compile_eq_error_iff]
  constructor
  · rintro (⟨e, unreadable, rfl⟩ | ⟨h, read, ⟨e, ⟨blank, rfl⟩, rfl⟩ |
      ⟨compiler, named, ⟨e, ⟨silent, rfl⟩, rfl⟩ | ⟨g, compiled, e, unready, rfl⟩⟩⟩)
    · exact .handshake unreadable
    · exact .name read blank
    · obtain ⟨notBlank, rfl⟩ := RecognitionConfig.compiler_eq_ok_iff.mp named
      exact .sentences read notBlank silent
    · -- The grammar has the locale of the session, which therefore gets to listen.
      obtain ⟨session, ready, -⟩ :=
        Session.ready_of_sameLocale (RecognitionConfig.sameLocale_of_compile named compiled) ()
      rw [ready] at unready
      cases unready
  · intro hinders
    cases hinders with
    | handshake unreadable => exact .inl ⟨_, unreadable, rfl⟩
    | name read blank => exact .inr ⟨_, read, .inl ⟨_, ⟨blank, rfl⟩, rfl⟩⟩
    | sentences read notBlank silent =>
      have named := RecognitionConfig.compiler_eq_ok_iff.mpr ⟨notBlank, rfl⟩
      exact .inr ⟨_, read, .inr ⟨_, named, .inl ⟨_, ⟨silent, rfl⟩, rfl⟩⟩⟩

theorem serve_eq_error_iff {utterances : List String} :
    serve config (some stream) utterances = .error f ↔ Hinders config stream f := by
  rw [← attach_eq_error_iff]
  cases attached : attach config stream <;> simp [serve, attached, bind, Except.bind, pure, Except.pure]

/-- Once its sentences are compiled, nothing hinders a client. -/
theorem Hinders.grammar {e : RecognitionError} (hinders : Hinders config stream f)
    (cause : f.cause = .recognition e) : ∃ g, e = .grammar g := by
  cases hinders with
  | handshake => cases cause
  | name | sentences =>
    cases cause
    exact ⟨_, rfl⟩

theorem Compiles.not_hinders {g : Grammar} (compiles : Compiles config stream g) :
    ∀ f, ¬ Hinders config stream f := by
  intro f hinders
  obtain ⟨session, attached, -⟩ := compiles.attach
  rw [attach_eq_error_iff.mpr hinders] at attached
  cases attached

/-! ## What the client sees -/

/-- What the host does that others can see. -/
inductive Deed where
  /-- The input of the recognizer is handed out. -/
  | attach
  | send (line : String)
deriving DecidableEq, Repr

/-- Something that leaves deeds behind, which no failure takes back. -/
abbrev Traced := ExceptT Failure (StateM (List Deed))

namespace Traced

/-- How it goes when these deeds are done already. -/
def after {α : Type} (deeds : List Deed) (x : Traced α) : Except Failure α × List Deed :=
  Id.run (StateT.run (ExceptT.run x) deeds)

/-- A result or a failure, without any deed. -/
def lift {α : Type} (result : Except Failure α) : Traced α := ExceptT.mk (pure result)

/-- One deed. -/
def note (d : Deed) : Traced Unit := modify (· ++ [d])

variable {α β : Type} (deeds : List Deed)

theorem after_pure (a : α) : after deeds (pure a) = (.ok a, deeds) := rfl

theorem after_note_bind (d : Deed) (next : Unit → Traced β) :
    after deeds (note d >>= next) = after (deeds ++ [d]) (next ()) := rfl

theorem after_lift_bind (result : Except Failure α) (next : α → Traced β) :
    after deeds (lift result >>= next) = match result with
      | .ok a => after deeds (next a)
      | .error f => (.error f, deeds) := by
  cases result <;> rfl

end Traced

open Traced in
/-- The visit of a client, deed by deed. -/
def serveTraced (config : Config) (stream : List UInt8) (utterances : List String) :
    Traced Outcome := do
  let session ← lift (attach config stream)
  note .attach
  -- Without a newline the client has closed its side already, which is the first thing to be noticed.
  if Transport.newline ∈ stream then answer session utterances else pure .clientClosed
where
  /-- Sends what there is to send for each utterance, until the client leaves. -/
  answer (session : Session Unit) : List String → Traced Outcome
    | [] => pure .clientClosed
    | utterance :: later => do
      match (reply config session utterance).2 with
      | none => pure ()
      | some line => note (.send line)
      answer session later

theorem after_answer (session : Session Unit) (utterances : List String) (deeds : List Deed) :
    Traced.after deeds (serveTraced.answer config session utterances) =
      (.ok .clientClosed,
        deeds ++ ((utterances.map (reply config session)).filterMap Prod.snd).map .send) := by
  induction utterances generalizing deeds with
  | nil => simp [serveTraced.answer, Traced.after_pure]
  | cons utterance later ih =>
    cases said : (reply config session utterance).2 with
    | none =>
      simp only [serveTraced.answer, said, List.map_cons]
      rw [List.filterMap_cons_none said]
      exact ih deeds
    | some line =>
      simp only [serveTraced.answer, said, List.map_cons]
      rw [List.filterMap_cons_some said, Traced.after_note_bind, ih]
      simp

/-- The traced visit is the visit, with the deeds that it consists of. -/
theorem after_serveTraced (config : Config) (stream : List UInt8) (utterances : List String) :
    Traced.after [] (serveTraced config stream utterances) =
      match serve config (some stream) utterances with
      | .ok visit => (.ok visit.outcome, .attach :: visit.lines.map .send)
      | .error f => (.error f, []) := by
  rw [serveTraced, Traced.after_lift_bind]
  cases attached : attach config stream with
  | error f => simp [serve, attached, bind, Except.bind]
  | ok session =>
    rw [serve_of_attach attached]
    by_cases stays : Transport.newline ∈ stream
    · simp only [Traced.after_note_bind, if_pos stays, after_answer]
      rfl
    · obtain ⟨g, -, inPhase⟩ := inPhase_of_attach attached
      simp only [Traced.after_note_bind, if_neg stays, Traced.after_pure, replies_stop inPhase]
      simp [Visit.lines]

/-! ## The law -/

/-- The host fails before it listens exactly for the reasons of `Hinders`, and then it has done nothing
that anybody could see. In every other case it gets all the way: the grammar is compiled, loaded and
listened to, and the input is handed out. A client whose handshake has a newline is then sent the line
of each utterance; any other has left by closing its side, and is sent nothing. -/
theorem serve_fails_exactly (config : Config) (stream : List UInt8) (utterances : List String) :
    (∀ f, serve config (some stream) utterances = .error f ↔ Hinders config stream f) ∧
    (∀ f e, serve config (some stream) utterances = .error f → f.cause = .recognition e →
      ∃ g, e = .grammar g) ∧
    (∀ f, Hinders config stream f →
      Traced.after [] (serveTraced config stream utterances) = (.error f, [])) ∧
    ((∀ f, ¬ Hinders config stream f) →
      ∃ h compiler g loaded session visit,
        (Transport.readHandshake stream).1 = .ok h ∧
        config.recognition.compiler = .ok compiler ∧
        compiler.compile h.phrases h.sentences = .ok g ∧
        (Session.fresh config.recognition config.recognition.locale).load g = (loaded, .ok ()) ∧
        loaded.start () = (session, .ok ()) ∧
        session.InPhase (.listening g ()) ∧
        serve config (some stream) utterances = .ok visit ∧
        visit.attached = true ∧
        (Transport.newline ∈ stream →
          visit.replies = utterances.map (reply config session) ∧
          Traced.after [] (serveTraced config stream utterances) =
            (.ok .clientClosed, .attach :: visit.lines.map .send)) ∧
        (Transport.newline ∉ stream →
          visit.replies = utterances.map (fun _ => (false, none)) ∧
          Traced.after [] (serveTraced config stream utterances) =
            (.ok .clientClosed, [.attach]))) := by
  refine ⟨fun f => serve_eq_error_iff, fun f e failed => (serve_eq_error_iff.mp failed).grammar,
    fun f hinders => ?_, fun unhindered => ?_⟩
  · rw [after_serveTraced, serve_eq_error_iff.mpr hinders]
  · cases attached : attach config stream with
    | error f => exact absurd (attach_eq_error_iff.mp attached) (unhindered f)
    | ok session =>
      obtain ⟨g, compiles, ready⟩ := attach_eq_ok_iff.mp attached
      obtain ⟨loaded, loads, starts⟩ := Session.ready_eq_ok_iff.mp ready
      obtain ⟨same, sameAttached, inPhase, -⟩ := compiles.attach
      obtain rfl : same = session := Except.ok.inj (sameAttached.symm.trans attached)
      obtain ⟨h, compiler, read, named, compiled⟩ := compiles
      refine ⟨h, compiler, g, loaded, same, _, read, named, compiled, loads, starts, inPhase,
        serve_of_attach attached utterances, inPhase.listening, fun stays => ?_, fun closes => ?_⟩
      · rw [after_serveTraced, serve_of_attach attached, if_pos stays]
        exact ⟨rfl, rfl⟩
      · rw [after_serveTraced, serve_of_attach attached, if_neg closes, replies_stop inPhase]
        exact ⟨rfl, by simp [Visit.lines]⟩

/-- The same handshake with its newline and without: the first client is heard for, the second is only
attached. -/
theorem serve_fails_exactly_halt :
    let h : Handshake := ⟨[], ["halt ..."], 1, 1⟩
    let body := h.toJson.bytes
    (∀ f, ¬ Hinders {} h.encode f) ∧ (∀ f, ¬ Hinders {} body f) ∧
      Traced.after [] (serveTraced {} h.encode ["Halt at once", "go"]) =
        (.ok .clientClosed, [.attach, .send "halt\n"]) ∧
      Traced.after [] (serveTraced {} body ["Halt at once", "go"]) = (.ok .clientClosed, [.attach]) := by
  intro h body
  let g : Grammar :=
    { name := "Command"
      locale := "en-US"
      sentences := [[.choice (StepId.render "halt" 0) "halt" ["halt"], .free]]
      choiceCount := 2 }
  have variants : h.sentences.flatMap Sentence.variants = [[.key "halt", .free]] := by decide +kernel
  have halt : Compiler.resolve (.ofEntries h.phrases) "halt" = ["halt"] := by
    rw [Compiler.resolve_eq, Vocabulary.bucket_ofEntries]
    decide +kernel
  have compiled : ({} : Compiler).compile h.phrases h.sentences = .ok g := by
    rw [Compiler.compile, variants, Compiler.assemble_eq_ok _ _ (by simp)]
    simp [Compiler.plainGrammar, Compiler.plainSteps, Compiler.plainStepsFrom, Compiler.plainStep,
      Compiler.totalWeight, Compiler.weightOf, Step.weight, halt, g]
  have fits : h.Fits := by
    simp only [Handshake.Fits]
    decide
  have short : h.encode.length ≤ Transport.maxHandshake := by decide +kernel
  have named : ({} : Config).recognition.compiler = .ok {} := by decide +kernel
  obtain ⟨heard, unheard⟩ := compiles_of_fits fits short named compiled
  have stays : Transport.newline ∈ h.encode := by
    rw [Handshake.encode_eq]
    simp
  have audible : ({} : Config).recognition.threshold < typedConfidence := by decide +kernel
  obtain ⟨-, -, -, attaches⟩ := serve_fails_exactly {} h.encode ["Halt at once", "go"]
  obtain ⟨-, -, -, attachesToo⟩ := serve_fails_exactly {} body ["Halt at once", "go"]
  obtain ⟨_, _, _, _, _, visit, _, _, _, _, _, _, served, _, sends, _⟩ := attaches heard.not_hinders
  obtain ⟨_, _, _, _, _, _, _, _, _, _, _, _, _, _, _, closes⟩ := attachesToo unheard.not_hinders
  rw [heard.serve audible, if_pos stays] at served
  obtain rfl := Except.ok.inj served
  have lines : (visitUnder g ({} : Config).endpoint.maxPayload ["Halt at once", "go"]).lines =
      ["halt\n"] := by decide +kernel
  refine ⟨heard.not_hinders, unheard.not_hinders, ?_, (closes (Json.newline_notMem_bytes _)).2⟩
  rw [(sends stays).2, lines]
  rfl

end Host

end SpokenCommand
