import SpokenCommand.Host.Service
import SpokenCommand.Proofs.Delivery
import SpokenCommand.Proofs.HandshakeStream
import SpokenCommand.Proofs.Meaning
import SpokenCommand.Proofs.StepIds

/-!
# What a client receives

Once the host listens to a client who stays, what it sends depends on the grammar alone: for each
utterance that the grammar recognizes, the tags of its sentence on a line of their own
(`Grammar.results`). To a client who had to close its sending side for the handshake to end, it sends
nothing.
Keys have neither blanks nor line breaks in them, so the client can take the stream apart again
(`Host.splitOn_bytes_visitUnder`, `StepSequence.Sound.split_intercalate`).
-/

namespace SpokenCommand

open Text

/-! ## The tags of compiled sentences -/

/-- The steps carry the ids of their positions, and their tags are keys. -/
structure StepSequence.Sound (steps : StepSequence) : Prop where
  numbered : steps.Numbered
  spelled : ∀ tag ∈ steps.tags, Spelled Sentence.isKeyChar tag

theorem Compiler.mem_tags_plainSteps {vocabulary : Vocabulary} {sentence : Sentence.Variant}
    {tag : String} (member : tag ∈ StepSequence.tags (plainSteps vocabulary sentence)) :
    .key tag ∈ sentence := by
  simp only [StepSequence.tags, plainSteps, plainStepsFrom, List.filterMap_map,
    List.mem_filterMap] at member
  obtain ⟨⟨term, position⟩, inSentence, same⟩ := member
  cases term with
  | free => simp [plainStep, Step.tag?] at same
  | key key =>
    obtain rfl : key = tag := by simpa [plainStep, Step.tag?] using same
    exact List.fst_mem_of_mem_zipIdx inSentence

theorem Compiler.sound_of_compile {c : Compiler} {entries : List PhraseEntry}
    {templates : List String} {g : Grammar} (compiled : c.compile entries templates = .ok g) :
    ∀ steps ∈ g.sentences, StepSequence.Sound steps := by
  rw [eq_plainGrammar_of_compile compiled]
  intro steps member
  obtain ⟨sentence, inVariants, rfl⟩ := List.mem_map.mp member
  obtain ⟨template, -, variant⟩ := List.mem_flatMap.mp inVariants
  have means := (Sentence.mem_variants_iff_means template sentence).mp variant
  exact ⟨numbered_plainSteps _ sentence, fun tag inTags =>
    means.spelled tag (mem_tags_plainSteps inTags)⟩

namespace StepSequence.Sound

variable {steps : StepSequence}

theorem tag_ne_empty (sound : Sound steps) : "" ∉ steps.tags :=
  fun member => (sound.spelled "" member).nonempty rfl

theorem newline_notMem (sound : Sound steps) : '\n' ∉ (" ".intercalate steps.tags).toList := by
  intro member
  obtain inSeparator | ⟨tag, inTags, inTag⟩ := mem_toList_intercalate member
  · exact absurd inSeparator (by decide)
  · exact (sound.spelled tag inTags).notMem (by decide) inTag

theorem split_intercalate (sound : Sound steps) (nonempty : steps.tags ≠ []) :
    ((" ".intercalate steps.tags).split ' ').toList.map (·.copy) = steps.tags := by
  have space : " " = String.singleton ' ' := rfl
  rw [space, String.toList_split_intercalate, if_neg nonempty]
  intro tag member
  exact (sound.spelled tag member).notMem (by decide)

theorem isEmpty_intercalate (sound : Sound steps) :
    (" ".intercalate steps.tags).isEmpty = true ↔ steps.tags = [] := by
  cases tags : steps.tags with
  | nil => simp
  | cons tag others =>
    have first : tag.toList ≠ [] := by
      rw [Ne, String.toList_eq_nil_iff]
      exact (sound.spelled tag (by simp [tags])).nonempty
    have text : " ".intercalate (tag :: others) ≠ "" := by
      rw [Ne, ← String.toList_eq_nil_iff, toList_intercalate_cons (c := ' ') rfl]
      exact List.append_ne_nil_of_left_ne_nil first _
    simp [String.isEmpty_iff, text]

/-- What an accepted event for a sentence comes down to. -/
theorem reduce_eq (sound : Sound steps) {r : Reducer} {e : Event} (accepted : r.accepts e = true)
    (reports : e.steps = steps.zipIdx.map fun (step, position) => step.reported position) :
    r.reduce e = if steps.tags = [] then none else some (" ".intercalate steps.tags) := by
  rw [Reducer.reduce, if_pos accepted, r.values_of_numbered sound.numbered reports]
  simp only [sound.isEmpty_intercalate]

end StepSequence.Sound

/-! ## What is heard -/

namespace Grammar

/-- The tags of the sentence that an utterance is recognized as. -/
def heard? (g : Grammar) (utterance : String) : Option (List String) :=
  (g.recognize? utterance).bind fun m => g.sentences[m.sentence]?.map StepSequence.tags

/-- The same, where there is a tag and the tags stay below a length with spaces between them and a
newline behind them. -/
def result? (g : Grammar) (limit : Nat) (utterance : String) : Option (List String) :=
  (g.heard? utterance).filter fun tags =>
    tags ≠ [] ∧ (" ".intercalate tags).utf8ByteSize + 1 < limit

/-- The results of utterances, in order. -/
def results (g : Grammar) (limit : Nat) (utterances : List String) : List (List String) :=
  utterances.filterMap (g.result? limit)

variable {g : Grammar}

theorem sound_of_heard? (sound : ∀ steps ∈ g.sentences, StepSequence.Sound steps)
    {utterance : String} {tags : List String} (heard : g.heard? utterance = some tags) :
    ∃ steps : StepSequence, steps.Sound ∧ steps.tags = tags := by
  obtain ⟨m, -, found⟩ := Option.bind_eq_some_iff.mp heard
  obtain ⟨steps, there, same⟩ := Option.map_eq_some_iff.mp found
  exact ⟨steps, sound steps (List.mem_of_getElem? there), same⟩

theorem result?_of_heard? {utterance : String} {tags : List String}
    (heard : g.heard? utterance = some tags) (limit : Nat) :
    g.result? limit utterance =
      if tags ≠ [] ∧ (" ".intercalate tags).utf8ByteSize + 1 < limit then some tags else none := by
  simp [result?, heard, Option.filter_some]

theorem heard?_of_mem_results {limit : Nat} {utterances : List String} {tags : List String}
    (member : tags ∈ g.results limit utterances) : ∃ utterance, g.heard? utterance = some tags := by
  obtain ⟨utterance, -, result⟩ := List.mem_filterMap.mp member
  exact ⟨utterance, (Option.filter_eq_some_iff.mp result).1⟩

end Grammar

/-! ## One utterance -/

theorem Transport.sendResult_eq (text : String) (limit : Nat) :
    sendResult text limit = if text.utf8ByteSize + 1 < limit then some (text ++ "\n") else none := by
  rw [sendResult, frameResult]
  by_cases long : limit ≤ text.utf8ByteSize + 1
  · simp [long, Nat.not_lt.mpr long]
  · simp [long, Nat.lt_of_not_le long]

namespace Host

variable {config : Config} {session : Session Unit} {g : Grammar}

theorem reply_eq (inPhase : session.InPhase (.listening g ()))
    (own : session.config = config.recognition)
    (audible : config.recognition.threshold < typedConfidence)
    (sound : ∀ steps ∈ g.sentences, StepSequence.Sound steps) (utterance : String) :
    reply config session utterance =
      ((g.recognize? utterance).isSome,
        (g.result? config.endpoint.maxPayload utterance).map (" ".intercalate · ++ "\n")) := by
  have answer := inPhase.say utterance typedConfidence
  cases recognized : g.recognize? utterance with
  | none =>
    simp only [recognized] at answer
    simp [reply, answer, Grammar.result?, Grammar.heard?, recognized]
  | some m =>
    obtain ⟨steps, pieces, there, cut, reports⟩ := Grammar.recognize?_eq_some recognized
    have ownSound : steps.Sound := sound steps (List.mem_of_getElem? there)
    have eventSteps := Match.eventSteps_eq (cut?_sound cut).takes.length_eq reports
    let event : Event := ⟨typedConfidence, g.name, m.eventSteps, true⟩
    -- The event names the grammar that the reducer was made for, and is above its threshold.
    have accepted : (Reducer.ofConfig session.config g.name).accepts event = true := by
      simp [Reducer.accepts, Reducer.ofConfig, own, audible, event]
    have reduced := ownSound.reduce_eq accepted eventSteps
    have heard : g.heard? utterance = some steps.tags := by
      simp [Grammar.heard?, recognized, there]
    simp only [recognized, inPhase.emit] at answer
    rw [reply, answer, reduced, Grammar.result?_of_heard? heard]
    by_cases silent : steps.tags = []
    · simp [silent]
    · by_cases short : (" ".intercalate steps.tags).utf8ByteSize + 1 < config.endpoint.maxPayload <;>
        simp [silent, short, Transport.sendResult_eq]

end Host

/-! ## Getting to listen -/

/-- A session for a grammar of its own locale always gets to listen. -/
theorem Session.ready_of_sameLocale {σ : Type} {config : RecognitionConfig} {g : Grammar}
    (same : sameLocale g.locale config.locale = true) (subscriber : σ) :
    ∃ s, Session.ready config g subscriber = .ok s ∧ s.InPhase (.listening g subscriber) ∧
      s.config = config := by
  have bare : (Session.fresh config config.locale : Session σ).InPhase .bare :=
    opened_inPhase config config.locale (fun _ => none) (fun _ => none)
  -- Nothing is ever refused here, so the locale decides alone.
  obtain ⟨backend, accepts, inLoaded, granted⟩ :=
    bare.emptied.accept (Backend.loadFault?_of_sameLocale same _)
  let loaded : Session σ :=
    { (Session.fresh config config.locale).emptied with backend, grammar := some g }
  have loads : (Session.fresh config config.locale).load g = (loaded, .ok ()) := by
    rw [bare.load_eq, accepts]
    rfl
  obtain ⟨next, result, after, starts, way, inNext, sameConfig⟩ := inLoaded.start subscriber
  cases way with
  | refused refused =>
    rw [granted] at refused
    cases refused
  | opened _ =>
    refine ⟨next, ?_, inNext, sameConfig⟩
    simp only [Session.ready, loads, loaded, starts]

theorem RecognitionConfig.sameLocale_of_compile {c : RecognitionConfig} {compiler : Compiler}
    (named : c.compiler = .ok compiler) {entries : List PhraseEntry} {templates : List String}
    {g : Grammar} (compiled : compiler.compile entries templates = .ok g) :
    sameLocale g.locale c.locale = true := by
  have grammarLocale : g.locale = compiler.locale := by
    rw [Compiler.eq_plainGrammar_of_compile compiled]
    rfl
  have compilerLocale : compiler.locale = c.locale := by
    rw [RecognitionConfig.compiler] at named
    cases start : Compiler.named c.grammarName with
    | error e => simp [start, Except.map] at named
    | ok base =>
      simp only [start, Except.map, Except.ok.injEq] at named
      rw [← named]
  simp [grammarLocale, compilerLocale, sameLocale]

theorem bind_eq_ok_iff {ε α β : Type} {result : Except ε α} {next : α → Except ε β} {b : β} :
    (result >>= next) = .ok b ↔ ∃ a, result = .ok a ∧ next a = .ok b := by
  cases result <;> simp [bind, Except.bind]

namespace Host

/-- The host gets to listen to a client under a grammar. -/
def ListensFor (config : Config) (client : List UInt8) (g : Grammar) : Prop :=
  ∃ session, attach config client = .ok session ∧ session.listening = true ∧
    session.grammar = some g

/-- The host has read a handshake and compiled a grammar for it. -/
def Compiles (config : Config) (client : List UInt8) (g : Grammar) : Prop :=
  ∃ h compiler, (Transport.readHandshake client).1 = .ok h ∧
    config.recognition.compiler = .ok compiler ∧ compiler.compile h.phrases h.sentences = .ok g

variable {config : Config} {client : List UInt8} {g : Grammar}

theorem attach_eq_ok_iff {session : Session Unit} :
    attach config client = .ok session ↔
      ∃ g, Compiles config client g ∧ Session.ready config.recognition g () = .ok session := by
  simp only [attach, listen, bind_eq_ok_iff, during_eq_ok_iff, plainly_eq_ok_iff, Compiles]
  constructor
  · rintro ⟨h, handshake, compiler, named, g, compiled, ready⟩
    exact ⟨g, ⟨h, compiler, handshake, named, compiled⟩, ready⟩
  · rintro ⟨g, ⟨h, compiler, handshake, named, compiled⟩, ready⟩
    exact ⟨h, handshake, compiler, named, g, compiled, ready⟩

/-- A handshake that is sent as it is encoded leads to its grammar, with its newline or without. -/
theorem compiles_of_fits {h : Handshake} (fits : h.Fits)
    (short : h.encode.length ≤ Transport.maxHandshake) {compiler : Compiler}
    (named : config.recognition.compiler = .ok compiler)
    (compiled : compiler.compile h.phrases h.sentences = .ok g) :
    Compiles config h.encode g ∧ Compiles config h.toJson.bytes g := by
  have line := fits.readHandshake_encode short []
  rw [List.append_nil] at line
  have body := fits.readHandshake_bytes short
  exact ⟨⟨h, compiler, by rw [line], named, compiled⟩, ⟨h, compiler, by rw [body], named, compiled⟩⟩

theorem Compiles.sound (compiles : Compiles config client g) :
    ∀ steps ∈ g.sentences, StepSequence.Sound steps := by
  obtain ⟨h, compiler, -, -, compiled⟩ := compiles
  exact Compiler.sound_of_compile compiled

/-- Once the grammar is compiled, nothing can go wrong. -/
theorem Compiles.attach (compiles : Compiles config client g) :
    ∃ session, Host.attach config client = .ok session ∧ session.InPhase (.listening g ()) ∧
      session.config = config.recognition := by
  have whole := compiles
  obtain ⟨h, compiler, -, named, compiled⟩ := compiles
  obtain ⟨session, ready, inPhase, own⟩ :=
    Session.ready_of_sameLocale (RecognitionConfig.sameLocale_of_compile named compiled) ()
  exact ⟨session, attach_eq_ok_iff.mpr ⟨g, whole, ready⟩, inPhase, own⟩

/-- The session that is attached is the one that the compiled grammar leads to. -/
theorem inPhase_of_attach {session : Session Unit} (attached : attach config client = .ok session) :
    ∃ g, Compiles config client g ∧ session.InPhase (.listening g ()) := by
  obtain ⟨g, compiles, -⟩ := attach_eq_ok_iff.mp attached
  obtain ⟨same, sameAttached, inPhase, -⟩ := compiles.attach
  obtain rfl : same = session := Except.ok.inj (sameAttached.symm.trans attached)
  exact ⟨g, compiles, inPhase⟩

theorem listensFor_iff_compiles : ListensFor config client g ↔ Compiles config client g := by
  constructor
  · rintro ⟨session, attached, -, own⟩
    obtain ⟨compiled, compiles, inPhase⟩ := inPhase_of_attach attached
    obtain rfl : compiled = g := Option.some.inj (inPhase.grammar.symm.trans own)
    exact compiles
  · intro compiles
    obtain ⟨session, attached, inPhase, -⟩ := compiles.attach
    exact ⟨session, attached, inPhase.listening, inPhase.grammar⟩

/-! ## A visit -/

/-- The bytes that a client receives. -/
def Visit.bytes (v : Visit) : List UInt8 := v.lines.flatMap Utf8.encode

/-- The visit of a client under a grammar. -/
def visitUnder (g : Grammar) (limit : Nat) (utterances : List String) : Visit where
  outcome := .clientClosed
  attached := true
  replies := utterances.map fun u =>
    ((g.recognize? u).isSome, (g.result? limit u).map (" ".intercalate · ++ "\n"))
  afterwards := some false

/-- The visit of a client who has closed its sending side: nothing that is said is heard. -/
def closedVisit (utterances : List String) : Visit where
  outcome := .clientClosed
  attached := true
  replies := utterances.map fun _ => (false, none)
  afterwards := some false

theorem bytes_closedVisit (utterances : List String) : (closedVisit utterances).bytes = [] := by
  simp [closedVisit, Visit.bytes, Visit.lines]

theorem serve_of_attach {session : Session Unit} (attached : attach config client = .ok session)
    (utterances : List String) :
    serve config (some client) utterances = .ok {
      outcome := .clientClosed
      attached := session.listening
      replies := utterances.map
        (reply config (if Transport.newline ∈ client then session else session.stop))
      afterwards := some (utterances.any fun u => (session.stop.say u typedConfidence).1) } := by
  rw [serve, attached]
  rfl

/-- Once the session has stopped, there is no reply to anything. -/
theorem replies_stop {session : Session Unit} {p : Phase Unit} (inPhase : session.InPhase p)
    (config : Config) (utterances : List String) :
    utterances.map (reply config session.stop) = utterances.map fun _ => (false, none) := by
  refine List.map_congr_left fun utterance _ => ?_
  rw [reply, inPhase.say_stop]
  rfl

/-- Under the grammar the visit goes on only with a client whose handshake has a newline. -/
theorem Compiles.serve (compiles : Compiles config client g)
    (audible : config.recognition.threshold < typedConfidence) (utterances : List String) :
    serve config (some client) utterances =
      .ok (if Transport.newline ∈ client then visitUnder g config.endpoint.maxPayload utterances
        else closedVisit utterances) := by
  obtain ⟨session, attached, inPhase, own⟩ := compiles.attach
  have listening : session.listening = true := inPhase.listening
  -- Once the client has left, the stopped session hears nothing of what it heard before.
  have nobody : (utterances.any fun u => (session.stop.say u typedConfidence).1) = false := by
    simp [inPhase.say_stop]
  rw [serve_of_attach attached, listening, nobody]
  by_cases stays : Transport.newline ∈ client
  · have replies : utterances.map (reply config session) =
        (visitUnder g config.endpoint.maxPayload utterances).replies :=
      List.map_congr_left fun u _ => reply_eq inPhase own audible compiles.sound u
    rw [if_pos stays, if_pos stays, replies]
    rfl
  · rw [if_neg stays, if_neg stays, replies_stop inPhase]
    rfl

theorem bytes_visitUnder (g : Grammar) (limit : Nat) (utterances : List String) :
    (visitUnder g limit utterances).bytes =
      (g.results limit utterances).flatMap fun tags =>
        Utf8.encode (" ".intercalate tags) ++ [Transport.newline] := by
  have lines : (visitUnder g limit utterances).lines =
      (g.results limit utterances).map (" ".intercalate · ++ "\n") := by
    rw [Visit.lines, visitUnder, List.filterMap_map, Grammar.results, List.map_filterMap]
    rfl
  rw [Visit.bytes, lines, List.flatMap_map]
  simp only [Utf8.encode_append, Transport.encode_newline]

theorem splitOn_lines {lines : List (List UInt8)}
    (single : ∀ line ∈ lines, Transport.newline ∉ line) :
    (lines.flatMap (· ++ [Transport.newline])).splitOn Transport.newline = lines ++ [[]] := by
  induction lines with
  | nil => rfl
  | cons line lines ih =>
    rw [List.forall_mem_cons] at single
    rw [List.flatMap_cons, List.append_assoc, List.singleton_append,
      List.splitOn_append_cons_self_of_not_mem single.1, ih single.2]
    rfl

theorem splitOn_bytes_visitUnder (sound : ∀ steps ∈ g.sentences, StepSequence.Sound steps)
    (limit : Nat) (utterances : List String) :
    (visitUnder g limit utterances).bytes.splitOn Transport.newline =
      (g.results limit utterances).map (fun tags => Utf8.encode (" ".intercalate tags)) ++ [[]] := by
  have single : ∀ line ∈ (g.results limit utterances).map fun tags =>
      Utf8.encode (" ".intercalate tags), Transport.newline ∉ line := by
    intro line member inLine
    obtain ⟨tags, inResults, rfl⟩ := List.mem_map.mp member
    obtain ⟨utterance, heard⟩ := Grammar.heard?_of_mem_results inResults
    obtain ⟨steps, stepsSound, rfl⟩ := Grammar.sound_of_heard? sound heard
    exact stepsSound.newline_notMem (Utf8.mem_of_mem_encode (by decide) inLine)
  rw [bytes_visitUnder, ← splitOn_lines single, List.flatMap_map]

/-- Once the host listens under a grammar, a client who stays receives a line with the tags of each
recognized sentence that has any and is short enough, whatever the order of steps is set to; and it
can tell the lines and the tags apart. A client without a newline has left by then and receives
nothing. -/
theorem result_stream (listens : ListensFor config client g)
    (audible : config.recognition.threshold < typedConfidence) (utterances : List String) :
    ∃ visit, serve config (some client) utterances = .ok visit ∧
      (∀ order, serve { config with recognition.order := order } (some client) utterances =
        .ok visit) ∧
      (Transport.newline ∈ client →
        visit.bytes =
          (g.results config.endpoint.maxPayload utterances).flatMap (fun tags =>
            Utf8.encode (" ".intercalate tags) ++ [Transport.newline]) ∧
        visit.bytes.splitOn Transport.newline =
          (g.results config.endpoint.maxPayload utterances).map (fun tags =>
            Utf8.encode (" ".intercalate tags)) ++ [[]]) ∧
      (Transport.newline ∉ client → visit.bytes = []) ∧
      ∀ utterance tags, g.heard? utterance = some tags →
        "" ∉ tags ∧ '\n' ∉ (" ".intercalate tags).toList ∧
          (tags ≠ [] → ((" ".intercalate tags).split ' ').toList.map (·.copy) = tags) := by
  have compiles := listensFor_iff_compiles.mp listens
  refine ⟨_, compiles.serve audible utterances, ?_, ?_, ?_, ?_⟩
  · intro order
    have reordered : Compiles { config with recognition.order := order } client g := compiles
    exact reordered.serve audible utterances
  · intro stays
    rw [if_pos stays]
    exact ⟨bytes_visitUnder g _ utterances, splitOn_bytes_visitUnder compiles.sound _ utterances⟩
  · intro closes
    rw [if_neg closes]
    exact bytes_closedVisit utterances
  · intro utterance tags heard
    obtain ⟨steps, sound, rfl⟩ := Grammar.sound_of_heard? compiles.sound heard
    exact ⟨sound.tag_ne_empty, sound.newline_notMem, sound.split_intercalate⟩

/-- Two of three utterances are recognized, and bring the same tags. -/
theorem result_stream_go_to_the_door :
    let h : Handshake := ⟨[⟨"cmd_go", "go ?now"⟩], ["cmd_go ... door"], 1, 1⟩
    ∃ visit, serve {} (some h.encode) ["Go now to the door", "go", "go round the DOOR"] = .ok visit ∧
      visit.bytes = Utf8.encode "cmd_go door\ncmd_go door\n" := by
  intro h
  let vocabulary : Vocabulary := .ofEntries h.phrases
  let g : Grammar :=
    { name := "Command"
      locale := "en-US"
      sentences := [[.choice (StepId.render "cmd_go" 0) "cmd_go" ["go now", "go"], .free,
        .choice (StepId.render "door" 2) "door" ["door"]]]
      choiceCount := 4 }
  have variants : h.sentences.flatMap Sentence.variants = [[.key "cmd_go", .free, .key "door"]] := by
    decide +kernel
  have go : Compiler.resolve vocabulary "cmd_go" = ["go now", "go"] := by
    rw [Compiler.resolve_eq, Vocabulary.bucket_ofEntries]
    decide +kernel
  have door : Compiler.resolve vocabulary "door" = ["door"] := by
    rw [Compiler.resolve_eq, Vocabulary.bucket_ofEntries]
    decide +kernel
  have compiled : ({} : Compiler).compile h.phrases h.sentences = .ok g := by
    rw [Compiler.compile, variants, Compiler.assemble_eq_ok _ _ (by simp)]
    simp [Compiler.plainGrammar, Compiler.plainSteps, Compiler.plainStepsFrom, Compiler.plainStep,
      Compiler.totalWeight, Compiler.weightOf, Step.weight, vocabulary, go, door, g]
  have fits : h.Fits := by
    simp only [Handshake.Fits]
    decide
  have short : h.encode.length ≤ Transport.maxHandshake := by decide +kernel
  have named : ({} : Config).recognition.compiler = .ok {} := by decide +kernel
  have listens : ListensFor {} h.encode g :=
    listensFor_iff_compiles.mpr (compiles_of_fits fits short named compiled).1
  have audible : ({} : Config).recognition.threshold < typedConfidence := by decide +kernel
  have stays : Transport.newline ∈ h.encode := by
    rw [Handshake.encode_eq]
    simp
  obtain ⟨visit, served, -, heard, -⟩ :=
    result_stream listens audible ["Go now to the door", "go", "go round the DOOR"]
  refine ⟨visit, served, (heard stays).1.trans ?_⟩
  decide +kernel

end Host

end SpokenCommand
