import Mathlib.Data.List.Induction
import SpokenCommand.Recognition.Recognizer

/-!
# Runs of a recognizer

Loading, listening and hanging up are independent of each other: a recognizer may listen with no
grammar left, or send into a channel whose other end is gone. What it holds after any history is
read off the history itself (`Switchboard.run_grammars`, `Switchboard.mem_gone_run`), and what an
utterance or an event does then depends on nothing else (`Switchboard.recognizer_law`).

Channels have names here. One channel may be given to the recognizer more than once, and any of them
may lose its other end, whether the recognizer holds it or not.
-/

namespace SpokenCommand

variable {κ : Type}

namespace Recognizer

variable {r : Recognizer κ} {utterance : String} {confidence : Numeral.Single}

/-- The event of an utterance is that of the first grammar, in load order, that recognizes it. -/
theorem eventFor_eq_some_iff {e : Event} :
    r.eventFor utterance confidence = some e ↔
      ∃ front g back m, r.grammars = front ++ g :: back ∧
        (∀ other ∈ front, other.recognize? utterance = none) ∧
        g.recognize? utterance = some m ∧ e = ⟨confidence, g.name, m.eventSteps, true⟩ := by
  rw [eventFor, List.findSome?_eq_some_iff]
  constructor
  · rintro ⟨front, g, back, loaded, found, earlier⟩
    obtain ⟨m, recognized, rfl⟩ := Option.map_eq_some_iff.mp found
    exact ⟨front, g, back, m, loaded, fun other member => Option.map_eq_none_iff.mp (earlier other member),
      recognized, rfl⟩
  · rintro ⟨front, g, back, m, loaded, earlier, recognized, rfl⟩
    refine ⟨front, g, back, loaded, by simp [recognized], ?_⟩
    intro other member
    simp [earlier other member]

theorem isSome_eventFor_iff (confidence : Numeral.Single) :
    (r.eventFor utterance confidence).isSome = true ↔
      ∃ g ∈ r.grammars, (g.recognize? utterance).isSome = true := by
  simp [eventFor, List.findSome?_isSome_iff]

theorem hear_eq_some_iff {channel : κ} {e : Event} :
    r.hear utterance confidence = some (channel, e) ↔
      r.channel = some channel ∧ r.eventFor utterance confidence = some e := by
  cases held : r.channel with
  | none => simp [hear, held]
  | some own =>
    cases found : r.eventFor utterance confidence with
    | none => simp [hear, held, found]
    | some event => simp [hear, held, found]

theorem start_fails_iff {channel : κ} :
    (∃ e, r.start channel = .error e) ↔ r.grammars = [] := by
  cases loaded : r.grammars <;> simp [start, loaded]

theorem load_fails_iff {g : Grammar} :
    (∃ e, r.load g = .error e) ↔ sameLocale g.locale r.locale = false := by
  cases fits : sameLocale g.locale r.locale <;> simp [load, fits]

end Recognizer

/-! ## Histories -/

/-- What can happen to a recognizer and to the channels it is given. -/
inductive RecognizerEvent (κ : Type) where
  | load (g : Grammar)
  | unloadAll
  | start (channel : κ)
  | stop
  /-- The other end of a channel hangs up. -/
  | hangUp (channel : κ)
  | say (utterance : String) (confidence : Numeral.Single)
  | emit (e : Event)

namespace RecognizerEvent

/-- Whether all grammars are forgotten. -/
def forgets : RecognizerEvent κ → Bool
  | .unloadAll => true
  | _ => false

/-- The grammar of a load, if it is of the locale. -/
def accepted? (locale : String) : RecognizerEvent κ → Option Grammar
  | .load g => if sameLocale g.locale locale then some g else none
  | _ => none

end RecognizerEvent

/-- The grammars of the loads since all grammars were last forgotten, as far as they are of the locale,
in the order of the calls. -/
def loadedBy (locale : String) (history : List (RecognizerEvent κ)) : List Grammar :=
  (history.reverse.takeWhile (!·.forgets)).reverse.filterMap (·.accepted? locale)

theorem loadedBy_concat (locale : String) (history : List (RecognizerEvent κ))
    (event : RecognizerEvent κ) :
    loadedBy locale (history ++ [event]) =
      if event.forgets then [] else loadedBy locale history ++ (event.accepted? locale).toList := by
  cases forgets : event.forgets with
  | true => simp [loadedBy, forgets]
  | false =>
    cases accepted : event.accepted? locale <;> simp [loadedBy, forgets, accepted]

/-- A recognizer, and the channels whose other end has hung up. -/
structure Switchboard (κ : Type) where
  recognizer : Recognizer κ
  gone : List κ := []

namespace Switchboard

/-- A new recognizer of a locale, with all channels still to come. -/
def opened (locale : String) : Switchboard κ := { recognizer := { locale } }

/-- What is left after something has happened. A call that fails changes nothing. -/
def perform (b : Switchboard κ) : RecognizerEvent κ → Switchboard κ
  | .load g => match b.recognizer.load g with
    | .ok recognizer => { b with recognizer }
    | .error _ => b
  | .unloadAll => { b with recognizer := b.recognizer.unloadAll }
  | .start channel => match b.recognizer.start channel with
    | .ok recognizer => { b with recognizer }
    | .error _ => b
  | .stop => { b with recognizer := b.recognizer.stop }
  | .hangUp channel => { b with gone := channel :: b.gone }
  | .say _ _ => b
  | .emit _ => b

/-- What is left after a history. -/
def run (b : Switchboard κ) (history : List (RecognizerEvent κ)) : Switchboard κ :=
  history.foldl perform b

theorem run_concat (b : Switchboard κ) (history : List (RecognizerEvent κ))
    (event : RecognizerEvent κ) : b.run (history ++ [event]) = (b.run history).perform event := by
  simp [run]

/-! ## What a history leaves -/

/-- A load puts the grammar behind the others if it is of the locale. -/
theorem perform_load (b : Switchboard κ) (g : Grammar) :
    b.perform (.load g) = { b with recognizer := { b.recognizer with
      grammars := b.recognizer.grammars ++
        (RecognizerEvent.accepted? (κ := κ) b.recognizer.locale (.load g)).toList } } := by
  cases fits : sameLocale g.locale b.recognizer.locale <;>
    simp [perform, Recognizer.load, fits, RecognizerEvent.accepted?]

/-- A start that finds a grammar takes the channel, and any other leaves the old one in place. -/
theorem perform_start (b : Switchboard κ) (channel : κ) :
    b.perform (.start channel) = { b with recognizer := { b.recognizer with
      channel := if b.recognizer.grammars.isEmpty then b.recognizer.channel
        else some channel } } := by
  cases bare : b.recognizer.grammars.isEmpty <;> simp only [perform, Recognizer.start, bare] <;> rfl

theorem perform_locale (b : Switchboard κ) (event : RecognizerEvent κ) :
    (b.perform event).recognizer.locale = b.recognizer.locale := by
  cases event with
  | load g => rw [perform_load]
  | start channel => rw [perform_start]
  | unloadAll | stop | hangUp _ | say _ _ | emit _ => rfl

theorem perform_grammars (b : Switchboard κ) (event : RecognizerEvent κ) :
    (b.perform event).recognizer.grammars =
      if event.forgets then []
      else b.recognizer.grammars ++ (event.accepted? b.recognizer.locale).toList := by
  cases event with
  | load g => rw [perform_load]; rfl
  | start channel => rw [perform_start]; exact (List.append_nil _).symm
  | unloadAll => rfl
  | stop | hangUp _ | say _ _ | emit _ => exact (List.append_nil _).symm

theorem perform_channel (b : Switchboard κ) (event : RecognizerEvent κ) :
    (b.perform event).recognizer.channel = match event with
      | .start channel =>
        if b.recognizer.grammars.isEmpty then b.recognizer.channel else some channel
      | .stop => none
      | _ => b.recognizer.channel := by
  cases event with
  | load g => rw [perform_load]
  | start channel => rw [perform_start]
  | unloadAll | stop | hangUp _ | say _ _ | emit _ => rfl

theorem mem_gone_perform {b : Switchboard κ} {event : RecognizerEvent κ} {channel : κ} :
    channel ∈ (b.perform event).gone ↔ channel ∈ b.gone ∨ event = .hangUp channel := by
  cases event with
  | load g => simp [perform_load]
  | start own => simp [perform_start]
  | hangUp own =>
    simp only [perform, List.mem_cons, RecognizerEvent.hangUp.injEq]
    rw [or_comm, eq_comm]
  | unloadAll | stop | say _ _ | emit _ => simp [perform]

section Runs

variable (locale : String) (history : List (RecognizerEvent κ))

theorem run_locale : ((opened locale).run history).recognizer.locale = locale := by
  induction history using List.reverseRec with
  | nil => rfl
  | append_singleton history event ih => rw [run_concat, perform_locale, ih]

theorem run_grammars :
    ((opened locale).run history).recognizer.grammars = loadedBy locale history := by
  -- From the end: the last event either forgets everything before it or adds to it.
  induction history using List.reverseRec with
  | nil => rfl
  | append_singleton history event ih =>
    rw [run_concat, perform_grammars, run_locale, ih, loadedBy_concat]

theorem mem_gone_run (channel : κ) :
    channel ∈ ((opened locale).run history).gone ↔ .hangUp channel ∈ history := by
  induction history using List.reverseRec with
  | nil => simp [run, opened]
  | append_singleton history event ih =>
    rw [run_concat, mem_gone_perform, ih, List.mem_append, List.mem_singleton]
    exact or_congr_right eq_comm

end Runs

/-! ## What arrives -/

variable [DecidableEq κ] {b : Switchboard κ}

/-- The recognizer with its channel as the line that it is by now. -/
def lines (b : Switchboard κ) : Recognizer Line where
  locale := b.recognizer.locale
  grammars := b.recognizer.grammars
  channel := b.recognizer.channel.map fun channel => { connected := channel ∉ b.gone }

/-- When the other end of the current channel hangs up, its line does. -/
theorem lines_perform_hangUp {channel : κ} (held : b.recognizer.channel = some channel) :
    (b.perform (.hangUp channel)).lines = b.lines.hangUp := by
  simp [lines, perform, Recognizer.hangUp, held]

/-- The event that arrives for an utterance. -/
def heard (b : Switchboard κ) (utterance : String) (confidence : Numeral.Single) : Option Event :=
  Line.delivered (b.lines.hear utterance confidence)

/-- The event that arrives when one is sent. -/
def emitted (b : Switchboard κ) (e : Event) : Option Event := Line.delivered (b.lines.emit e)

/-- A channel is set, and there is still somebody at its other end. -/
def Connected (b : Switchboard κ) : Prop :=
  ∃ channel, b.recognizer.channel = some channel ∧ channel ∉ b.gone

theorem emitted_eq_some_iff {sent e : Event} :
    b.emitted sent = some e ↔ b.Connected ∧ sent = e := by
  cases held : b.recognizer.channel with
  | none => simp [emitted, lines, Recognizer.emit, held, Line.delivered, Connected]
  | some channel =>
    by_cases hungUp : channel ∈ b.gone <;>
      simp [emitted, lines, Recognizer.emit, held, Line.delivered, Connected, hungUp]

/-- An utterance is heard as the event that the recognizer makes of it, emitted. -/
theorem heard_eq (b : Switchboard κ) (utterance : String) (confidence : Numeral.Single) :
    b.heard utterance confidence = (b.recognizer.eventFor utterance confidence).bind b.emitted := by
  have same : b.lines.eventFor utterance confidence = b.recognizer.eventFor utterance confidence :=
    rfl
  cases found : b.recognizer.eventFor utterance confidence <;>
    cases held : b.lines.channel <;>
      simp [heard, emitted, Recognizer.hear, Recognizer.emit, same, found, held, Line.delivered]

theorem heard_eq_some_iff {utterance : String} {confidence : Numeral.Single} {e : Event} :
    b.heard utterance confidence = some e ↔
      b.Connected ∧ b.recognizer.eventFor utterance confidence = some e := by
  simp only [heard_eq, Option.bind_eq_some_iff, emitted_eq_some_iff]
  constructor
  · rintro ⟨event, found, connected, rfl⟩
    exact ⟨connected, found⟩
  · rintro ⟨connected, found⟩
    exact ⟨e, found, connected, rfl⟩

theorem isSome_heard_iff {utterance : String} {confidence : Numeral.Single} :
    (b.heard utterance confidence).isSome = true ↔
      b.Connected ∧ ∃ g ∈ b.recognizer.grammars, (g.recognize? utterance).isSome = true := by
  rw [← Recognizer.isSome_eventFor_iff confidence]
  simp only [Option.isSome_iff_exists, heard_eq_some_iff, exists_and_left]

/-! ## The law -/

/-- Over every history, the loaded grammars are those of the fitting loads since all were forgotten.
A start fails exactly where there are none, and then leaves the channel in place. An utterance sends
one event, that of the first grammar to recognize it, exactly where a channel is set whose other end
has not hung up and some grammar recognizes it; an event that is emitted needs such a channel only.
Neither of them changes anything. -/
theorem recognizer_law (locale : String) (history : List (RecognizerEvent κ)) :
    let b := (opened locale).run history
    let loaded := loadedBy locale history
    let connected := ∃ channel, b.recognizer.channel = some channel ∧ .hangUp channel ∉ history
    b.recognizer.grammars = loaded ∧
    (∀ g, (∃ e, b.recognizer.load g = .error e) ↔ sameLocale g.locale locale = false) ∧
    (∀ channel, (∃ e, b.recognizer.start channel = .error e) ↔ loaded = []) ∧
    (∀ event, (b.perform event).recognizer.channel = match event with
      | .start channel => if loaded.isEmpty then b.recognizer.channel else some channel
      | .stop => none
      | _ => b.recognizer.channel) ∧
    (∀ channel, b.recognizer.channel = some channel →
      (b.perform (.hangUp channel)).lines = b.lines.hangUp) ∧
    (∀ utterance confidence, (b.heard utterance confidence).isSome = true ↔
      connected ∧ ∃ g ∈ loaded, (g.recognize? utterance).isSome = true) ∧
    (∀ utterance confidence e, b.heard utterance confidence = some e ↔
      connected ∧ ∃ front g back m, loaded = front ++ g :: back ∧
        (∀ other ∈ front, other.recognize? utterance = none) ∧
        g.recognize? utterance = some m ∧ e = ⟨confidence, g.name, m.eventSteps, true⟩) ∧
    (∀ sent e, b.emitted sent = some e ↔ connected ∧ sent = e) ∧
    (∀ utterance confidence, b.perform (.say utterance confidence) = b) ∧
    ∀ e, b.perform (.emit e) = b := by
  intro b loaded connected
  have grammars : b.recognizer.grammars = loaded := run_grammars locale history
  have reaches : b.Connected ↔ connected := by
    simp only [Connected, connected, b, mem_gone_run]
  refine ⟨grammars, ?_, ?_, ?_, fun _ => lines_perform_hangUp, ?_, ?_, ?_, fun _ _ => rfl,
    fun _ => rfl⟩
  · intro g
    rw [Recognizer.load_fails_iff, run_locale]
  · intro channel
    rw [Recognizer.start_fails_iff, grammars]
  · intro event
    rw [← grammars]
    exact perform_channel b event
  · intro utterance confidence
    rw [isSome_heard_iff, grammars, reaches]
  · intro utterance confidence e
    rw [heard_eq_some_iff, Recognizer.eventFor_eq_some_iff, grammars, reaches]
  · intro sent e
    rw [emitted_eq_some_iff, reaches]

/-- A load before all is forgotten, one of another locale, a channel that hangs up and another in its
place: the utterance is heard under the second of two grammars. -/
theorem recognizer_law_second_grammar :
    let go : Grammar := ⟨"Going", "en-US", [[.choice "go#0" "go" ["go"], .free]], 2⟩
    let halt : Grammar := ⟨"Halting", "EN-us", [[.choice "halt#0" "halt" ["halt"], .free]], 2⟩
    let b : Switchboard Nat := (opened "en-US").run
      [.load halt, .unloadAll, .load go, .start 1, .load { halt with locale := "de-DE" }, .load halt,
        .hangUp 1, .start 2]
    b.heard "Halt at once" typedConfidence =
      some ⟨typedConfidence, "Halting", [⟨"halt#0", some "halt"⟩, ⟨"...#1", none⟩], true⟩ := by
  intro go halt b
  let history : List (RecognizerEvent Nat) :=
    [.load halt, .unloadAll, .load go, .start 1, .load { halt with locale := "de-DE" }, .load halt,
      .hangUp 1, .start 2]
  obtain ⟨-, -, -, -, -, -, hears, -⟩ := recognizer_law "en-US" history
  have loaded : loadedBy "en-US" history = [go] ++ halt :: [] := by decide +kernel
  have connected : .hangUp 2 ∉ history := by simp [history]
  have recognized : halt.recognize? "Halt at once" =
      some ⟨0, [⟨some "halt#0", some "halt", "halt"⟩, ⟨none, none, "at once"⟩]⟩ := by decide +kernel
  have unrecognized : ∀ other ∈ [go], other.recognize? "Halt at once" = none := by decide +kernel
  exact (hears _ _ _).mpr ⟨⟨2, by decide +kernel, connected⟩, _, _, _, _, loaded, unrecognized,
    recognized, by decide +kernel⟩

end Switchboard

end SpokenCommand
