import SpokenCommand.Proofs.Delivery

/-!
# Dispatching events

`Session.say` and `Session.emit` hand an event on at once. Underneath, each time the session begins to
listen, it opens a period: a channel of its own, and at the end of the channel a dispatcher with the
reducer of that moment. The dispatcher takes the events out in the order they were sent, reduces each,
looks who is in the slot of the session, and calls the one it finds. A period that is over keeps its
dispatcher until the channel is empty. Operations on the session and the work of all dispatchers
interleave in any way: this is a `Relay`.

Dispatched at once, an event brings what the session tells (`Relay.dispatched_at_once`). In general
every call is about an event of its own period, reduced as that period does, but the slot is shared:
the one who is called opened that period or a later one. An event that still waits when its period ends
may come to the next subscriber (`Relay.waiting_event_reaches_next_subscriber`). As long as no start
overtakes an event that waits for somebody else (`Relay.Orderly`), every call is to the one who opened
its period (`Relay.calls_reach_openers`). Calls on the session are single steps here.
-/

namespace SpokenCommand

variable {σ : Type}

/-- A call of a dispatcher: the number of the event in its period, who is called, and with what. -/
structure Call (σ : Type) where
  index : Nat
  receiver : σ
  text : String
deriving DecidableEq, Repr

/-- A period of listening. -/
structure Period (σ : Type) where
  reducer : Reducer
  /-- For whom the session listens in this period. -/
  opener : σ
  /-- All events that were sent so far. -/
  sent : List Event := []
  /-- How many of them the dispatcher has taken. -/
  taken : Nat := 0
  /-- The call that the dispatcher has got ready. -/
  calling : Option (Call σ) := none

namespace Period

/-- Some event was sent, but not taken. -/
def Waiting (q : Period σ) : Prop := q.taken < q.sent.length

def receive (e : Event) (q : Period σ) : Period σ := { q with sent := q.sent ++ [e] }

/-- The dispatcher takes the next event and reads the slot of the session. It does nothing before it
has made the call that it has got ready. -/
def take (s : Session σ) (q : Period σ) : Period σ :=
  match q.calling, q.sent[q.taken]? with
  | none, some e =>
    { q with
      taken := q.taken + 1
      calling := (s.deliver (some (q.reducer, e))).map fun (receiver, text) =>
        ⟨q.taken, receiver, text⟩ }
  | _, _ => q

def hangUp (q : Period σ) : Period σ := { q with calling := none }

end Period

/-- The subscriber for whom an operation opens a period. A load does so if it finds the session
listening and leaves it listening. -/
def Operation.opens? (s : Session σ) : Operation σ → Option σ
  | .load g => if s.listening then (s.load g).1.subscriber else none
  | op => op.opener? s

/-- The event that an operation sends. -/
def Operation.sends? (s : Session σ) : Operation σ → Option Event
  | .say utterance confidence => (s.backend.recognizer.hear utterance confidence).map Prod.snd
  | .emit e => (s.backend.recognizer.emit e).map Prod.snd
  | _ => none

/-- What can happen next. -/
inductive Action (σ : Type) where
  | operate (op : Operation σ)
  /-- The dispatcher of this period takes an event. -/
  | take (period : Nat)
  /-- The dispatcher of this period makes its call. -/
  | call (period : Nat)

/-- A session with all periods it has opened, oldest first, and all calls that were made, each with the
number of its period. -/
structure Relay (σ : Type) where
  session : Session σ
  periods : List (Period σ) := []
  delivered : List (Nat × Call σ) := []

namespace Relay

/-- An event goes to the newest period. -/
def sent (r : Relay σ) : Option Event → List (Period σ)
  | none => r.periods
  | some e => r.periods.modify (r.periods.length - 1) (Period.receive e)

/-- The period that an operation opens, if it does. -/
def newPeriod (s : Session σ) (op : Operation σ) : List (Period σ) :=
  match op.opens? s, (s.perform op).backend.recognizer.channel with
  | some opener, some reducer => [{ reducer, opener }]
  | _, _ => []

def operate (r : Relay σ) (op : Operation σ) : Relay σ :=
  { r with
    session := r.session.perform op
    periods := r.sent (op.sends? r.session) ++ newPeriod r.session op }

def step (r : Relay σ) : Action σ → Relay σ
  | .operate op => r.operate op
  | .take n => { r with periods := r.periods.modify n (Period.take r.session) }
  | .call n =>
    match r.periods[n]?.bind Period.calling with
    | some c =>
      { r with
        periods := r.periods.modify n Period.hangUp
        delivered := r.delivered ++ [(n, c)] }
    | none => r

def run (r : Relay σ) (schedule : List (Action σ)) : Relay σ := schedule.foldl step r

@[simp]
theorem run_cons (r : Relay σ) (a : Action σ) (schedule : List (Action σ)) :
    r.run (a :: schedule) = (r.step a).run schedule := rfl

end Relay

/-! ## One period -/

namespace Period

/-- The same period at a later time. -/
structure Becomes (q later : Period σ) : Prop where
  reducer : later.reducer = q.reducer
  opener : later.opener = q.opener
  sent : q.sent <+: later.sent

theorem Becomes.refl (q : Period σ) : q.Becomes q := ⟨rfl, rfl, List.prefix_rfl⟩

theorem becomes_receive (e : Event) (q : Period σ) : q.Becomes (q.receive e) :=
  ⟨rfl, rfl, List.prefix_append _ _⟩

theorem becomes_take (s : Session σ) (q : Period σ) : q.Becomes (q.take s) := by
  rw [take]
  split
  · exact ⟨rfl, rfl, List.prefix_rfl⟩
  · exact .refl q

theorem becomes_hangUp (q : Period σ) : q.Becomes q.hangUp := ⟨rfl, rfl, List.prefix_rfl⟩

theorem becomes_modify {change : Period σ → Period σ} (becomes : ∀ q : Period σ, q.Becomes (change q))
    {periods : List (Period σ)} {n m : Nat} {q : Period σ} (has : periods[n]? = some q) :
    ∃ later, (periods.modify m change)[n]? = some later ∧ q.Becomes later := by
  rw [List.getElem?_modify, has]
  by_cases here : m = n
  · exact ⟨change q, by simp [here], becomes q⟩
  · exact ⟨q, by simp [here], .refl q⟩

/-- The call is for an event of the period, with what its reducer makes of the event. -/
def Explains (q : Period σ) (c : Call σ) : Prop :=
  ∃ e, q.sent[c.index]? = some e ∧ q.reducer.reduce e = some c.text

theorem Becomes.explains {q later : Period σ} {c : Call σ} (becomes : q.Becomes later)
    (explains : q.Explains c) : later.Explains c := by
  obtain ⟨e, sent, reduced⟩ := explains
  obtain ⟨more, grown⟩ := becomes.sent
  refine ⟨e, ?_, by rw [becomes.reducer, reduced]⟩
  obtain ⟨inside, -⟩ := List.getElem?_eq_some_iff.mp sent
  rw [← grown, List.getElem?_append_left inside, sent]

/-- A call that a dispatcher gets ready is for the event it takes, and for whom it finds in the
slot. -/
theorem calling_take {s : Session σ} {q : Period σ} {c : Call σ}
    (calling : (q.take s).calling = some c) :
    q.calling = some c ∨
      q.Waiting ∧ s.subscriber = some c.receiver ∧ q.Explains c := by
  cases ready : q.calling with
  | some other => exact .inl (by simpa [take, ready] using calling)
  | none =>
    cases next : q.sent[q.taken]? with
    | none => simp [take, ready, next] at calling
    | some e =>
      obtain ⟨inside, -⟩ := List.getElem?_eq_some_iff.mp next
      cases reduced : q.reducer.reduce e with
      | none => simp [take, ready, next, Session.deliver, reduced] at calling
      | some text =>
        cases slot : s.subscriber with
        | none => simp [take, ready, next, Session.deliver, reduced, slot] at calling
        | some receiver =>
          obtain rfl : ⟨q.taken, receiver, text⟩ = c := by
            simpa [take, ready, next, Session.deliver, reduced, slot] using calling
          exact .inr ⟨inside, rfl, e, next, reduced⟩

theorem waiting_of_take {s : Session σ} {q : Period σ} (waiting : (q.take s).Waiting) :
    q.Waiting := by
  rw [take] at waiting
  split at waiting
  · exact Nat.lt_of_succ_lt waiting
  · exact waiting

end Period

namespace Relay

variable {r : Relay σ} {p : Phase σ} {n : Nat} {c : Call σ} {q : Period σ}

/-! ## What an operation can do -/

/-- The ways that an operation can go for the relay. -/
inductive Operates (r : Relay σ) (op : Operation σ) : Relay σ → Prop
  /-- A period begins, for the subscriber of a start or for the one that the session has. -/
  | opened {session : Session σ} {g : Grammar} {opener : σ} :
      session.InPhase (.listening g opener) →
      op.opener? r.session = some opener ∨ r.session.subscriber = some opener →
      Operates r op { r with
        session
        periods := r.periods ++ [{ reducer := .ofConfig session.config g.name, opener }] }
  /-- The session does not listen. -/
  | closed {session : Session σ} {p : Phase σ} : session.InPhase p → session.subscriber = none →
      Operates r op { r with session }
  /-- Nothing happens. -/
  | kept : Operates r op r
  /-- An event is sent. -/
  | sent {e : Event} {subscriber : σ} : r.session.subscriber = some subscriber →
      Operates r op { r with periods := r.sent (some e) }

theorem operate_opened {op : Operation σ} {g : Grammar} {opener : σ}
    (inPhase : (r.session.perform op).InPhase (.listening g opener))
    (opens : op.opens? r.session = some opener) (silent : op.sends? r.session = none) :
    r.operate op = { r with
      session := r.session.perform op
      periods := r.periods ++
        [{ reducer := .ofConfig (r.session.perform op).config g.name, opener }] } := by
  simp [operate, silent, sent, newPeriod, opens, inPhase.channel, Phase.channel?]

theorem operate_unopened {op : Operation σ} (unopened : op.opens? r.session = none) :
    r.operate op =
      { r with
        session := r.session.perform op
        periods := r.sent (op.sends? r.session) } := by
  simp [operate, newPeriod, unopened]

/-- Where the recognizer has a channel, somebody is in the slot. -/
theorem subscriber_of_channel {s : Session σ} {reducer : Reducer} (inPhase : s.InPhase p)
    (channel : s.backend.recognizer.channel = some reducer) :
    ∃ subscriber, s.subscriber = some subscriber := by
  rw [inPhase.channel] at channel
  rw [inPhase.subscriber]
  cases p with
  | bare | loaded g => simp [Phase.channel?] at channel
  | listening g subscriber => exact ⟨subscriber, rfl⟩

theorem channel_of_sends? {s : Session σ} {op : Operation σ} {e : Event}
    (sends : op.sends? s = some e) : ∃ reducer, s.backend.recognizer.channel = some reducer := by
  cases op with
  | load _ | start _ | stop => cases sends
  | say _ _ | emit _ =>
    cases channel : s.backend.recognizer.channel with
    | none => simp [Operation.sends?, Recognizer.hear, Recognizer.emit, channel] at sends
    | some reducer => exact ⟨reducer, rfl⟩

theorem operates_unchanged {op : Operation σ} (inPhase : r.session.InPhase p)
    (unopened : op.opens? r.session = none) (unchanged : r.session.perform op = r.session) :
    Operates r op (r.operate op) := by
  rw [operate_unopened unopened, unchanged]
  cases sends : op.sends? r.session with
  | none => exact .kept
  | some e =>
    obtain ⟨reducer, channel⟩ := channel_of_sends? sends
    obtain ⟨subscriber, slot⟩ := subscriber_of_channel inPhase channel
    exact .sent slot

theorem operates_load (inPhase : r.session.InPhase p) (g : Grammar) :
    Operates r (.load g) (r.operate (.load g)) := by
  obtain ⟨next, result, after, loads, way, inNext, -⟩ := inPhase.load g
  have same : r.session.perform (.load g) = next := by rw [Session.perform, loads]
  -- Whichever way the load went, the slot tells whether it has opened a period.
  cases slot : next.subscriber with
  | none =>
    have unopened : (Operation.load g).opens? r.session = none := by
      simp [Operation.opens?, loads, slot]
    rw [operate_unopened unopened, same]
    exact .closed inNext slot
  | some subscriber =>
    have resumed : p.subscriber? = some subscriber :=
      way.subscriber? (inNext.subscriber.symm.trans slot)
    have busy : r.session.listening = true := by rw [inPhase.listening, resumed]; rfl
    have opens : (Operation.load g).opens? r.session = some subscriber := by
      simp [Operation.opens?, busy, loads, slot]
    obtain ⟨current, rfl⟩ : ∃ current, after = .listening current subscriber := by
      have listens := inNext.subscriber.symm.trans slot
      cases after <;> simp_all [Phase.subscriber?]
    rw [← same] at inNext
    rw [operate_opened inNext opens rfl]
    exact .opened inNext (.inr (inPhase.subscriber.trans resumed))

theorem operates_start (inPhase : r.session.InPhase p) (own : σ) :
    Operates r (.start own) (r.operate (.start own)) := by
  obtain ⟨next, result, after, starts, way, inNext, -⟩ := inPhase.start own
  have same : r.session.perform (.start own) = next := by rw [Session.perform, starts]
  cases way with
  | bare | refused =>
    have unopened : (Operation.start own).opens? r.session = none := by
      simp [Operation.opens?, Operation.opener?, starts, Except.isOk, Except.toBool]
    rw [operate_unopened unopened, same]
    exact .closed inNext inNext.subscriber
  | opened =>
    have quiet : r.session.listening = false := inPhase.listening
    have opens : (Operation.start own).opener? r.session = some own := by
      simp [Operation.opener?, quiet, starts, Except.isOk, Except.toBool]
    rw [← same] at inNext
    rw [operate_opened inNext opens rfl]
    exact .opened inNext (.inl opens)
  | already =>
    -- The start succeeds, but the period of before goes on.
    have busy : r.session.listening = true := inPhase.listening
    have unopened : (Operation.start own).opens? r.session = none := by
      simp [Operation.opens?, Operation.opener?, busy]
    have unchanged : r.session.perform (.start own) = r.session := by
      simp [Session.perform, Session.start, busy]
    exact operates_unchanged inPhase unopened unchanged

theorem operates (inPhase : r.session.InPhase p) (op : Operation σ) :
    Operates r op (r.operate op) := by
  cases op with
  | load g => exact operates_load inPhase g
  | start own => exact operates_start inPhase own
  | stop =>
    rw [operate_unopened rfl]
    refine .closed inPhase.stop (inPhase.stop.subscriber.trans ?_)
    cases p <;> rfl
  | say _ _ | emit _ => exact operates_unchanged inPhase rfl rfl

/-! ## Periods stay and grow -/

/-- A dispatcher without a call to make does nothing. -/
theorem step_call (r : Relay σ) (m : Nat) :
    r.step (.call m) = r ∨ ∃ q c, r.periods[m]? = some q ∧ q.calling = some c ∧
      r.step (.call m) =
        { r with
          periods := r.periods.modify m Period.hangUp
          delivered := r.delivered ++ [(m, c)] } := by
  cases ready : r.periods[m]?.bind Period.calling with
  | none => exact .inl (by simp only [step, ready])
  | some c =>
    obtain ⟨q, has, calling⟩ := Option.bind_eq_some_iff.mp ready
    exact .inr ⟨q, c, has, calling, by simp only [step, ready]⟩

theorem becomes_step (inPhase : r.session.InPhase p) (a : Action σ)
    (has : r.periods[n]? = some q) :
    ∃ later, (r.step a).periods[n]? = some later ∧ q.Becomes later := by
  cases a with
  | operate op =>
    have way := operates inPhase op
    change ∃ later, (r.operate op).periods[n]? = some later ∧ _
    generalize r.operate op = next at way
    cases way with
    | opened =>
      -- A new period comes behind the others and leaves their numbers alone.
      obtain ⟨inside, -⟩ := List.getElem?_eq_some_iff.mp has
      exact ⟨q, by rw [List.getElem?_append_left inside, has], .refl q⟩
    | closed | kept => exact ⟨q, has, .refl q⟩
    | sent => exact Period.becomes_modify (Period.becomes_receive _) has
  | take m => exact Period.becomes_modify (Period.becomes_take r.session) has
  | call m =>
    rcases step_call r m with same | ⟨caller, call, -, -, made⟩
    · exact ⟨q, by rw [same, has], .refl q⟩
    · rw [made]
      exact Period.becomes_modify Period.becomes_hangUp has

/-! ## Calls -/

/-- A call was made in this period, or the dispatcher of the period has got it ready. -/
def Calls (r : Relay σ) (n : Nat) (c : Call σ) : Prop :=
  (n, c) ∈ r.delivered ∨ ∃ q, r.periods[n]? = some q ∧ q.calling = some c

theorem of_getElem?_modify {change : Period σ → Period σ} {periods : List (Period σ)} {m : Nat}
    {later : Period σ} (has : (periods.modify m change)[n]? = some later) :
    ∃ q, periods[n]? = some q ∧ (later = q ∨ m = n ∧ later = change q) := by
  rw [List.getElem?_modify] at has
  obtain ⟨q, here, rfl⟩ := Option.map_eq_some_iff.mp has
  by_cases same : m = n
  · exact ⟨q, here, .inr ⟨same, by simp [same]⟩⟩
  · exact ⟨q, here, .inl (by simp [same])⟩

theorem of_getElem?_concat {periods : List (Period σ)} {new later : Period σ}
    (has : (periods ++ [new])[n]? = some later) : periods[n]? = some later ∨ later = new := by
  by_cases inside : n < periods.length
  · rw [List.getElem?_append_left inside] at has
    exact .inl has
  · rw [List.getElem?_append_right (by omega)] at has
    exact .inr (List.mem_singleton.mp (List.mem_of_getElem? has))

/-- The only way to a new call is that the dispatcher of its period takes an event. -/
theorem calls_step (inPhase : r.session.InPhase p) {a : Action σ} (calls : (r.step a).Calls n c) :
    r.Calls n c ∨ ∃ q, r.periods[n]? = some q ∧ q.Waiting ∧
      r.session.subscriber = some c.receiver ∧ q.Explains c := by
  cases a with
  | operate op =>
    left
    have way := operates inPhase op
    change (r.operate op).Calls n c at calls
    generalize r.operate op = next at way calls
    cases way with
    | closed | kept => exact calls
    | opened =>
      refine calls.imp_right fun ⟨q, has, calling⟩ => ?_
      rcases of_getElem?_concat has with here | rfl
      · exact ⟨q, here, calling⟩
      · -- The new period has no call ready.
        cases calling
    | sent =>
      refine calls.imp_right fun ⟨later, has, calling⟩ => ?_
      obtain ⟨q, here, rfl | ⟨-, rfl⟩⟩ := of_getElem?_modify has
      · exact ⟨later, here, calling⟩
      · exact ⟨q, here, calling⟩
  | take m =>
    rcases calls with made | ⟨later, has, calling⟩
    · exact .inl (.inl made)
    · obtain ⟨q, here, rfl | ⟨-, rfl⟩⟩ := of_getElem?_modify has
      · exact .inl (.inr ⟨later, here, calling⟩)
      · rcases Period.calling_take calling with ready | ⟨waiting, slot, explains⟩
        · exact .inl (.inr ⟨q, here, ready⟩)
        · exact .inr ⟨q, here, waiting, slot, explains⟩
  | call m =>
    left
    rcases step_call r m with same | ⟨caller, call, here, ready, made⟩
    · rwa [same] at calls
    · rw [made] at calls
      rcases calls with heard | ⟨later, has, calling⟩
      · rcases List.mem_append.mp heard with before | now
        · exact .inl before
        · obtain ⟨rfl, rfl⟩ : n = m ∧ c = call := by simpa using now
          exact .inr ⟨caller, here, ready⟩
      · obtain ⟨q, here, rfl | ⟨-, rfl⟩⟩ := of_getElem?_modify has
        · exact .inr ⟨later, here, calling⟩
        · cases calling

/-! ## The newest period -/

/-- If anybody is listened for, it is in the newest period. -/
structure Current (r : Relay σ) : Prop where
  inPhase : ∃ p, r.session.InPhase p
  newest : ∀ subscriber, r.session.subscriber = some subscriber →
    ∃ q, r.periods[r.periods.length - 1]? = some q ∧ q.opener = subscriber ∧
      r.session.backend.recognizer.channel = some q.reducer

theorem Current.modify (current : r.Current) {change : Period σ → Period σ}
    (becomes : ∀ q : Period σ, q.Becomes (change q)) (m : Nat) (delivered : List (Nat × Call σ)) :
    Current { r with periods := r.periods.modify m change, delivered } where
  inPhase := current.inPhase
  newest subscriber slot := by
    obtain ⟨q, has, opener, channel⟩ := current.newest subscriber slot
    obtain ⟨later, hasLater, becomes⟩ := Period.becomes_modify becomes has
    refine ⟨later, ?_, becomes.opener.trans opener, ?_⟩
    · rw [List.length_modify]
      exact hasLater
    · rw [becomes.reducer]
      exact channel

theorem Current.step (current : r.Current) (a : Action σ) : (r.step a).Current := by
  cases a with
  | operate op =>
    obtain ⟨p, inPhase⟩ := current.inPhase
    have way := operates inPhase op
    change (r.operate op).Current
    generalize r.operate op = next at way
    cases way with
    | opened inNext =>
      refine ⟨⟨_, inNext⟩, fun subscriber slot => ?_⟩
      -- The period that was just opened is the newest, and it is that of the slot.
      obtain rfl : _ = subscriber := Option.some.inj (inNext.subscriber.symm.trans slot)
      refine ⟨{ reducer := .ofConfig _ _, opener := _ }, ?_, rfl, inNext.channel⟩
      simp
    | closed inNext nobody =>
      refine ⟨⟨_, inNext⟩, fun subscriber slot => ?_⟩
      rw [show _ = _ from slot] at nobody
      cases nobody
    | kept => exact current
    | sent => exact current.modify (Period.becomes_receive _) _ _
  | take m => exact current.modify (Period.becomes_take r.session) _ _
  | call m =>
    rcases step_call r m with same | ⟨_, _, -, -, made⟩
    · rwa [same]
    · rw [made]
      exact current.modify Period.becomes_hangUp _ _

/-- A call for an event of its own period, to the one who opened this period or a later one. -/
def Accounts (r : Relay σ) (n : Nat) (c : Call σ) : Prop :=
  ∃ q, r.periods[n]? = some q ∧ q.Explains c ∧
    ∃ m later, n ≤ m ∧ r.periods[m]? = some later ∧ later.opener = c.receiver

theorem Accounts.step (accounts : r.Accounts n c) (inPhase : r.session.InPhase p) (a : Action σ) :
    (r.step a).Accounts n c := by
  obtain ⟨q, has, explains, m, late, notBefore, hasLate, opener⟩ := accounts
  obtain ⟨own, hasOwn, becomes⟩ := becomes_step inPhase a has
  obtain ⟨later, hasLater, becomesLater⟩ := becomes_step inPhase a hasLate
  exact ⟨own, hasOwn, becomes.explains explains, m, later, notBefore, hasLater,
    becomesLater.opener.trans opener⟩

theorem accounts_step (current : r.Current) (known : ∀ n c, r.Calls n c → r.Accounts n c)
    {a : Action σ} (calls : (r.step a).Calls n c) : (r.step a).Accounts n c := by
  obtain ⟨p, inPhase⟩ := current.inPhase
  refine Accounts.step ?_ inPhase a
  rcases calls_step inPhase calls with before | ⟨q, has, -, slot, explains⟩
  · exact known n c before
  · -- Whoever is in the slot opened the newest period.
    obtain ⟨newest, hasNewest, opener, -⟩ := current.newest c.receiver slot
    obtain ⟨inside, -⟩ := List.getElem?_eq_some_iff.mp has
    exact ⟨q, has, explains, _, newest, by omega, hasNewest, opener⟩

theorem accounts_run (current : r.Current) (known : ∀ n c, r.Calls n c → r.Accounts n c)
    (schedule : List (Action σ)) (calls : (r.run schedule).Calls n c) :
    (r.run schedule).Accounts n c := by
  -- What is known of all calls so far, made or ready, is carried along with `Current`.
  induction schedule generalizing r with
  | nil => exact known n c calls
  | cons a schedule ih =>
    exact ih (current.step a) (fun _ _ => accounts_step current known) calls

/-! ## Schedules that keep the subscribers apart -/

/-- No start overtakes an event that waits for somebody else. -/
def Admits (r : Relay σ) : Action σ → Prop
  | .operate op => ∀ subscriber, op.opener? r.session = some subscriber →
      ∀ (n : Nat) (q : Period σ), r.periods[n]? = some q → q.Waiting → q.opener = subscriber
  | _ => True

def Orderly (r : Relay σ) : List (Action σ) → Prop
  | [] => True
  | a :: schedule => r.Admits a ∧ (r.step a).Orderly schedule

/-- All calls are to the openers of their own periods, and so will be those for the events that
wait. -/
structure Apart (r : Relay σ) : Prop where
  called : ∀ n c, r.Calls n c → ∃ q, r.periods[n]? = some q ∧ q.opener = c.receiver
  waiting : ∀ subscriber, r.session.subscriber = some subscriber →
    ∀ (n : Nat) (q : Period σ), r.periods[n]? = some q → q.Waiting → q.opener = subscriber

theorem Apart.waiting_step (apart : r.Apart) (current : r.Current) {a : Action σ}
    (admits : r.Admits a) {subscriber : σ} (slot : (r.step a).session.subscriber = some subscriber)
    {later : Period σ} (has : (r.step a).periods[n]? = some later) (waiting : later.Waiting) :
    later.opener = subscriber := by
  cases a with
  | operate op =>
    obtain ⟨p, inPhase⟩ := current.inPhase
    have way := operates inPhase op
    change (r.operate op).session.subscriber = some subscriber at slot
    change (r.operate op).periods[n]? = some later at has
    generalize r.operate op = next at way slot has
    cases way with
    | opened inNext origin =>
      obtain rfl : _ = subscriber := Option.some.inj (inNext.subscriber.symm.trans slot)
      rcases of_getElem?_concat has with here | rfl
      · rcases origin with started | resumed
        · exact admits _ started n later here waiting
        · exact apart.waiting _ resumed n later here waiting
      · rfl
    | closed _ nobody =>
      rw [show _ = _ from slot] at nobody
      cases nobody
    | kept => exact apart.waiting subscriber slot n later has waiting
    | sent =>
      obtain ⟨q, here, rfl | ⟨rfl, rfl⟩⟩ := of_getElem?_modify has
      · exact apart.waiting subscriber slot n later here waiting
      · -- An event is sent in the newest period, which is that of the subscriber.
        obtain ⟨newest, hasNewest, opener, -⟩ := current.newest subscriber slot
        obtain rfl : newest = q := Option.some.inj (hasNewest.symm.trans here)
        exact opener
  | take m =>
    obtain ⟨q, here, rfl | ⟨-, rfl⟩⟩ := of_getElem?_modify has
    · exact apart.waiting subscriber slot n later here waiting
    · rw [(Period.becomes_take r.session q).opener]
      exact apart.waiting subscriber slot n q here (Period.waiting_of_take waiting)
  | call m =>
    rcases step_call r m with same | ⟨_, _, -, -, made⟩
    · rw [same] at slot has
      exact apart.waiting subscriber slot n later has waiting
    · rw [made] at slot has
      obtain ⟨q, here, rfl | ⟨-, rfl⟩⟩ := of_getElem?_modify has
      · exact apart.waiting subscriber slot n later here waiting
      · exact apart.waiting subscriber slot n q here waiting

theorem Apart.step (apart : r.Apart) (current : r.Current) {a : Action σ} (admits : r.Admits a) :
    (r.step a).Apart where
  called n c calls := by
    obtain ⟨p, inPhase⟩ := current.inPhase
    obtain ⟨q, has, opener⟩ : ∃ q, r.periods[n]? = some q ∧ q.opener = c.receiver := by
      rcases calls_step inPhase calls with before | ⟨q, has, waiting, slot, -⟩
      · exact apart.called n c before
      · exact ⟨q, has, apart.waiting c.receiver slot n q has waiting⟩
    obtain ⟨later, hasLater, becomes⟩ := becomes_step inPhase a has
    exact ⟨later, hasLater, becomes.opener.trans opener⟩
  waiting _ slot _ _ has waits := apart.waiting_step current admits slot has waits

theorem Apart.run (apart : r.Apart) (current : r.Current) {schedule : List (Action σ)}
    (orderly : r.Orderly schedule) : (r.run schedule).Apart := by
  induction schedule generalizing r with
  | nil => exact apart
  | cons a schedule ih => exact ih (apart.step current orderly.1) (current.step a) orderly.2

/-! ## Dispatching at once -/

/-- What an operation brings to the subscriber at once. -/
def brings? (s : Session σ) : Operation σ → Option (σ × String)
  | .say utterance confidence => (s.say utterance confidence).2
  | .emit e => (s.emit e).2
  | _ => none

theorem brings?_of_sends? {s : Session σ} {op : Operation σ} {reducer : Reducer}
    (channel : s.backend.recognizer.channel = some reducer) :
    brings? s op = s.deliver ((op.sends? s).map (reducer, ·)) := by
  cases op with
  | load _ | start _ | stop => rfl
  | say utterance confidence =>
    cases heard : s.backend.recognizer.eventFor utterance confidence <;>
      simp [brings?, Session.say, Operation.sends?, Recognizer.hear, channel, heard]
  | emit e => simp [brings?, Session.emit, Operation.sends?, Recognizer.emit, channel]

theorem delivered_dispatch {e : Event} (has : r.periods[n]? = some q) (idle : q.calling = none)
    (next : q.sent[q.taken]? = some e) :
    (r.run [.take n, .call n]).delivered =
      r.delivered ++ ((r.session.deliver (some (q.reducer, e))).map fun (receiver, text) =>
        (n, ⟨q.taken, receiver, text⟩)).toList := by
  have calling : (q.take r.session).calling =
      (r.session.deliver (some (q.reducer, e))).map fun (receiver, text) =>
        ⟨q.taken, receiver, text⟩ := by
    simp [Period.take, idle, next]
  cases brought : r.session.deliver (some (q.reducer, e)) <;>
    simp [run, step, has, calling, brought]

theorem operate_sending {op : Operation σ} {e : Event} (sends : op.sends? r.session = some e) :
    r.operate op = { r with periods := r.sent (some e) } := by
  cases op with
  | load _ | start _ | stop => cases sends
  | say _ _ | emit _ =>
    rw [operate_unopened rfl, sends]
    rfl

/-- Where nothing waits in the newest period, an event that is sent and dispatched at once brings what
the session tells. -/
theorem dispatched_at_once (current : r.Current) {op : Operation σ} {e : Event}
    (has : r.periods[r.periods.length - 1]? = some q) (idle : q.calling = none)
    (drained : q.taken = q.sent.length) (sends : op.sends? r.session = some e) :
    (r.run [.operate op, .take (r.periods.length - 1), .call (r.periods.length - 1)]).delivered =
      r.delivered ++ ((brings? r.session op).map fun (receiver, text) =>
        (r.periods.length - 1, ⟨q.taken, receiver, text⟩)).toList := by
  obtain ⟨p, inPhase⟩ := current.inPhase
  obtain ⟨reducer, channel⟩ := channel_of_sends? sends
  obtain ⟨subscriber, slot⟩ := subscriber_of_channel inPhase channel
  -- The recognizer sends into the newest period, whose dispatcher has nothing else to do.
  obtain ⟨newest, hasNewest, -, ownChannel⟩ := current.newest subscriber slot
  obtain rfl : newest = q := Option.some.inj (hasNewest.symm.trans has)
  have received : (r.sent (some e))[r.periods.length - 1]? = some (newest.receive e) := by
    simp [sent, has]
  have next : (newest.receive e).sent[newest.taken]? = some e := by
    simp [Period.receive, drained]
  rw [run_cons, step, operate_sending sends, brings?_of_sends? ownChannel, sends]
  exact delivered_dispatch (q := newest.receive e) received idle next

/-! ## The law -/

section Law

variable (config : RecognitionConfig) (locale : String)
  (loadRefusal startRefusal : Nat → Option String)

/-- A new session, which has opened no period yet. -/
def opened : Relay σ := { session := .opened config locale loadRefusal startRefusal }

theorem opened_current : (opened config locale loadRefusal startRefusal : Relay σ).Current :=
  ⟨⟨_, Session.opened_inPhase config locale loadRefusal startRefusal⟩, fun _ slot => by cases slot⟩

theorem not_calls_opened : ¬ (opened config locale loadRefusal startRefusal : Relay σ).Calls n c := by
  simp [Calls, opened]

/-- Whatever the schedule, every call is for an event of its own period, as the reducer of the period
has it, and goes to the one who opened that period or a later one. If no start overtakes an event that
waits for somebody else, it goes to the one who opened that very period. -/
theorem calls_reach_openers (schedule : List (Action σ)) :
    let before : Relay σ := opened config locale loadRefusal startRefusal
    (∀ n c, (n, c) ∈ (before.run schedule).delivered → (before.run schedule).Accounts n c) ∧
      (before.Orderly schedule → ∀ n c, (n, c) ∈ (before.run schedule).delivered →
        ∃ q, (before.run schedule).periods[n]? = some q ∧ q.Explains c ∧
          q.opener = c.receiver) := by
  intro before
  have current : before.Current := opened_current config locale loadRefusal startRefusal
  have none : ∀ n c, ¬ before.Calls n c := fun _ _ =>
    not_calls_opened config locale loadRefusal startRefusal
  have accounts : ∀ n c, (n, c) ∈ (before.run schedule).delivered →
      (before.run schedule).Accounts n c := fun n c made =>
    accounts_run current (fun n c calls => absurd calls (none n c)) schedule (.inl made)
  refine ⟨accounts, fun orderly n c made => ?_⟩
  have apart : before.Apart :=
    ⟨fun n c calls => absurd calls (none n c), fun _ slot => by cases slot⟩
  obtain ⟨q, has, opener⟩ := (apart.run current orderly).called n c (.inl made)
  obtain ⟨same, hasSame, explains, -⟩ := accounts n c made
  obtain rfl : same = q := Option.some.inj (hasSame.symm.trans has)
  exact ⟨same, has, explains, opener⟩

end Law

/-- An event waits while the session stops and starts again for somebody else, who then gets it: the
first period was opened for 1, and its event is delivered to 2. -/
theorem waiting_event_reaches_next_subscriber :
    let g : Grammar := ⟨"Command", "en-US", [], 0⟩
    let e : Event := ⟨.ofInt 1, "Command", [⟨"go#0", some "go"⟩], false⟩
    let r : Relay Nat := (opened {} "en-US" (fun _ => none) (fun _ => none)).run
      [.operate (.load g), .operate (.start 1), .operate (.emit e), .operate .stop,
        .operate (.start 2), .take 0, .call 0]
    r.periods.map Period.opener = [1, 2] ∧ r.delivered = [(0, ⟨0, 2, "go"⟩)] := by
  decide

end Relay

end SpokenCommand
