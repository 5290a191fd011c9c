import SoleKey.Connection.Shared
import SoleKey.Proofs.Connection.Turn
import SoleKey.Proofs.SigningLock.Transition

set_option autoImplicit false

namespace SoleKey

namespace Connection

variable {session : Session} {connection polled : Connection} {effects : List Effect}

theorem phase_of_poll? (turn : connection.poll? session = some (effects, polled)) :
    connection.phase = .reading := by
  obtain ⟨taken, takes, _⟩ := Option.map_eq_some_iff.1 turn
  exact reading_of_take? takes

theorem waits_of_phase {operation : KeyOperation} {finish : KeyContinuation}
    (phase : connection.phase = .waiting operation finish) : connection.isWaiting = true := by
  simp [isWaiting, phase]

theorem isWaiting_resume {operation : KeyOperation} {finish : KeyContinuation}
    (phase : connection.phase = .waiting operation finish)
    (outcome : Except SigningError KeyResult) :
    (connection.resume outcome).2.isWaiting = false := by
  simp [resume, phase, isWaiting_send]

theorem result?_of_isWaiting (waits : connection.isWaiting = true) :
    connection.result? = none := by
  cases phase : connection.phase <;> simp_all [isWaiting, result?]

theorem phase_after (connection : Connection) (act : ClientAct) :
    (connection.after act).phase = connection.phase := by
  cases act with
  | sends arrival =>
    show (connection.receive arrival).phase = connection.phase
    unfold receive
    split <;> rfl
  | takes | collects => rfl

theorem isWaiting_after (connection : Connection) (act : ClientAct) :
    (connection.after act).isWaiting = connection.isWaiting := by
  simp [isWaiting, phase_after]

theorem result?_after (connection : Connection) (act : ClientAct) :
    (connection.after act).result? = connection.result? := by
  simp [result?, phase_after]

end Connection

namespace SharedConnections

variable {session : Session} {shared : SharedConnections} {number : Nat} {connection : Connection}

def numbers (shared : SharedConnections) : List Nat :=
  shared.connections.map Prod.fst

@[simp] theorem lock_update : (shared.update number connection).lock = shared.lock := rfl

@[simp] theorem lock_insert : (shared.insert number connection).lock = shared.lock := rfl

@[simp] theorem numbers_update : (shared.update number connection).numbers = shared.numbers := by
  simp only [numbers, update, List.map_map]
  apply List.map_congr_left
  intro entry _
  by_cases same : entry.1 = number <;> simp [same]

@[simp] theorem find?_update (other : Nat) :
    (shared.update number connection).find? other =
      if other = number then (shared.find? number).map fun _ => connection
      else shared.find? other := by
  simp only [find?, update]
  induction shared.connections with
  | nil => simp
  | cons entry rest ih =>
    obtain ⟨key, old⟩ := entry
    by_cases asked : other = key
    · subst asked
      by_cases own : other = number <;> simp [own]
    · have apart : (other == key) = false := by simpa using asked
      by_cases own : key = number
      · subst own
        simpa [List.lookup_cons, apart, asked] using ih
      · have elsewhere : (number == key) = false := by simpa using Ne.symm own
        simpa [List.lookup_cons, apart, own, elsewhere] using ih

theorem find?_insert (fresh : shared.find? number = none) (other : Nat) :
    (shared.insert number connection).find? other =
      if other = number then some connection else shared.find? other := by
  unfold find? at fresh
  simp only [find?, insert, List.lookup_append]
  by_cases asked : other = number
  · subst asked
    simp [fresh]
  · simp [asked, List.lookup_cons, beq_eq_false_iff_ne.2 asked]

theorem mem_numbers : number ∈ shared.numbers ↔ (shared.find? number).isSome = true := by
  simp only [numbers, find?]
  induction shared.connections with
  | nil => simp
  | cons entry rest ih =>
    by_cases asked : number = entry.1 <;> simp_all

def asking (shared : SharedConnections) (number : Nat) (polled : Connection)
    (operation : KeyOperation) : SharedConnections where
  lock := { shared.lock with waiting := shared.lock.waiting ++ [⟨number, operation⟩] }
  connections := (shared.update number polled).connections

inductive Transition (session : Session) (shared : SharedConnections) : Event → Step → Prop where
  | opened (number : Nat) (connection : Connection) (fresh : shared.find? number = none)
      (new : connection.isNew = true) :
      Transition session shared (.opened number connection) ([], shared.insert number connection)
  | client (number : Nat) (act : Connection.ClientAct) (connection : Connection)
      (found : shared.find? number = some connection) :
      Transition session shared (.client number act)
        ([], shared.update number (connection.after act))
  | answers (number : Nat) (connection polled : Connection) (effects : List Effect)
      (found : shared.find? number = some connection)
      (turn : connection.poll? session = some (effects, polled))
      (answered : polled.isWaiting = false) :
      Transition session shared (.polls number) (effects, shared.update number polled)
  | asks (number : Nat) (connection polled : Connection) (effects : List Effect)
      (operation : KeyOperation) (finish : KeyContinuation)
      (found : shared.find? number = some connection)
      (turn : connection.poll? session = some (effects, polled))
      (waits : polled.phase = .waiting operation finish) :
      Transition session shared (.polls number) (effects, shared.asking number polled operation)
  | works (event : SigningLock.Event Nat) (step : SigningLock.Step Nat) (own : event.isOwn = true)
      (moved : shared.lock.step? event = some step) :
      Transition session shared (.works event)
        (step.effects ++ ({ shared with lock := step.next }.tell step.delivered).1,
          ({ shared with lock := step.next }.tell step.delivered).2)

theorem transition_of_polls {step : Step} (moved : shared.step? session (.polls number) = some step) :
    Transition session shared (.polls number) step := by
  simp only [step?, Option.bind_eq_bind, Option.bind_eq_some_iff] at moved
  obtain ⟨connection, found, ⟨effects, polled⟩, turn, moved⟩ := moved
  obtain rfl := Option.some.inj moved
  cases phase : polled.phase with
  | waiting operation finish =>
    simpa [enqueue, phase, SigningLock.step?, asking] using
      Transition.asks number connection polled effects operation finish found turn phase
  | reading | ended =>
    have answered : polled.isWaiting = false := by simp [Connection.isWaiting, phase]
    simpa [enqueue, phase] using
      Transition.answers number connection polled effects found turn answered

theorem step?_answers {polled : Connection} {effects : List Effect}
    (found : shared.find? number = some connection)
    (turn : connection.poll? session = some (effects, polled))
    (answered : polled.isWaiting = false) :
    shared.step? session (.polls number) = some (effects, shared.update number polled) := by
  cases phase : polled.phase with
  | waiting => simp [Connection.isWaiting, phase] at answered
  | reading | ended => simp [step?, found, turn, enqueue, phase]

theorem step?_opened (fresh : shared.find? number = none) (new : connection.isNew = true) :
    shared.step? session (.opened number connection) =
      some ([], shared.insert number connection) := by
  simp [step?, fresh, new]

theorem transition_of_step? {event : Event} {step : Step}
    (moved : shared.step? session event = some step) : Transition session shared event step := by
  cases event with
  | polls number => exact transition_of_polls moved
  | opened number connection =>
    by_cases fresh : (shared.find? number).isNone = true ∧ connection.isNew = true
    · simp only [step?, if_pos fresh, Option.some.injEq] at moved
      exact moved ▸ .opened number connection (Option.isNone_iff_eq_none.1 fresh.1) fresh.2
    · simp only [step?, if_neg fresh, reduceCtorEq] at moved
  | client number act =>
    obtain ⟨connection, found, acted⟩ := Option.map_eq_some_iff.1 moved
    exact acted ▸ .client number act connection found
  | works event =>
    by_cases own : event.isOwn = true
    · simp only [step?, if_pos own, Option.bind_eq_bind, Option.bind_eq_some_iff] at moved
      obtain ⟨step, moves, told⟩ := moved
      obtain rfl := Option.some.inj told
      exact .works event step own moves
    · simp [step?, own] at moved

def callers (shared : SharedConnections) : List Nat :=
  shared.lock.working.map (·.ticket.caller) ++ shared.lock.waiting.map (·.caller)

def Waits (shared : SharedConnections) (number : Nat) : Prop :=
  ∃ connection, shared.find? number = some connection ∧ connection.isWaiting = true

structure Consistent (shared : SharedConnections) : Prop where
  exclusive : shared.lock.Exclusive
  distinct : shared.callers.Nodup
  waits : ∀ caller ∈ shared.callers, shared.Waits caller

theorem consistent_empty : Consistent .empty where
  exclusive := .idle []
  distinct := by simp [callers, empty, SigningLock.free]
  waits := by simp [callers, empty, SigningLock.free]

variable {other : Nat}

theorem Waits.update (waits : shared.Waits other) (apart : other ≠ number) :
    (shared.update number connection).Waits other := by
  obtain ⟨old, found, waiting⟩ := waits
  exact ⟨old, by simpa [apart] using found, waiting⟩

theorem not_waits_of_reading (found : shared.find? number = some connection)
    (reading : connection.phase = .reading) : ¬shared.Waits number := by
  intro ⟨old, same, waiting⟩
  obtain rfl := Option.some.inj (found.symm.trans same)
  simp [Connection.isWaiting, reading] at waiting

theorem find?_resume (told : Nat) (outcome : Except SigningError KeyResult)
    (apart : other ≠ told) : (shared.resume told outcome).2.find? other = shared.find? other := by
  unfold resume
  split <;> simp [apart]

@[simp] theorem lock_resume (told : Nat) (outcome : Except SigningError KeyResult) :
    (shared.resume told outcome).2.lock = shared.lock := by
  unfold resume
  split <;> rfl

@[simp] theorem numbers_resume (told : Nat) (outcome : Except SigningError KeyResult) :
    (shared.resume told outcome).2.numbers = shared.numbers := by
  unfold resume
  split <;> simp

namespace Consistent

theorem client (consistent : shared.Consistent) (found : shared.find? number = some connection)
    (act : Connection.ClientAct) :
    (shared.update number (connection.after act)).Consistent where
  exclusive := consistent.exclusive
  distinct := consistent.distinct
  waits := by
    intro caller there
    obtain ⟨old, same, waiting⟩ := consistent.waits caller there
    by_cases own : caller = number
    · subst own
      obtain rfl := Option.some.inj (found.symm.trans same)
      exact ⟨connection.after act, by simp [found], by
        simpa [Connection.isWaiting_after] using waiting⟩
    · exact Waits.update ⟨old, same, waiting⟩ own

theorem update (consistent : shared.Consistent) (reading : ¬shared.Waits number)
    (connection : Connection) : (shared.update number connection).Consistent where
  exclusive := consistent.exclusive
  distinct := consistent.distinct
  waits := by
    intro caller there
    -- Only connections that wait have an operation at the lock, so this one has none.
    have waits := consistent.waits caller there
    have apart : caller ≠ number := by
      intro same
      exact reading (same ▸ waits)
    exact waits.update apart

theorem asks (consistent : shared.Consistent) (found : shared.find? number = some connection)
    (reading : connection.phase = .reading) {polled : Connection} {operation : KeyOperation}
    {finish : KeyContinuation} (phase : polled.phase = .waiting operation finish) :
    (shared.asking number polled operation).Consistent := by
  have absent : number ∉ shared.callers := fun there =>
    not_waits_of_reading found reading (consistent.waits number there)
  have callers : (shared.asking number polled operation).callers = shared.callers ++ [number] := by
    simp [SharedConnections.callers, asking]
  have finds (caller : Nat) : (shared.asking number polled operation).find? caller =
      (shared.update number polled).find? caller := rfl
  exact
    { exclusive := consistent.exclusive.next (.arrive shared.lock ⟨number, operation⟩)
      distinct := by
        rw [callers, List.nodup_append]
        refine ⟨consistent.distinct, by simp, ?_⟩
        intro caller there other same
        obtain rfl := List.mem_singleton.1 same
        exact fun own => absent (own ▸ there)
      waits := by
        intro caller there
        rw [callers, List.mem_append, List.mem_singleton] at there
        cases there with
        | inl earlier =>
          have apart : caller ≠ number := fun own => absent (own ▸ earlier)
          exact (consistent.waits caller earlier).update apart
        | inr own =>
          subst own
          have waiting := Connection.waits_of_phase phase
          have placed : (shared.update caller polled).find? caller = some polled := by
            simp [found]
          exact ⟨polled, placed, waiting⟩ }

theorem opened (consistent : shared.Consistent) (fresh : shared.find? number = none)
    (connection : Connection) : (shared.insert number connection).Consistent where
  exclusive := consistent.exclusive
  distinct := consistent.distinct
  waits := by
    intro caller there
    obtain ⟨old, found, waiting⟩ := consistent.waits caller there
    have apart : caller ≠ number := by
      intro same
      subst same
      simp [fresh] at found
    exact ⟨old, by simpa [find?_insert fresh, apart] using found, waiting⟩

theorem ended {waiting : List (Ticket Nat)} {work : Work Nat} {connections : List (Nat × Connection)}
    (consistent : Consistent ⟨⟨true, waiting, [work]⟩, connections⟩)
    (outcome : Except SigningError KeyResult) :
    (tell ⟨⟨false, waiting, []⟩, connections⟩ (work.told outcome)).2.Consistent := by
  have distinct : (work.ticket.caller :: waiting.map (·.caller)).Nodup := consistent.distinct
  have left : Consistent ⟨⟨false, waiting, []⟩, connections⟩ :=
    { exclusive := .idle waiting
      distinct := distinct.of_cons
      waits := fun caller there => consistent.waits caller (List.mem_cons_of_mem _ there) }
  unfold Work.told
  split
  · -- Nobody else waits under the number of the connection that is told.
    have apart (caller : Nat) (there : caller ∈ waiting.map (·.caller)) :
        caller ≠ work.ticket.caller := by
      intro same
      exact (List.nodup_cons.1 distinct).1 (same ▸ there)
    simp only [tell]
    exact
      { exclusive := by simpa using left.exclusive
        distinct := by simpa [callers] using left.distinct
        waits := by
          intro caller there
          have earlier : caller ∈ waiting.map (·.caller) := by simpa [callers] using there
          obtain ⟨old, found, waits⟩ := left.waits caller earlier
          exact ⟨old, by rw [find?_resume _ _ (apart caller earlier), found], waits⟩ }
  · exact left

theorem works (consistent : shared.Consistent) {event : SigningLock.Event Nat}
    {step : SigningLock.Step Nat} (own : event.isOwn = true)
    (moved : shared.lock.step? event = some step) :
    ({ shared with lock := step.next }.tell step.delivered).2.Consistent := by
  have transition := SigningLock.transition_of_step? consistent.exclusive moved
  obtain ⟨lock, connections⟩ := shared
  cases transition with
  | arrive | leave => simp [SigningLock.Event.isOwn] at own
  | grant oldest rest =>
    exact
      { exclusive := .busy ..
        distinct := consistent.distinct
        waits := consistent.waits }
  | load | act =>
    exact
      { exclusive := .busy ..
        distinct := consistent.distinct
        waits := consistent.waits }
  | finish waiting ticket present found tpm made => exact consistent.ended _
  | panic waiting ticket present found tpm made => exact consistent.ended _

theorem next (consistent : shared.Consistent) {event : Event} {step : Step}
    (transition : Transition session shared event step) : step.2.Consistent := by
  cases transition with
  | opened number connection fresh => exact consistent.opened fresh connection
  | client number act connection found => exact consistent.client found act
  | answers number connection polled effects found turn =>
    exact consistent.update (not_waits_of_reading found (Connection.phase_of_poll? turn)) polled
  | asks number connection polled effects operation finish found turn waits =>
    exact consistent.asks found (Connection.phase_of_poll? turn) waits
  | works event step own moved => exact consistent.works own moved

end Consistent

inductive Reaches (session : Session) : SharedConnections → Prop where
  | start : Reaches session .empty
  | next {shared : SharedConnections} {event : Event} {effects : List Effect}
      {next : SharedConnections} (reached : Reaches session shared)
      (moved : shared.step? session event = some (effects, next)) : Reaches session next

theorem Reaches.consistent (reached : Reaches session shared) : shared.Consistent := by
  induction reached with
  | start => exact consistent_empty
  | next reached moved consistent => exact consistent.next (transition_of_step? moved)

theorem Reaches.steps (reached : Reaches session shared) (events : List Event)
    {effects : List Effect} {next : SharedConnections}
    (moved : shared.steps? session events = some (effects, next)) : Reaches session next := by
  induction events generalizing shared effects with
  | nil =>
    obtain ⟨_, rfl⟩ := Prod.mk.inj (Option.some.inj moved)
    exact reached
  | cons event rest ih =>
    simp only [steps?, Option.bind_eq_bind, Option.bind_eq_some_iff] at moved
    obtain ⟨⟨early, middle⟩, moves, ⟨late, last⟩, moved, same⟩ := moved
    obtain ⟨_, rfl⟩ := Prod.mk.inj (Option.some.inj same)
    exact ih (reached.next moves) moved

theorem Reaches.each (reached : Reaches session shared) {good : Connection → Prop}
    (new : ∀ connection, connection.isNew = true → good connection)
    (acts : ∀ connection act, good connection → good (connection.after act))
    (polls : ∀ connection effects polled, good connection →
      connection.poll? session = some (effects, polled) → good polled)
    (resumes : ∀ connection outcome, good connection → good (connection.resume outcome).2) :
    ∀ number connection, shared.find? number = some connection → good connection := by
  -- One connection at a time changes, and all the others are as good as before.
  have updated {shared : SharedConnections} (number : Nat) {placed : Connection}
      (each : ∀ other found, shared.find? other = some found → good found)
      (holds : good placed) (other : Nat) (found : Connection)
      (there : (shared.update number placed).find? other = some found) : good found := by
    by_cases own : other = number
    · subst own
      obtain ⟨_, _, rfl⟩ : ∃ old, shared.find? other = some old ∧ placed = found := by
        simpa using there
      exact holds
    · exact each other found (by simpa [own] using there)
  induction reached with
  | start => simp [empty, find?]
  | next reached moved each =>
    cases transition_of_step? moved with
    | opened number connection fresh isNew =>
      intro other found there
      rw [find?_insert fresh] at there
      split at there
      · exact Option.some.inj there ▸ new connection isNew
      · exact each other found there
    | client number act connection found =>
      exact updated number each (acts connection act (each number connection found))
    | answers number connection polled effects found turn =>
      exact updated number each (polls connection _ polled (each number connection found) turn)
    | asks number connection polled effects operation finish found turn =>
      have holds := polls connection _ polled (each number connection found) turn
      exact updated number each holds
    | works event step =>
      cases told : step.delivered with
      | nil => exact each
      | cons entry rest =>
        obtain ⟨number, outcome⟩ := entry
        simp only [tell, resume]
        split
        · rename_i connection found
          exact updated number each (resumes connection outcome (each number connection found))
        · exact each

end SharedConnections

end SoleKey
