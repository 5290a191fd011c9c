import SoleKey.Proofs.Connection.Settling
import SoleKey.Proofs.Connection.Shared

set_option autoImplicit false

namespace SoleKey

def KeyOperation.length (operation : KeyOperation) (load : Load) (tpm : Tpm) : Nat :=
  (operation.conclude load tpm).1.length

def Work.Follows {ι : Type} (load : Load) (tpm : Tpm) (work : Work ι) : Prop :=
  work.callerPresent = true ∧
    (work.progress = .loading ∨ ∃ made, made ≤ work.ticket.operation.length load tpm ∧
      work.progress = .acting load tpm made)

theorem Work.Follows.acting {ι : Type} {load found : Load} {tpm given : Tpm} {ticket : Ticket ι}
    {made : Nat} {present : Bool}
    (follows : Work.Follows load tpm ⟨ticket, .acting found given made, present⟩) :
    present = true ∧ found = load ∧ given = tpm ∧ made ≤ ticket.operation.length load tpm := by
  obtain ⟨there, loading | ⟨_, far, acting⟩⟩ := follows
  · simp at loading
  · obtain ⟨rfl, rfl, rfl⟩ := Progress.acting.inj acting
    exact ⟨there, rfl, rfl, far⟩

namespace SharedConnections

variable {session : Session} {load : Load} {tpm : Tpm} {shared : SharedConnections}
  {number other : Nat} {connection : Connection} {operation : KeyOperation}

/-- Every key operation finds this key and this TPM, and none breaks off. -/
def Event.Keeps (load : Load) (tpm : Tpm) : Event → Prop
  | .works (.load _ found given) => found = load ∧ given = tpm
  | .works (.panic _) => False
  | _ => True

def Event.isOwn : Event → Bool
  | .polls _ => true
  | .works event => SigningLock.Event.isOwn event
  | _ => false

def Asks (shared : SharedConnections) (number : Nat) (operation : KeyOperation) : Prop :=
  ∃ connection finish, shared.find? number = some connection ∧
    connection.phase = .waiting operation finish

def tickets (shared : SharedConnections) : List (Ticket Nat) :=
  shared.lock.working.map (·.ticket) ++ shared.lock.waiting

structure Steady (load : Load) (tpm : Tpm) (shared : SharedConnections) : Prop where
  consistent : shared.Consistent
  asks : ∀ ticket ∈ shared.tickets, shared.Asks ticket.caller ticket.operation
  queued : ∀ number, shared.Waits number → number ∈ shared.callers
  follows : ∀ work ∈ shared.lock.working, work.Follows load tpm

theorem steady_empty : Steady load tpm .empty where
  consistent := consistent_empty
  asks := by simp [tickets, empty, SigningLock.free]
  queued := by simp [Waits, empty, find?]
  follows := by simp [empty, SigningLock.free]

theorem Asks.update (asks : shared.Asks other operation) (apart : other ≠ number) :
    (shared.update number connection).Asks other operation := by
  obtain ⟨old, finish, found, waits⟩ := asks
  exact ⟨old, finish, by simpa [apart] using found, waits⟩

theorem Asks.not_reading (asks : shared.Asks number operation)
    (found : shared.find? number = some connection) : connection.phase ≠ .reading := by
  obtain ⟨old, finish, same, waits⟩ := asks
  obtain rfl := Option.some.inj (found.symm.trans same)
  simp [waits]

theorem waits_of_update (waits : (shared.update number connection).Waits other) :
    (other = number ∧ connection.isWaiting = true) ∨ (other ≠ number ∧ shared.Waits other) := by
  obtain ⟨placed, found, waiting⟩ := waits
  by_cases own : other = number
  · subst own
    obtain ⟨_, _, rfl⟩ : ∃ old, shared.find? other = some old ∧ connection = placed := by
      simpa using found
    exact .inl ⟨rfl, waiting⟩
  · exact .inr ⟨own, placed, by simpa [own] using found, waiting⟩

theorem tell_told (found : shared.find? number = some connection)
    (outcome : Except SigningError KeyResult) :
    (shared.tell [(number, outcome)]).2 = shared.update number (connection.resume outcome).2 := by
  simp [tell, resume, found]

theorem isWaiting_of_isNew (new : connection.isNew = true) : connection.isWaiting = false := by
  cases phase : connection.phase <;> simp_all [Connection.isNew, Connection.isWaiting]

namespace Steady

theorem opened (steady : shared.Steady load tpm) (fresh : shared.find? number = none)
    (new : connection.isNew = true) : (shared.insert number connection).Steady load tpm where
  consistent := steady.consistent.opened fresh connection
  asks := by
    intro ticket member
    obtain ⟨old, finish, found, waits⟩ := steady.asks ticket member
    have apart : ticket.caller ≠ number := by
      intro same
      simp [same, fresh] at found
    exact ⟨old, finish, by simpa [find?_insert fresh, apart] using found, waits⟩
  queued := by
    rintro waiter ⟨placed, found, waiting⟩
    rw [find?_insert fresh] at found
    split at found
    · obtain rfl := Option.some.inj found
      simp [isWaiting_of_isNew new] at waiting
    · exact steady.queued waiter ⟨placed, found, waiting⟩
  follows := steady.follows

theorem client (steady : shared.Steady load tpm) (found : shared.find? number = some connection)
    (act : Connection.ClientAct) :
    (shared.update number (connection.after act)).Steady load tpm where
  consistent := steady.consistent.client found act
  asks := by
    intro ticket member
    have asks := steady.asks ticket member
    by_cases own : ticket.caller = number
    · obtain ⟨old, finish, same, waits⟩ := asks
      rw [own] at same ⊢
      obtain rfl := Option.some.inj (found.symm.trans same)
      exact ⟨connection.after act, finish, by simp [found], by rw [Connection.phase_after, waits]⟩
    · exact asks.update own
  queued := by
    intro waiter waits
    rcases waits_of_update waits with ⟨rfl, waiting⟩ | ⟨_, waits⟩
    · rw [Connection.isWaiting_after] at waiting
      exact steady.queued waiter ⟨connection, found, waiting⟩
    · exact steady.queued waiter waits
  follows := steady.follows

theorem not_caller (steady : shared.Steady load tpm)
    (found : shared.find? number = some connection) (reading : connection.phase = .reading)
    {ticket : Ticket Nat} (member : ticket ∈ shared.tickets) : ticket.caller ≠ number := by
  intro own
  exact (own ▸ steady.asks ticket member).not_reading found reading

theorem answers (steady : shared.Steady load tpm) (found : shared.find? number = some connection)
    (reading : connection.phase = .reading) {polled : Connection}
    (answered : polled.isWaiting = false) : (shared.update number polled).Steady load tpm where
  consistent := steady.consistent.update (not_waits_of_reading found reading) polled
  asks := fun ticket member =>
    (steady.asks ticket member).update (steady.not_caller found reading member)
  queued := by
    intro waiter waits
    rcases waits_of_update waits with ⟨rfl, waiting⟩ | ⟨_, waits⟩
    · simp [answered] at waiting
    · exact steady.queued waiter waits
  follows := steady.follows

theorem asks_next (steady : shared.Steady load tpm)
    (found : shared.find? number = some connection) (reading : connection.phase = .reading)
    {polled : Connection} {finish : KeyContinuation}
    (waits : polled.phase = .waiting operation finish) :
    (shared.asking number polled operation).Steady load tpm where
  consistent := steady.consistent.asks found reading waits
  asks := by
    intro ticket member
    have tickets : (shared.asking number polled operation).tickets =
        shared.tickets ++ [⟨number, operation⟩] := by
      simp [SharedConnections.tickets, asking]
    rw [tickets, List.mem_append, List.mem_singleton] at member
    cases member with
    | inl earlier =>
      exact (steady.asks ticket earlier).update (steady.not_caller found reading earlier)
    | inr own =>
      subst own
      have placed : (shared.update number polled).find? number = some polled := by simp [found]
      exact ⟨polled, finish, placed, waits⟩
  queued := by
    intro waiter waiting
    have callers : (shared.asking number polled operation).callers =
        shared.callers ++ [number] := by
      simp [SharedConnections.callers, asking]
    have updated : (shared.update number polled).Waits waiter := waiting
    rw [callers, List.mem_append, List.mem_singleton]
    rcases waits_of_update updated with ⟨own, _⟩ | ⟨_, waits⟩
    · exact .inr own
    · exact .inl (steady.queued waiter waits)
  follows := steady.follows

theorem told {waiting : List (Ticket Nat)} {ticket : Ticket Nat} {found : Load} {given : Tpm}
    {made : Nat} {present : Bool} {connections : List (Nat × Connection)}
    (steady : Steady load tpm
      ⟨⟨true, waiting, [⟨ticket, .acting found given made, present⟩]⟩, connections⟩) :
    ∃ connection finish, List.lookup ticket.caller connections = some connection ∧
      connection.phase = .waiting ticket.operation finish ∧
      (tell ⟨⟨false, waiting, []⟩, connections⟩
        (Work.told ⟨ticket, .acting found given made, present⟩
          (ticket.operation.conclude found given).2)).2 =
        update ⟨⟨false, waiting, []⟩, connections⟩ ticket.caller
          (connection.resume (ticket.operation.conclude load tpm).2).2 := by
  obtain ⟨rfl, rfl, rfl, _⟩ := (steady.follows _ (List.mem_singleton_self _)).acting
  obtain ⟨connection, finish, asks, waits⟩ := steady.asks ticket (List.mem_cons_self ..)
  have free : find? ⟨⟨false, waiting, []⟩, connections⟩ ticket.caller = some connection := asks
  exact ⟨connection, finish, asks, waits, tell_told free _⟩

theorem finish {waiting : List (Ticket Nat)} {work : Work Nat}
    {connections : List (Nat × Connection)}
    (steady : Steady load tpm ⟨⟨true, waiting, [work]⟩, connections⟩)
    {resumed : Connection} (answered : resumed.isWaiting = false)
    (consistent :
      (update ⟨⟨false, waiting, []⟩, connections⟩ work.ticket.caller resumed).Consistent) :
    (update ⟨⟨false, waiting, []⟩, connections⟩ work.ticket.caller resumed).Steady load tpm where
  consistent := consistent
  asks := by
    intro ticket member
    -- Nobody else waits under the number of the connection that is told.
    have distinct : (work.ticket.caller :: waiting.map (·.caller)).Nodup :=
      steady.consistent.distinct
    have later : ticket ∈ waiting := by simpa [tickets] using member
    have apart : ticket.caller ≠ work.ticket.caller := by
      intro same
      exact (List.nodup_cons.1 distinct).1 (same ▸ List.mem_map_of_mem later)
    have asks : Asks ⟨⟨false, waiting, []⟩, connections⟩ ticket.caller ticket.operation :=
      steady.asks ticket (List.mem_cons_of_mem _ later)
    exact asks.update apart
  queued := by
    intro waiter waits
    rcases waits_of_update waits with ⟨_, waiting⟩ | ⟨apart, waits⟩
    · simp [answered] at waiting
    · have among : waiter ∈ work.ticket.caller :: waiting.map (·.caller) :=
        steady.queued waiter waits
      simpa [callers] using (List.mem_cons.1 among).resolve_left apart
  follows := by simp

theorem works (steady : shared.Steady load tpm) {event : SigningLock.Event Nat}
    (keeps : Event.Keeps load tpm (.works event)) {step : SigningLock.Step Nat}
    (own : event.isOwn = true) (moved : shared.lock.step? event = some step) :
    ({ shared with lock := step.next }.tell step.delivered).2.Steady load tpm := by
  have consistent := steady.consistent.works own moved
  have transition := SigningLock.transition_of_step? steady.consistent.exclusive moved
  obtain ⟨lock, connections⟩ := shared
  cases transition with
  | arrive | leave => simp [SigningLock.Event.isOwn] at own
  | panic => exact keeps.elim
  | grant oldest rest =>
    exact
      { consistent := consistent
        asks := steady.asks
        queued := steady.queued
        follows := by simp [tell, Work.Follows] }
  | load waiting ticket present found given =>
    obtain ⟨rfl, rfl⟩ := keeps
    have there := (steady.follows _ (List.mem_singleton_self _)).1
    exact
      { consistent := consistent
        asks := steady.asks
        queued := steady.queued
        follows := by simpa [tell, Work.Follows] using there }
  | act waiting ticket present found given made effect ahead =>
    obtain ⟨there, rfl, rfl, _⟩ := (steady.follows _ (List.mem_singleton_self _)).acting
    have further : made + 1 ≤ (ticket.operation.conclude found given).1.length :=
      (List.getElem?_eq_some_iff.1 ahead).1
    exact
      { consistent := consistent
        asks := steady.asks
        queued := steady.queued
        follows := by simpa [tell, Work.Follows, KeyOperation.length] using ⟨there, further⟩ }
  | finish waiting ticket present found given made complete =>
    obtain ⟨connection, continuation, _, waits, told⟩ := steady.told
    rw [told] at consistent ⊢
    exact steady.finish (Connection.isWaiting_resume waits _) consistent

theorem next (steady : shared.Steady load tpm) {event : Event} {step : Step}
    (keeps : event.Keeps load tpm) (transition : Transition session shared event step) :
    step.2.Steady load tpm := by
  cases transition with
  | opened number connection fresh new => exact steady.opened fresh new
  | client number act connection found => exact steady.client found act
  | answers number connection polled effects found turn answered =>
    exact steady.answers found (Connection.phase_of_poll? turn) answered
  | asks number connection polled effects operation finish found turn waits =>
    exact steady.asks_next found (Connection.phase_of_poll? turn) waits
  | works event step own moved => exact steady.works keeps own moved

end Steady

end SharedConnections

end SoleKey
