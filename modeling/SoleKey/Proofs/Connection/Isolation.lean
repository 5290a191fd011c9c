import SoleKey.KeySource
import SoleKey.Proofs.Connection.Progress

set_option autoImplicit false

namespace SoleKey

open Connection (AtRest caughtUp)

namespace Connection

variable {σ : Type}

theorem serve_append (handler : Handler σ) (state : σ) (connection : Connection)
    (early late : List Arrival) :
    (connection.serve handler state (early ++ late)).2 =
      ((connection.serve handler state early).2.2.serve handler
        (connection.serve handler state early).2.1 late).2 := by
  induction early generalizing state connection with
  | nil => rfl
  | cons arrival rest ih =>
    rcases settles : (connection.receive arrival).settle handler state with ⟨effects, later, next⟩
    rw [List.cons_append, serve_cons settles, serve_cons settles]
    exact ih later next

end Connection

namespace SharedConnections

variable {session : Session} {load : Load} {tpm : Tpm} {shared later : SharedConnections}
  {number : Nat} {connection : Connection} {effects : List Effect} {events : List Event}

def Event.sent (number : Nat) : Event → List Connection.Arrival
  | .client other (.sends arrival) => if other = number then [arrival] else []
  | _ => []

def sentBy (number : Nat) (events : List Event) : List Connection.Arrival :=
  events.flatMap (Event.sent number)

-- The client of a connection only sends, and takes every reply where it took the first.
def OnlySends (number : Nat) (events : List Event) : Prop :=
  ∀ act, .client number act ∈ events → ∃ arrival, act = .sends arrival

-- What an event does to a connection is seen best in the connection that has caught up: turns, the
-- lock and the other connections leave it as it is, and what its own client sends takes it on as it
-- would take a connection that is served alone.
def Heads (session : Session) (load : Load) (tpm : Tpm) (shared : SharedConnections)
    (number : Nat) (goal : Connection) : Prop :=
  ∃ connection, shared.find? number = some connection ∧
    connection.caughtUp session load tpm = goal

variable {goal : Connection} {other : Nat}

theorem Heads.update_other (heads : Heads session load tpm shared number goal)
    (apart : number ≠ other) :
    Heads session load tpm (shared.update other connection) number goal := by
  obtain ⟨placed, found, same⟩ := heads
  exact ⟨placed, by simpa [apart] using found, same⟩

theorem Heads.update (heads : Heads session load tpm shared number goal) {next : Connection}
    (found : shared.find? other = some connection)
    (same : next.caughtUp session load tpm = connection.caughtUp session load tpm) :
    Heads session load tpm (shared.update other next) number goal := by
  by_cases own : number = other
  · subst own
    obtain ⟨placed, there, rfl⟩ := heads
    obtain rfl := Option.some.inj (found.symm.trans there)
    exact ⟨next, by simp [found], same⟩
  · exact heads.update_other own

theorem Heads.insert (heads : Heads session load tpm shared number goal)
    (fresh : shared.find? other = none) :
    Heads session load tpm (shared.insert other connection) number goal := by
  obtain ⟨placed, found, same⟩ := heads
  have apart : number ≠ other := by
    rintro rfl
    simp [fresh] at found
  exact ⟨placed, by simpa [find?_insert fresh, apart] using found, same⟩

theorem Heads.client (heads : Heads session load tpm shared number goal)
    (found : shared.find? other = some connection) (act : Connection.ClientAct)
    (sends : other = number → ∃ arrival, act = .sends arrival) :
    Heads session load tpm (shared.update other (connection.after act)) number
      (goal.serve (session.handler load tpm) () (Event.sent number (.client other act))).2.2 := by
  by_cases own : other = number
  · obtain ⟨arrival, rfl⟩ := sends own
    subst own
    obtain ⟨placed, there, rfl⟩ := heads
    obtain rfl := Option.some.inj (found.symm.trans there)
    refine ⟨connection.receive arrival, by simp [found, Connection.after], ?_⟩
    rw [Connection.caughtUp_receive]
    simp [Event.sent, Connection.serve]
  · have silent : Event.sent number (.client other act) = [] := by
      cases act <;> simp [Event.sent, own]
    rw [silent]
    exact heads.update_other fun same => own same.symm

theorem Heads.works (heads : Heads session load tpm shared number goal)
    (steady : shared.Steady load tpm) {event : SigningLock.Event Nat}
    (keeps : Event.Keeps load tpm (.works event)) {step : SigningLock.Step Nat}
    (own : event.isOwn = true) (moved : shared.lock.step? event = some step) :
    Heads session load tpm ({ shared with lock := step.next }.tell step.delivered).2 number goal := by
  have transition := SigningLock.transition_of_step? steady.consistent.exclusive moved
  obtain ⟨lock, connections⟩ := shared
  cases transition with
  | arrive | leave => simp [SigningLock.Event.isOwn] at own
  | panic => exact keeps.elim
  -- Before its end an operation shows in no connection.
  | grant | load | act => exact heads
  | finish waiting ticket present found given made complete =>
    obtain ⟨connection, continuation, there, waits, told⟩ := steady.told
    rw [told]
    have free : find? ⟨⟨false, waiting, []⟩, connections⟩ ticket.caller = some connection := there
    have freed : Heads session load tpm ⟨⟨false, waiting, []⟩, connections⟩ number goal := heads
    exact freed.update free (Connection.caughtUp_of_resume waits)

theorem Heads.next (heads : Heads session load tpm shared number goal)
    (steady : shared.Steady load tpm) {event : Event} {step : Step}
    (keeps : event.Keeps load tpm) (sends : OnlySends number [event])
    (transition : Transition session shared event step) :
    Heads session load tpm step.2 number
      (goal.serve (session.handler load tpm) () (event.sent number)).2.2 := by
  cases transition with
  | opened other connection fresh => exact heads.insert fresh
  | client other act connection found =>
    exact heads.client found act fun own => sends act (by simp [own])
  | answers other connection polled effects found turn =>
    exact heads.update found (Connection.caughtUp_of_poll? turn)
  | asks other connection polled effects operation finish found turn =>
    have updated : Heads session load tpm (shared.update other polled) number goal :=
      heads.update found (Connection.caughtUp_of_poll? turn)
    exact updated
  | works event step own moved => exact heads.works steady keeps own moved

theorem steps_of_cons {event : Event} {rest : List Event}
    (moved : shared.steps? session (event :: rest) = some (effects, later)) :
    ∃ early next late, shared.step? session event = some (early, next) ∧
      next.steps? session rest = some (late, later) := by
  simp only [steps?, Option.bind_eq_bind, Option.bind_eq_some_iff] at moved
  obtain ⟨⟨early, next⟩, moves, ⟨late, last⟩, onwards, same⟩ := moved
  obtain ⟨_, rfl⟩ := Prod.mk.inj (Option.some.inj same)
  exact ⟨early, next, late, moves, onwards⟩

theorem Steady.steps (steady : shared.Steady load tpm)
    (keeps : ∀ event ∈ events, event.Keeps load tpm)
    (moved : shared.steps? session events = some (effects, later)) : later.Steady load tpm := by
  induction events generalizing shared effects with
  | nil =>
    obtain ⟨_, rfl⟩ := Prod.mk.inj (Option.some.inj moved)
    exact steady
  | cons event rest ih =>
    obtain ⟨early, next, late, moves, onwards⟩ := steps_of_cons moved
    have nextSteady := steady.next (keeps event (by simp)) (transition_of_step? moves)
    exact ih nextSteady (fun other member => keeps other (by simp [member])) onwards

theorem Heads.steps (heads : Heads session load tpm shared number goal)
    (steady : shared.Steady load tpm) (keeps : ∀ event ∈ events, event.Keeps load tpm)
    (sends : OnlySends number events)
    (moved : shared.steps? session events = some (effects, later)) :
    Heads session load tpm later number
      (goal.serve (session.handler load tpm) () (sentBy number events)).2.2 := by
  induction events generalizing shared effects goal with
  | nil =>
    obtain ⟨_, rfl⟩ := Prod.mk.inj (Option.some.inj moved)
    exact heads
  | cons event rest ih =>
    obtain ⟨early, next, late, moves, onwards⟩ := steps_of_cons moved
    have transition := transition_of_step? moves
    have first := keeps event (by simp)
    have nextHeads := heads.next steady first
      (fun act member => sends act (by simp [List.mem_singleton.1 member])) transition
    have further := ih nextHeads (steady.next first transition)
      (fun other member => keeps other (by simp [member]))
      (fun act member => sends act (by simp [member])) onwards
    have whole : sentBy number (event :: rest) = event.sent number ++ sentBy number rest :=
      List.flatMap_cons ..
    rw [whole, Connection.serve_append]
    exact further

theorem Heads.opened {sink : Sink} (fresh : shared.find? number = none) :
    Heads session load tpm (shared.insert number (.start sink)) number (.start sink) :=
  ⟨.start sink, by simp [find?_insert fresh], Connection.caughtUp_of_atRest ⟨rfl, rfl⟩⟩

theorem Steady.heads {before after : List Event} {sink : Sink} (steady : shared.Steady load tpm)
    (keeps : ∀ event ∈ before ++ .opened number (.start sink) :: after, event.Keeps load tpm)
    (sends : OnlySends number after)
    (moved : shared.steps? session (before ++ .opened number (.start sink) :: after) =
      some (effects, later)) :
    Heads session load tpm later number
      ((Connection.start sink).serve (session.handler load tpm) () (sentBy number after)).2.2 := by
  induction before generalizing shared effects with
  | nil =>
    -- Its number was free, so nothing that came before belongs to it.
    obtain ⟨early, next, late, moves, onwards⟩ := steps_of_cons moved
    have transition := transition_of_step? moves
    have nextSteady := steady.next (keeps _ (by simp)) transition
    cases transition with
    | opened _ _ fresh new =>
      exact (Heads.opened fresh).steps nextSteady (fun event member => keeps event (by simp [member]))
        sends onwards
  | cons event rest ih =>
    obtain ⟨early, next, late, moves, onwards⟩ := steps_of_cons moved
    have nextSteady := steady.next (keeps event (by simp)) (transition_of_step? moves)
    exact ih nextSteady (fun other member => keeps other (by simp_all)) onwards

end SharedConnections

structure Connection.AsAlone (connection alone : Connection) : Prop where
  written : connection.written <+: alone.written
  ended : ∀ result, connection.result? = some result →
    alone.result? = some result ∧ connection.written = alone.written
  atRest : connection.AtRest →
    connection.written = alone.written ∧ connection.result? = alone.result?

theorem Connection.asAlone_caughtUp (session : Session) (load : Load) (tpm : Tpm)
    (connection : Connection) : connection.AsAlone (connection.caughtUp session load tpm) where
  written := connection.written_caughtUp
  ended := by
    intro result ended
    rw [caughtUp_of_atRest (atRest_of_result? ended)]
    exact ⟨ended, rfl⟩
  atRest := by
    intro rests
    rw [caughtUp_of_atRest rests]
    exact ⟨rfl, rfl⟩

namespace SharedConnections

variable {session : Session} {load : Load} {tpm : Tpm} {shared : SharedConnections} {number : Nat}
  {effects : List Effect} {events : List Event}

theorem not_client_of_isOwn {event : Event} (own : event.isOwn = true)
    (act : Connection.ClientAct) : event ≠ .client number act := by
  rintro rfl
  simp [Event.isOwn] at own

theorem sentBy_of_isOwn (own : ∀ event ∈ events, Event.isOwn event = true) :
    sentBy number events = [] := by
  refine List.flatMap_eq_nil_iff.2 fun event member => ?_
  cases event with
  | client other act => exact absurd rfl (not_client_of_isOwn (own _ member) act)
  | opened | polls | works => rfl

/-- The connection that gets from its start what its client sends, and has the agent to itself. -/
def alone (session : Session) (load : Load) (tpm : Tpm) (number : Nat) (sink : Sink)
    (after : List Event) : Connection :=
  ((Connection.start sink).serve (session.handler load tpm) () (sentBy number after)).2.2

/-- What has become of connections that were opened and used like this. -/
structure Isolated (session : Session) (load : Load) (tpm : Tpm) (events : List Event)
    (shared : SharedConnections) : Prop where
  asAlone : ∀ before number sink after,
    events = before ++ .opened number (.start sink) :: after → OnlySends number after →
    ∃ connection, shared.find? number = some connection ∧
      connection.AsAlone (alone session load tpm number sink after)
  -- Nothing is left undone that does not wait for a client.
  atRest : (∀ event, Event.isOwn event = true → event.Keeps load tpm →
    shared.step? session event = none) → shared.AllAtRest
  settles : ∃ more effects later,
    (∀ event ∈ more, Event.isOwn event = true ∧ event.Keeps load tpm) ∧
    shared.steps? session more = some (effects, later) ∧ later.AllAtRest ∧
    ∀ before number sink after,
      events = before ++ .opened number (.start sink) :: after → OnlySends number after →
      ∃ connection, later.find? number = some connection ∧
        connection.written = (alone session load tpm number sink after).written ∧
        connection.result? = (alone session load tpm number sink after).result?

theorem Steady.atRest (steady : shared.Steady load tpm)
    (still : ∀ event, Event.isOwn event = true → event.Keeps load tpm →
      shared.step? session event = none) : shared.AllAtRest := by
  intro number connection found
  by_contra busy
  obtain ⟨event, taken, own, keeps, moved⟩ := steady.goesOn session found busy
  simp [still event own keeps] at moved

theorem served_as_alone (keeps : ∀ event ∈ events, event.Keeps load tpm)
    (moved : empty.steps? session events = some (effects, shared)) :
    Isolated session load tpm events shared := by
  have steady : shared.Steady load tpm := steady_empty.steps keeps moved
  have heads (before : List Event) (number : Nat) (sink : Sink) (after : List Event)
      (split : events = before ++ .opened number (.start sink) :: after)
      (sends : OnlySends number after) :
      Heads session load tpm shared number (alone session load tpm number sink after) := by
    subst split
    exact steady_empty.heads keeps sends moved
  refine { asAlone := ?_, atRest := steady.atRest, settles := ?_ }
  · intro before number sink after split sends
    obtain ⟨connection, found, goal⟩ := heads before number sink after split sends
    exact ⟨connection, found, goal ▸ connection.asAlone_caughtUp session load tpm⟩
  · obtain ⟨more, effects, later, allowed, onwards, rests⟩ := steady.comesToRest session
    refine ⟨more, effects, later, allowed, onwards, rests, ?_⟩
    intro before number sink after split sends
    have own (event : Event) (member : event ∈ more) : event.isOwn = true := (allowed event member).1
    have quiet : OnlySends number more := fun act member =>
      absurd rfl (not_client_of_isOwn (own _ member) act)
    obtain ⟨connection, found, goal⟩ := (heads before number sink after split sends).steps steady
      (fun event member => (allowed event member).2) quiet onwards
    rw [sentBy_of_isOwn own] at goal
    exact ⟨connection, found,
      (goal ▸ connection.asAlone_caughtUp session load tpm).atRest (rests number connection found)⟩

-- One client lists the key. The other announces a frame that is too long while the list is waited
-- for.
theorem listed_beside_oversized :
    let key : StoredKey := ⟨.ed25519 (List.replicate 32 7), "spare", []⟩
    let tpm : Tpm := ⟨.ok (), fun _ _ _ => .error .keyMismatch, .ok ()⟩
    let events : List Event := [.opened 1 (.start .unlimited), .opened 2 (.start .unlimited),
      .client 1 (.sends (.bytes (Wire.putBytes [11]))), .polls 1,
      .client 2 (.sends (.bytes [255, 255, 255, 255])), .polls 2, .works .grant,
      .works (.load 1 (.loaded key) tpm), .works (.finish 1), .client 1 (.sends .finished), .polls 1]
    ∃ effects shared,
      empty.steps? (.ofAgent Agent.overStoredKey) events = some (effects, shared) ∧
      Isolated (.ofAgent Agent.overStoredKey) (.loaded key) tpm events shared ∧
      (shared.find? 1).map Connection.written =
        some (Wire.putBytes (Reply.identities [key.identity]).encode) ∧
      (shared.find? 1).map Connection.result? = some (some (.ok ())) ∧
      (shared.find? 2).map Connection.result? = some (some (.error .oversized)) := by
  intro key tpm events
  have keeps : ∀ event ∈ events, event.Keeps (.loaded key) tpm := by
    simp [events, Event.Keeps]
  have moved : empty.steps? (.ofAgent Agent.overStoredKey) events = some (_, _) := rfl
  exact ⟨_, _, moved, served_as_alone keeps moved, by decide +kernel, by decide +kernel,
    by decide +kernel⟩

end SharedConnections

end SoleKey
