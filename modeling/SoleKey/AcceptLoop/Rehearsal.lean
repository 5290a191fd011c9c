import SoleKey.AcceptLoop
import SoleKey.Connection.Basic
import SoleKey.KeySource

set_option autoImplicit false

namespace SoleKey

inductive ClientStep where
  | arrives (arrival : Connection.Arrival)
  | waits (duration : Nat)
  | changesKey (change : KeyFile -> KeyFile)

structure ScriptedClient where
  sink : Sink
  steps : List ClientStep

structure ScriptedAccept where
  after : Nat
  alsoShutdown : Bool
  outcome : Except SystemError ScriptedClient

namespace Rehearsal

structure Guest where
  index : Nat
  steps : List ClientStep
  connection : Connection
  -- What was written between one step of the client and the next, newest first.
  written : List Bytes

inductive Task where
  | shutdown
  | loop
  | guest (index : Nat)
  deriving DecidableEq

def Task.isLoop : Task -> Bool
  | .loop => true
  | _ => false

structure Alarm where
  due : Nat
  task : Task

end Rehearsal

structure Rehearsal where
  session : Session
  tpm : Tpm
  source : KeySource
  keyFile : KeyFile
  now : Nat
  loop : AcceptLoop
  script : List ScriptedAccept
  nextIndex : Nat
  guests : List Rehearsal.Guest
  -- In the order in which they were set.
  alarms : List Rehearsal.Alarm
  -- Tasks that can go on without the clock.
  ready : List Rehearsal.Task
  -- Clients that wait for a key operation.
  working : List Nat
  -- A request to shut down has not yet reached the loop.
  notified : Bool
  accepts : List Nat
  endedAt : Option Nat
  tasksLeft : Nat
  drainedAt : Nat
  effects : List (List Effect)

namespace Rehearsal

def emit (state : Rehearsal) (effects : List Effect) : Rehearsal :=
  { state with effects := effects :: state.effects }

def setAlarm (state : Rehearsal) (duration : Nat) (task : Task) : Rehearsal :=
  { state with alarms := state.alarms ++ [⟨state.now + duration, task⟩] }

def unfinished (state : Rehearsal) : Nat :=
  state.guests.countP (·.connection.result?.isNone)

def settleLoop (state : Rehearsal) : Rehearsal :=
  match state.loop.phase with
  | .accepting =>
    let asked := { state with accepts := state.accepts ++ [state.now] }
    match state.script with
    | next :: _ => asked.setAlarm (next.after + 1) .loop
    | [] => asked
  | .asking => state
  | .pausing => state.setAlarm AcceptLoop.pause .loop
  | .ended _ =>
    { state with
      endedAt := some (state.endedAt.getD state.now)
      tasksLeft := if state.endedAt.isSome then state.tasksLeft else state.unfinished
      drainedAt := max state.drainedAt state.now
      alarms := state.alarms.filter (·.task ≠ .loop) }

def applyStep (state : Rehearsal) (step : AcceptLoop.Step) : Rehearsal :=
  { state with loop := step.next }.emit step.effects

def welcome (state : Rehearsal) (outcome : Except SystemError ScriptedClient) (spawns : Bool) :
    Rehearsal :=
  match outcome with
  | .error _ => state
  | .ok client =>
    if spawns then
      { state with
        guests := state.guests ++ [⟨state.nextIndex, client.steps, .start client.sink, []⟩]
        ready := state.ready ++ [.guest state.nextIndex]
        nextIndex := state.nextIndex + 1 }
    else { state with nextIndex := state.nextIndex + 1 }

def runLoop (state : Rehearsal) : Rehearsal :=
  match state.loop.phase, state.script with
  | .pausing, _ => (state.applyStep (state.loop.step .pauseOver)).settleLoop
  | .accepting, next :: rest =>
    if state.loop.shutdown then (state.applyStep (state.loop.step .notice)).settleLoop
    else
      let step := state.loop.step (.outcome next.alsoShutdown (next.outcome.map fun _ => ()))
      (({ state with script := rest }.applyStep step).welcome next.outcome step.spawns).settleLoop
  | _, _ => state

def notice (state : Rehearsal) : Rehearsal :=
  let asked := { state with notified := false }.applyStep (state.loop.step .shutdown)
  if asked.loop.isAccepting then (asked.applyStep (asked.loop.step .notice)).settleLoop else asked

def setGuest (state : Rehearsal) (guest : Guest) : Rehearsal :=
  { state with
    guests := state.guests.map fun other => if other.index = guest.index then guest else other }

def pollGo : Nat -> Rehearsal -> Guest -> Rehearsal × Guest
  | 0, state, guest => (state, guest)
  | fuel + 1, state, guest =>
    match guest.connection.poll? state.session with
    | none => (state, guest)
    | some (effects, connection) =>
      pollGo fuel (state.emit effects) { guest with connection := connection }

def poll (state : Rehearsal) (guest : Guest) : Rehearsal × Guest :=
  pollGo (guest.connection.buffer.length + 2) state guest

def Guest.turnPage (guest : Guest) : Guest :=
  { guest with
    written := guest.connection.written :: guest.written
    connection := guest.connection.emptied }

def Guest.receive (guest : Guest) (arrival : Connection.Arrival) : Guest :=
  { guest with connection := guest.connection.receive arrival }

def stopped? (state : Rehearsal) (guest : Guest) (steps : List ClientStep) : Option Rehearsal :=
  match guest.connection.phase with
  | .reading => none
  | .waiting .. =>
    some ({ state with working := state.working ++ [guest.index] }.setGuest
      { guest with steps := steps })
  | .ended result =>
    some (({ state with drainedAt := max state.drainedAt state.now }.setGuest guest.turnPage).emit
      [Connection.endLine result])

def takeSteps : List ClientStep -> Rehearsal -> Guest -> Rehearsal
  | [], state, guest =>
    let (state, guest) := state.poll (guest.receive .finished)
    (state.stopped? guest []).getD (state.setGuest guest)
  | .waits duration :: rest, state, guest =>
    (state.setAlarm duration (.guest guest.index)).setGuest { guest.turnPage with steps := rest }
  | .changesKey change :: rest, state, guest =>
    takeSteps rest { state with keyFile := change state.keyFile } guest.turnPage
  | .arrives arrival :: rest, state, guest =>
    let (state, guest) := state.poll (guest.turnPage.receive arrival)
    match state.stopped? guest rest with
    | some stopped => stopped
    | none => takeSteps rest state guest

def runGuest (state : Rehearsal) (index : Nat) : Rehearsal :=
  match state.guests.find? (·.index = index) with
  | none => state
  | some guest =>
    let (state, guest) := state.poll guest
    match state.stopped? guest guest.steps with
    | some stopped => stopped
    | none => takeSteps guest.steps state guest

def runWork (state : Rehearsal) (index : Nat) : Rehearsal :=
  match state.guests.find? (·.index = index) with
  | none => state
  | some guest =>
    match guest.connection.phase with
    | .waiting operation _ =>
      let (during, outcome) := operation.run (state.source.load state.keyFile) state.tpm
      let (after, connection) := guest.connection.resume outcome
      { (state.emit (during ++ after)).setGuest { guest with connection := connection } with
        ready := state.ready ++ [.guest index] }
    | _ => state

def runTask (state : Rehearsal) : Task -> Rehearsal
  | .shutdown => { state with notified := true }
  | .loop => state.runLoop
  | .guest index => state.runGuest index

-- Of what is due at the same time the loop comes first, and the rest follows in the order in which
-- it was set.
def wake (state : Rehearsal) : Option Rehearsal :=
  match (state.alarms.map (·.due)).min? with
  | none => none
  | some due =>
    some { state with
      now := due
      ready :=
        let tasks := (state.alarms.filter (·.due = due)).map (·.task)
        tasks.filter Task.isLoop ++ tasks.filter (!·.isLoop)
      alarms := state.alarms.filter (·.due ≠ due) }

def step? (state : Rehearsal) : Option Rehearsal :=
  match state.ready with
  | task :: rest => some ({ state with ready := rest }.runTask task)
  | [] =>
    if state.notified then some state.notice
    else
      match state.working with
      | index :: rest => some ({ state with working := rest }.runWork index)
      | [] => if state.endedAt.isSome && state.unfinished = 0 then none else state.wake

def run : Nat -> Rehearsal -> Rehearsal
  | 0, state => state
  | fuel + 1, state =>
    match state.step? with
    | none => state
    | some next => run fuel next

def inputSize (steps : List ClientStep) : Nat :=
  steps.foldl (fun total step =>
    match step with
    | .arrives (.bytes content) => total + 2 * content.length
    | _ => total + 1) 0

def work (script : List ScriptedAccept) : Nat :=
  script.foldl (fun total accept =>
    match accept.outcome with
    | .ok client => total + client.steps.length + inputSize client.steps + 8
    | .error _ => total + 8) 8

def start (session : Session) (tpm : Tpm) (keyFile : KeyFile) (script : List ScriptedAccept)
    (shutdownAt : Nat) : Rehearsal :=
  let first := AcceptLoop.start (shutdownAt = 0)
  let blank : Rehearsal :=
    { session := session, tpm := tpm, source := .file "ssh.key", keyFile := keyFile, now := 0,
      loop := first.next, script := script, nextIndex := 0, guests := [], alarms := [],
      ready := [], working := [], notified := false, accepts := [], endedAt := none,
      tasksLeft := 0, drainedAt := 0, effects := [first.effects] }
  let armed := if shutdownAt = 0 then blank else blank.setAlarm shutdownAt .shutdown
  armed.settleLoop

def perform (session : Session) (tpm : Tpm) (keyFile : KeyFile) (script : List ScriptedAccept)
    (shutdownAt : Nat) : Rehearsal :=
  run (work script) (start session tpm keyFile script shutdownAt)

def allEffects (state : Rehearsal) : List Effect :=
  state.effects.reverse.flatten

def writtenTo (state : Rehearsal) (index : Nat) : List Bytes :=
  match state.guests.find? (·.index = index) with
  | some guest => guest.written.reverse.drop 1
  | none => []

end Rehearsal

end SoleKey
