import SoleKey.BoundAgent

set_option autoImplicit false

namespace SoleKey

inductive StopSignal where
  | interrupt
  | terminate
  | hangUp
  deriving DecidableEq, Repr

def StopSignal.name : StopSignal -> String
  | .interrupt => "SIGINT"
  | .terminate => "SIGTERM"
  | .hangUp => "SIGHUP"

namespace Daemon

inductive Phase where
  | waiting
  | stopping
  | exited (result : Except AgentError Unit)
  -- By SIGINT, which ends a process that does not watch for it. There is no exit and no result.
  | killed

inductive Event where
  | agent (event : Lifecycle.Event)
  | signalled (signal : StopSignal)
  | watches
  | noticesSignal (signal : StopSignal)
  | noticesEnd
  | noticesStop

end Daemon

structure Daemon extends BoundAgent where
  phase : Daemon.Phase
  -- Signals that have arrived and not been noticed.
  pending : List StopSignal
  -- SIGTERM and SIGHUP are watched for since before the socket was bound, but SIGINT only once the
  -- daemon has begun to wait and has come to look for it.
  watchesInterrupt : Bool

namespace Daemon

structure Step where
  effects : List Effect
  next : Daemon

def start (socketPath : String) (files : FileSystem) : Daemon :=
  ⟨.start files socketPath, .waiting, [], false⟩

def isRunning (daemon : Daemon) : Bool :=
  match daemon.phase with
  | .exited _ | .killed => false
  | .waiting | .stopping => true

def stopCall : Lifecycle.Caller := ⟨"daemon", .stop⟩

/-- Nobody but the daemon asks its agent to stop. -/
def happensByItself : Lifecycle.Event -> Bool
  | .call _ | .dropped => false
  | _ => true

def exit (daemon : Daemon) (result : Except AgentError Unit) : Step :=
  ⟨[], { daemon with phase := .exited result }⟩

def beginStop (daemon : Daemon) (signal : StopSignal) : Step :=
  let step := daemon.life.beginCall stopCall
  ⟨.info ("Exiting on " ++ signal.name) :: step.effects,
    { daemon with
      life := step.next
      phase := .stopping
      pending := daemon.pending.filter (· ≠ signal) }⟩

def receive (daemon : Daemon) (signal : StopSignal) : Daemon :=
  if signal = .interrupt ∧ !daemon.watchesInterrupt then { daemon with phase := .killed }
  else { daemon with pending := daemon.pending ++ [signal] }

def step? (daemon : Daemon) (event : Event) : Option Step :=
  match daemon.phase, event with
  | .exited _, _ | .killed, _ => none
  | _, .agent event =>
    if happensByItself event then
      (daemon.toBoundAgent.step? event).map fun (effects, next) =>
        ⟨effects, { daemon with toBoundAgent := next }⟩
    else none
  | _, .signalled signal => some ⟨[], daemon.receive signal⟩
  | .waiting, .watches => some ⟨[], { daemon with watchesInterrupt := true }⟩
  | .waiting, .noticesSignal signal =>
    if signal ∈ daemon.pending then some (daemon.beginStop signal) else none
  | .waiting, .noticesEnd =>
    if daemon.life.mayReturn .wait then some (daemon.exit daemon.life.acceptResult) else none
  | .stopping, .noticesStop =>
    (daemon.life.returned.lookup stopCall.id).map daemon.exit
  | _, _ => none

def ownEvents (daemon : Daemon) : List Event :=
  (if daemon.watchesInterrupt then [] else [.watches]) ++ daemon.pending.map .noticesSignal ++
    [.noticesEnd, .noticesStop]

end Daemon

end SoleKey
