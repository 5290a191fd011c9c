import SoleKey.AcceptLoop

set_option autoImplicit false

namespace SoleKey

namespace Lifecycle

-- The listener is closed as the loop ends.
inductive Stage where
  | looping
  | listenerClosed
  | socketRemoved
  | published
  | finished
  deriving DecidableEq, Repr

inductive Request where
  | stop
  | wait
  deriving DecidableEq, Repr

structure Caller where
  id : String
  request : Request
  deriving DecidableEq, Repr

inductive Event where
  | loop (event : AcceptLoop.Event)
  | removeSocket
  | publish
  | finishLoop
  | connectionEnds
  | call (caller : Caller)
  | callReturns (id : String)
  | dropped

end Lifecycle

structure Lifecycle where
  loop : AcceptLoop
  stage : Lifecycle.Stage
  -- Unfinished tasks: the loop and the connections.
  tasks : Nat
  connections : Nat
  failure : Option SystemError
  callers : List Lifecycle.Caller
  returned : List (String × Except AgentError Unit)
  -- An agent on a listener that was given to it has no socket to remove.
  socketPath : Option String

namespace Lifecycle

structure Step where
  effects : List Effect
  next : Lifecycle

def start (socketPath : Option String) : Lifecycle where
  loop := ⟨.accepting, false⟩
  stage := .looping
  tasks := 1
  connections := 0
  failure := none
  callers := []
  returned := []
  socketPath := socketPath

def stopping (life : Lifecycle) : Bool :=
  life.loop.shutdown

def listening (life : Lifecycle) : Bool :=
  life.stage = .looping

-- The accept loop does not end before it notices.
def requestShutdown (life : Lifecycle) : Lifecycle :=
  { life with loop := (life.loop.step .shutdown).next }

def acceptResult (life : Lifecycle) : Except AgentError Unit :=
  match life.failure with
  | some problem => .error (.accept problem)
  | none => .ok ()

def loopStep (life : Lifecycle) (event : AcceptLoop.Event) : Step :=
  let step := life.loop.step event
  let opened := if step.spawns then 1 else 0
  let stage :=
    if life.listening ∧ step.next.result?.isSome then Stage.listenerClosed else life.stage
  ⟨step.effects,
    { life with
      loop := step.next
      stage := stage
      tasks := life.tasks + opened
      connections := life.connections + opened }⟩

def mayReturn (life : Lifecycle) : Request -> Bool
  | .stop => life.tasks = 0
  | .wait => life.failure.isSome || life.tasks = 0

def returnLine : Request -> List Effect
  | .stop => [.info "Agent stopped"]
  | .wait => []

-- A call to stop is logged only the first time.
def beginCall (life : Lifecycle) (caller : Caller) : Step :=
  let entered := { life with callers := life.callers ++ [caller] }
  if caller.request = .stop ∧ !life.stopping then
    ⟨[.info "Stopping agent"], entered.requestShutdown⟩
  else ⟨[], entered⟩

def endCall (life : Lifecycle) (caller : Caller) : Step :=
  ⟨returnLine caller.request,
    { life with
      callers := life.callers.filter (· ≠ caller)
      returned := life.returned ++ [(caller.id, life.acceptResult)] }⟩

-- The socket is removed by its path, whatever stands there by then.
def cleanUp : Option String -> List Effect
  | none => []
  | some path => [.debug ("Cleaning up agent socket " ++ path), .removesFile path]

def silent (next : Lifecycle) : Option Step := some ⟨[], next⟩

def step? (life : Lifecycle) : Event -> Option Step
  | .loop event =>
      if life.listening ∧ life.loop.mayHappen event then some (life.loopStep event) else none
  | .removeSocket =>
      if life.stage = .listenerClosed then
        some ⟨cleanUp life.socketPath, { life with stage := .socketRemoved }⟩
      else none
  | .publish =>
      match life.stage, life.loop.result? with
      | .socketRemoved, some (.error problem) =>
          silent { life with stage := .published, failure := some problem }
      | .socketRemoved, _ => silent { life with stage := .published }
      | _, _ => none
  | .finishLoop =>
      if life.stage = .published then
        silent { life with stage := .finished, tasks := life.tasks - 1 }
      else none
  | .connectionEnds =>
      if life.connections = 0 then none
      else silent { life with connections := life.connections - 1, tasks := life.tasks - 1 }
  | .call caller => some (life.beginCall caller)
  | .callReturns id =>
      match life.callers.find? (·.id = id) with
      | some caller => if life.mayReturn caller.request then some (life.endCall caller) else none
      | none => none
  | .dropped => silent { life.requestShutdown with callers := [] }

def ownEvents (life : Lifecycle) : List Event :=
  [.removeSocket, .publish, .finishLoop] ++ life.callers.map fun caller => .callReturns caller.id

def settleGo : Nat -> List Effect -> Lifecycle -> List Effect × Lifecycle
  | 0, effects, life => (effects, life)
  | fuel + 1, effects, life =>
    match life.ownEvents.findSome? life.step? with
    | some step => settleGo fuel (effects ++ step.effects) step.next
    | none => (effects, life)

def settle (life : Lifecycle) : List Effect × Lifecycle :=
  settleGo (life.callers.length + 3) [] life

end Lifecycle

end SoleKey
