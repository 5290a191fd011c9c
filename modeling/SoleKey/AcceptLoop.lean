import SoleKey.Effect

set_option autoImplicit false

namespace SoleKey

namespace AcceptLoop

inductive Phase where
  | accepting
  -- The loop has looked for a request, found none, and asks its listener.
  | asking
  | pausing
  | ended (result : Except SystemError Unit)

-- The listener may itself ask for a shutdown as it returns an outcome.
inductive Event where
  | shutdown
  | notice
  | asks
  -- The listener has nothing yet.
  | waits
  | outcome (alsoShutdown : Bool) (found : Except SystemError Unit)
  | pauseOver

end AcceptLoop

structure AcceptLoop where
  phase : AcceptLoop.Phase
  shutdown : Bool

namespace AcceptLoop

structure Step where
  effects : List Effect
  -- A connection is handed to a task of its own.
  spawns : Bool
  next : AcceptLoop

-- In milliseconds.
def pause : Nat := 1000

def silent (next : AcceptLoop) : Step := ⟨[], false, next⟩

def atTop (effects : List Effect) (spawns shutdown : Bool) : Step :=
  if shutdown then
    ⟨effects ++ [.debug "Accept loop shutting down"], spawns, ⟨.ended (.ok ()), true⟩⟩
  else ⟨effects, spawns, ⟨.accepting, false⟩⟩

def start (shutdown : Bool) : Step :=
  atTop [] false shutdown

def failed (shutdown : Bool) (problem : SystemError) : Step :=
  if problem.isTransient then
    ⟨[.warn ("Temporary accept error, sleeping 1s: " ++ problem.message)], false,
      ⟨.pausing, shutdown⟩⟩
  else if shutdown then
    ⟨[.debug ("Accept failed during shutdown: " ++ problem.message)], false,
      ⟨.ended (.ok ()), true⟩⟩
  else
    ⟨[.error ("Failed to accept connections: " ++ problem.message)], false,
      ⟨.ended (.error problem), false⟩⟩

def take (shutdown : Bool) : Except SystemError Unit -> Step
  | .ok () => atTop [.debug "Accepted agent client connection"] true shutdown
  | .error problem => failed shutdown problem

def isAccepting (loop : AcceptLoop) : Bool :=
  match loop.phase with
  | .accepting => true
  | _ => false

def isAsking (loop : AcceptLoop) : Bool :=
  match loop.phase with
  | .asking => true
  | _ => false

def isPausing (loop : AcceptLoop) : Bool :=
  match loop.phase with
  | .pausing => true
  | _ => false

-- A request goes before an outcome, unless it comes after the loop has looked for one.
def takes (loop : AcceptLoop) : Bool :=
  loop.isAccepting && !loop.shutdown || loop.isAsking

def step (loop : AcceptLoop) (event : Event) : Step :=
  match loop.phase, event with
  | _, .shutdown => silent { loop with shutdown := true }
  | _, .outcome alsoShutdown found =>
      if loop.takes then take (loop.shutdown || alsoShutdown) found else silent loop
  | .accepting, .notice => atTop [] false loop.shutdown
  | .accepting, .asks =>
      silent (if loop.shutdown then loop else { loop with phase := .asking })
  | .asking, .waits => silent { loop with phase := .accepting }
  | .pausing, .pauseOver => atTop [] false loop.shutdown
  | _, _ => silent loop

def result? (loop : AcceptLoop) : Option (Except SystemError Unit) :=
  match loop.phase with
  | .ended result => some result
  | _ => none

/-- What can happen next if nobody asks for a shutdown. -/
def mayHappen (loop : AcceptLoop) : Event -> Bool
  | .shutdown => false
  | .notice => loop.isAccepting && loop.shutdown
  | .asks => loop.isAccepting && !loop.shutdown
  | .waits => loop.isAsking
  | .outcome alsoShutdown _ => loop.takes && !alsoShutdown
  | .pauseOver => loop.isPausing

end AcceptLoop

end SoleKey
