import SoleKey.Connection.Shared
import SoleKey.Lifecycle

set_option autoImplicit false

namespace SoleKey

structure RunningAgent where
  life : Lifecycle
  shared : SharedConnections
  -- Numbers of the connections whose tasks are unfinished.
  unfinished : List Nat

namespace RunningAgent

inductive Event where
  | accepts (number : Nat) (connection : Connection)
  | serves (event : SharedConnections.Event)
  | ends (number : Nat)
  | agent (event : Lifecycle.Event)

abbrev Step := List Effect × RunningAgent

def start (socketPath : Option String) : RunningAgent :=
  ⟨.start socketPath, .empty, []⟩

def accept? (session : Session) (agent : RunningAgent) (number : Nat) (connection : Connection) :
    Option Step := do
  let step ← agent.life.step? (.loop (.outcome false (.ok ())))
  let (effects, shared) ← agent.shared.step? session (.opened number connection)
  some (step.effects ++ effects, ⟨step.next, shared, agent.unfinished ++ [number]⟩)

def end? (agent : RunningAgent) (number : Nat) : Option Step := do
  let result ← (agent.shared.find? number).bind Connection.result?
  let step ← agent.life.step? .connectionEnds
  if number ∈ agent.unfinished then
    some (Connection.endLine result :: step.effects,
      { agent with
        life := step.next
        unfinished := agent.unfinished.filter (· ≠ number) })
  else none

-- Streams are accepted and connections ended together with their tasks only.
def step? (session : Session) (agent : RunningAgent) : Event -> Option Step
  | .accepts number connection => agent.accept? session number connection
  | .serves (.opened ..) => none
  | .serves event =>
      (agent.shared.step? session event).map fun (effects, shared) =>
        (effects, { agent with shared := shared })
  | .ends number => agent.end? number
  | .agent (.loop (.outcome _ (.ok ()))) | .agent .connectionEnds => none
  | .agent event =>
      (agent.life.step? event).map fun step => (step.effects, { agent with life := step.next })

end RunningAgent

end SoleKey
