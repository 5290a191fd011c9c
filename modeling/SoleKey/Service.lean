import SoleKey.RunningAgent

set_option autoImplicit false

namespace SoleKey

structure Service extends RunningAgent where
  incoming : List (Except SystemError (Nat × Connection))
  pauseEnds : Option Nat

namespace Service

abbrev Step := List Effect × Service

def start (socketPath : Option String) : Service :=
  { RunningAgent.start socketPath with incoming := [], pauseEnds := none }

def listening (service : Service) : Bool :=
  service.life.listening

def apply (service : Service) (session : Session) (event : RunningAgent.Event) : Step :=
  match service.toRunningAgent.step? session event with
  | some (effects, next) => (effects, { service with toRunningAgent := next })
  | none => ([], service)

def loopStep (service : Service) (session : Session) (now : Nat) (event : RunningAgent.Event) :
    Step :=
  let (effects, next) := service.apply session event
  let pauseEnds := if next.life.loop.isPausing then
      some (service.pauseEnds.getD (now + AcceptLoop.pause)) else none
  (effects, { next with pauseEnds := pauseEnds })

def taking : Except SystemError (Nat × Connection) -> RunningAgent.Event
  | .ok (number, connection) => .accepts number connection
  | .error problem => .agent (.loop (.outcome false (.error problem)))

def acceptGo (session : Session) (now : Nat) : List (Except SystemError (Nat × Connection)) ->
    List Effect -> Service -> Step
  | [], effects, service => (effects, { service with incoming := [] })
  | item :: rest, effects, service =>
    if service.life.loop.takes then
      let (more, next) := service.loopStep session now (taking item)
      acceptGo session now rest (effects ++ more) next
    else if service.listening then (effects, { service with incoming := item :: rest })
    else (effects, { service with incoming := [] })

-- A request to shut down is noticed before anything is taken.
def accept (service : Service) (session : Session) (now : Nat) : Step :=
  let (noticed, service) := service.apply session (.agent (.loop .notice))
  acceptGo session now service.incoming noticed service

def serve (service : Service) (session : Session) (load : Load) (tpm : Tpm) : Step :=
  let (effects, shared) := service.shared.settle session load tpm
  (effects, { service with shared := shared })

def reapOne (session : Session) (state : Step) (number : Nat) : Step :=
  let (effects, service) := state
  let (more, next) := service.apply session (.ends number)
  (effects ++ more, next)

def reap (service : Service) (session : Session) : Step :=
  service.unfinished.foldl (reapOne session) ([], service)

def windUp (service : Service) : Step :=
  let (effects, life) := service.life.settle
  (effects, { service with life := life })

def settle (service : Service) (session : Session) (load : Load) (tpm : Tpm) (now : Nat) : Step :=
  let (accepted, service) := service.accept session now
  let (served, service) := service.serve session load tpm
  let (reaped, service) := service.reap session
  let (ended, service) := service.windUp
  (accepted ++ served ++ reaped ++ ended, service)

def elapse (session : Session) (load : Load) (tpm : Tpm) (limit : Nat) :
    Nat -> List Effect -> Service -> Step
  | 0, effects, service => (effects, service)
  | fuel + 1, effects, service =>
    match service.pauseEnds with
    | none => (effects, service)
    | some due =>
      if due ≥ limit then (effects, service)
      else
        let (ended, woken) := { service with pauseEnds := none }.loopStep session due
          (.agent (.loop .pauseOver))
        let (more, settled) := woken.settle session load tpm due
        elapse session load tpm limit fuel (effects ++ ended ++ more) settled

def queue (service : Service) (item : Except SystemError (Nat × Connection)) : Service :=
  if service.listening then { service with incoming := service.incoming ++ [item] } else service

def deliver (service : Service) (number : Nat) (act : Connection.ClientAct) : Service :=
  let incoming := service.incoming.map fun
    | .ok (other, connection) =>
        if other = number then .ok (other, connection.after act) else .ok (other, connection)
    | failure => failure
  match service.shared.find? number with
  | some connection =>
    { service with
      shared := service.shared.update number (connection.after act)
      incoming := incoming }
  | none => { service with incoming := incoming }

def find? (service : Service) (number : Nat) : Option Connection :=
  let queued := service.incoming.findSome? fun
    | .ok (other, connection) => if other = number then some connection else none
    | .error _ => none
  queued <|> service.shared.find? number

def isClosed (service : Service) (number : Nat) : Bool :=
  match service.find? number with
  | none => true
  | some connection => connection.result?.isSome

end Service

end SoleKey
