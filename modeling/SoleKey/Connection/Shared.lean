import SoleKey.Connection.Basic
import SoleKey.SigningLock

set_option autoImplicit false

namespace SoleKey

structure SharedConnections where
  lock : SigningLock Nat
  connections : List (Nat × Connection)

namespace SharedConnections

inductive Event where
  | opened (number : Nat) (connection : Connection)
  | client (number : Nat) (act : Connection.ClientAct)
  | polls (number : Nat)
  | works (event : SigningLock.Event Nat)

abbrev Step := List Effect × SharedConnections

def empty : SharedConnections := ⟨.free, []⟩

def find? (shared : SharedConnections) (number : Nat) : Option Connection :=
  shared.connections.lookup number

def update (shared : SharedConnections) (number : Nat) (connection : Connection) :
    SharedConnections :=
  { shared with
    connections := shared.connections.map fun (other, old) =>
      if other = number then (other, connection) else (other, old) }

def insert (shared : SharedConnections) (number : Nat) (connection : Connection) :
    SharedConnections :=
  { shared with connections := shared.connections ++ [(number, connection)] }

def enqueue (shared : SharedConnections) (number : Nat) (polled : Connection) :
    SharedConnections :=
  match polled.phase with
  | .waiting operation _ =>
    match shared.lock.step? (.arrive ⟨number, operation⟩) with
    | some step => { shared with lock := step.next }
    | none => shared
  | _ => shared

def resume (shared : SharedConnections) (number : Nat)
    (outcome : Except SigningError KeyResult) : Step :=
  match shared.find? number with
  | some connection =>
    let (effects, resumed) := connection.resume outcome
    (effects, shared.update number resumed)
  | none => ([], shared)

def tell (shared : SharedConnections) :
    List (Nat × Except SigningError KeyResult) -> Step
  | [] => ([], shared)
  | (number, outcome) :: _ => shared.resume number outcome

-- A connection never leaves the lock before its operation has ended.
def step? (session : Session) (shared : SharedConnections) : Event -> Option Step
  | .opened number connection =>
      if (shared.find? number).isNone ∧ connection.isNew then
        some ([], shared.insert number connection)
      else none
  | .client number act =>
      (shared.find? number).map fun connection =>
        ([], shared.update number (connection.after act))
  | .polls number => do
      let connection ← shared.find? number
      let (effects, polled) ← connection.poll? session
      some (effects, (shared.update number polled).enqueue number polled)
  | .works event =>
      if event.isOwn then do
        let step ← shared.lock.step? event
        let (effects, told) := { shared with lock := step.next }.tell step.delivered
        some (step.effects ++ effects, told)
      else none

def steps? (session : Session) (shared : SharedConnections) : List Event -> Option Step
  | [] => some ([], shared)
  | event :: rest => do
    let (effects, next) ← shared.step? session event
    let (more, last) ← steps? session next rest
    some (effects ++ more, last)

def workOn (load : Load) (tpm : Tpm) (work : Work Nat) : List Event :=
  (SigningLock.workEvents work.ticket load tpm).map .works

def ownEvents (load : Load) (tpm : Tpm) (shared : SharedConnections) : List (List Event) :=
  shared.connections.map (fun (number, _) => [.polls number]) ++ [[.works .grant]] ++
    shared.lock.running.toList.map (workOn load tpm)

def settleGo (session : Session) (load : Load) (tpm : Tpm) :
    Nat -> List (List Effect) -> SharedConnections -> List (List Effect) × SharedConnections
  | 0, effects, shared => (effects, shared)
  | fuel + 1, effects, shared =>
    match (shared.ownEvents load tpm).findSome? (shared.steps? session) with
    | some (more, next) => settleGo session load tpm fuel (more :: effects) next
    | none => (effects, shared)

def work (shared : SharedConnections) : Nat :=
  shared.connections.foldl
    (fun total (_, connection) => total + 3 * (connection.buffer.length + 2)) 3

def settle (session : Session) (load : Load) (tpm : Tpm) (shared : SharedConnections) : Step :=
  let (effects, settled) := settleGo session load tpm shared.work [] shared
  (effects.reverse.flatten, settled)

end SharedConnections

end SoleKey
