import SoleKey.Agent
import SoleKey.SigningLock

set_option autoImplicit false

namespace SoleKey

abbrev CallResult := Except SigningError Answer

structure PendingCall where
  id : String
  finish : Except SigningError KeyResult -> List Effect × CallResult

structure ConcurrentCalls where
  lock : SigningLock String
  pending : List PendingCall

namespace ConcurrentCalls

inductive Ending where
  | answered (result : CallResult)
  | cancelled

structure Step where
  effects : List Effect
  ended : List (String × Ending)
  next : ConcurrentCalls

def idle : ConcurrentCalls := ⟨.free, []⟩

def silent (next : ConcurrentCalls) : Step := ⟨[], [], next⟩

def grant (calls : ConcurrentCalls) : Step :=
  match calls.lock.step? .grant with
  | some step => ⟨step.effects, [], { calls with lock := step.next }⟩
  | none => silent calls

def start (calls : ConcurrentCalls) (agent : Agent) (id : String) (call : Call) : Step :=
  match agent call with
  | .done effects result => ⟨effects, [(id, .answered result)], calls⟩
  | .keyed operation finish =>
    match calls.lock.step? (.arrive ⟨id, operation⟩) with
    | some step => grant ⟨step.next, calls.pending ++ [⟨id, finish⟩]⟩
    | none => silent calls

def cancel (calls : ConcurrentCalls) (id : String) : Step :=
  if calls.pending.any (·.id = id) then
    ⟨[], [(id, .cancelled)], ⟨calls.lock.leave id, calls.pending.filter (·.id ≠ id)⟩⟩
  else silent calls

def deliver (calls : ConcurrentCalls) (id : String) (outcome : Except SigningError KeyResult) :
    Step :=
  match calls.pending.find? (·.id = id) with
  | some pending =>
    let (effects, result) := pending.finish outcome
    ⟨effects, [(id, .answered result)],
      { calls with pending := calls.pending.filter (·.id ≠ id) }⟩
  | none => silent calls

def finish (calls : ConcurrentCalls) (load : Load) (tpm : Tpm) : Step :=
  match calls.lock.complete? load tpm with
  | none => silent calls
  | some step =>
    let released := { calls with lock := step.next }
    let delivery :=
      match step.delivered with
      | (id, outcome) :: _ => released.deliver id outcome
      | [] => silent released
    let granted := delivery.next.grant
    ⟨step.effects ++ delivery.effects ++ granted.effects, delivery.ended, granted.next⟩

def waitingIds (calls : ConcurrentCalls) : List String :=
  calls.pending.map (·.id)

end ConcurrentCalls

end SoleKey
