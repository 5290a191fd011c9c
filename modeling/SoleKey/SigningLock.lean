import SoleKey.KeyOperation

set_option autoImplicit false

namespace SoleKey

structure Ticket (ι : Type) where
  caller : ι
  operation : KeyOperation
  deriving DecidableEq

inductive Progress where
  | loading
  | acting (found : Load) (tpm : Tpm) (made : Nat)

structure Work (ι : Type) where
  ticket : Ticket ι
  progress : Progress
  callerPresent : Bool

def Work.told {ι : Type} (work : Work ι) (outcome : Except SigningError KeyResult) :
    List (ι × Except SigningError KeyResult) :=
  if work.callerPresent then [(work.ticket.caller, outcome)] else []

structure SigningLock (ι : Type) where
  held : Bool
  waiting : List (Ticket ι)
  working : List (Work ι)

namespace SigningLock

variable {ι : Type} [DecidableEq ι]

/-- A panic while the key is being loaded shows as a load that crashed. -/
inductive Event (ι : Type) where
  | arrive (ticket : Ticket ι)
  | grant
  | load (caller : ι) (found : Load) (tpm : Tpm)
  | act (caller : ι)
  | finish (caller : ι)
  | panic (caller : ι)
  | leave (caller : ι)

def Event.isOwn : Event ι → Bool
  | .arrive _ | .leave _ => false
  | _ => true

structure Step (ι : Type) where
  effects : List Effect
  delivered : List (ι × Except SigningError KeyResult)
  next : SigningLock ι

def free : SigningLock ι := ⟨false, [], []⟩

def workOf? (lock : SigningLock ι) (caller : ι) : Option (Work ι) :=
  lock.working.find? (·.ticket.caller = caller)

def setProgress (lock : SigningLock ι) (caller : ι) (progress : Progress) : SigningLock ι where
  held := lock.held
  waiting := lock.waiting
  working := lock.working.map fun work =>
    if work.ticket.caller = caller then { work with progress := progress } else work

-- The lock is held by the work of an operation and not by its caller: a caller that leaves while
-- its operation is at work does not release it, and one that leaves while it waits is forgotten.
def release (lock : SigningLock ι) (work : Work ι) (outcome : Except SigningError KeyResult) :
    Step ι where
  effects := []
  delivered := work.told outcome
  next := ⟨false, lock.waiting, lock.working.filter (·.ticket.caller ≠ work.ticket.caller)⟩

def leave (lock : SigningLock ι) (caller : ι) : SigningLock ι where
  held := lock.held
  waiting := lock.waiting.filter (·.caller ≠ caller)
  working := lock.working.map fun work =>
    if work.ticket.caller = caller then { work with callerPresent := false } else work

-- The load begins as the lock is granted.
def step? (lock : SigningLock ι) : Event ι -> Option (Step ι)
  | .arrive ticket => some ⟨[], [], { lock with waiting := lock.waiting ++ [ticket] }⟩
  | .grant =>
      match lock.held, lock.waiting with
      | false, ticket :: rest =>
        some ⟨[.loaded], [], ⟨true, rest, lock.working ++ [⟨ticket, .loading, true⟩]⟩⟩
      | _, _ => none
  | .load caller found tpm => do
      let work ← lock.workOf? caller
      match work.progress with
      | .loading => some ⟨[], [], lock.setProgress caller (.acting found tpm 0)⟩
      | .acting .. => none
  | .act caller => do
      let work ← lock.workOf? caller
      match work.progress with
      | .loading => none
      | .acting found tpm made =>
        let effect ← (work.ticket.operation.conclude found tpm).1[made]?
        some ⟨[effect], [], lock.setProgress caller (.acting found tpm (made + 1))⟩
  | .finish caller => do
      let work ← lock.workOf? caller
      match work.progress with
      | .loading => none
      | .acting found tpm made =>
        let (effects, outcome) := work.ticket.operation.conclude found tpm
        if made = effects.length then some (lock.release work outcome) else none
  | .panic caller => do
      let work ← lock.workOf? caller
      match work.progress with
      | .loading => none
      | .acting .. => some (lock.release work (.error .worker))
  | .leave caller => some ⟨[], [], lock.leave caller⟩

def steps? (lock : SigningLock ι) : List (Event ι) -> Option (Step ι)
  | [] => some ⟨[], [], lock⟩
  | event :: rest => do
    let step ← lock.step? event
    let later ← step.next.steps? rest
    some ⟨step.effects ++ later.effects, step.delivered ++ later.delivered, later.next⟩

def workEvents (ticket : Ticket ι) (found : Load) (tpm : Tpm) : List (Event ι) :=
  let effects := (ticket.operation.conclude found tpm).1
  .load ticket.caller found tpm ::
    (List.replicate effects.length (.act ticket.caller) ++ [.finish ticket.caller])

def running (lock : SigningLock ι) : Option (Work ι) :=
  lock.working.head?

def complete? (lock : SigningLock ι) (found : Load) (tpm : Tpm) : Option (Step ι) := do
  let work ← lock.running
  lock.steps? (workEvents work.ticket found tpm)

end SigningLock

end SoleKey
