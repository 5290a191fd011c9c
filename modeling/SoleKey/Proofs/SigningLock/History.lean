import SoleKey.Proofs.KeyOperation
import SoleKey.Proofs.SigningLock.Transition
import Mathlib.Data.List.Perm.Basic

set_option autoImplicit false

namespace SoleKey

variable {ι : Type}

-- A call whose work is over. A panic cuts the work short after some of its effects.
structure Turn (ι : Type) where
  ticket : Ticket ι
  found : Load
  tpm : Tpm
  panickedAfter : Option Nat
  callerPresent : Bool

namespace Turn

def alone (turn : Turn ι) : List Effect × Except SigningError KeyResult :=
  let (effects, outcome) := turn.ticket.operation.run turn.found turn.tpm
  match turn.panickedAfter with
  | none => (effects, outcome)
  | some made => (effects.take (made + 1), .error .worker)

def told (turn : Turn ι) : List (ι × Except SigningError KeyResult) :=
  if turn.callerPresent then [(turn.ticket.caller, turn.alone.2)] else []

def inSequence : List (Turn ι) → List Effect × List (ι × Except SigningError KeyResult)
  | [] => ([], [])
  | turn :: rest => (turn.alone.1 ++ (inSequence rest).1, turn.told ++ (inSequence rest).2)

theorem inSequence_append (first second : List (Turn ι)) :
    inSequence (first ++ second) =
      ((inSequence first).1 ++ (inSequence second).1,
        (inSequence first).2 ++ (inSequence second).2) := by
  induction first with
  | nil => rfl
  | cons turn rest ih => simp [inSequence, ih]

end Turn

namespace Work

def made (work : Work ι) : List Effect :=
  match work.progress with
  | .loading => [.loaded]
  | .acting found tpm made => (work.ticket.operation.run found tpm).1.take (made + 1)

def turn? (work : Work ι) (panicked : Bool) : Option (Turn ι) :=
  match work.progress with
  | .loading => none
  | .acting found tpm made =>
    some ⟨work.ticket, found, tpm, if panicked then some made else none, work.callerPresent⟩

end Work

namespace SigningLock

-- Kept beside the lock, which never looks at it.
structure History (ι : Type) where
  arrived : List (Ticket ι)
  granted : List (Ticket ι)
  -- Left while they waited.
  withdrawn : List (Ticket ι)
  turns : List (Turn ι)
  effects : List Effect
  delivered : List (ι × Except SigningError KeyResult)

def History.empty : History ι := ⟨[], [], [], [], [], []⟩

structure Consistent (history : History ι) (lock : SigningLock ι) : Prop where
  exclusive : lock.Exclusive
  inOrder : (history.granted ++ lock.waiting).Sublist history.arrived
  complete : (history.granted ++ lock.waiting ++ history.withdrawn).Perm history.arrived
  granted : history.granted = history.turns.map (·.ticket) ++ lock.working.map (·.ticket)
  effects :
    history.effects = (Turn.inSequence history.turns).1 ++ lock.working.flatMap Work.made
  delivered : history.delivered = (Turn.inSequence history.turns).2

theorem consistent_start : Consistent (.empty : History ι) .free where
  exclusive := .idle []
  inOrder := .refl _
  complete := .refl _
  granted := rfl
  effects := rfl
  delivered := rfl

variable [DecidableEq ι]

def History.note (history : History ι) (lock : SigningLock ι) (event : Event ι) (step : Step ι) :
    History ι where
  arrived := history.arrived ++ match event with
    | .arrive ticket => [ticket]
    | _ => []
  granted := history.granted ++ match event with
    | .grant => lock.waiting.take 1
    | _ => []
  withdrawn := history.withdrawn ++ match event with
    | .leave caller => lock.waiting.filter (·.caller = caller)
    | _ => []
  turns := history.turns ++ match event with
    | .finish caller => ((lock.workOf? caller).bind (·.turn? false)).toList
    | .panic caller => ((lock.workOf? caller).bind (·.turn? true)).toList
    | _ => []
  effects := history.effects ++ step.effects
  delivered := history.delivered ++ step.delivered

inductive Reaches : History ι → SigningLock ι → Prop where
  | start : Reaches .empty .free
  | next {history : History ι} {lock : SigningLock ι} {event : Event ι} {step : Step ι}
      (reached : Reaches history lock) (moved : lock.step? event = some step) :
      Reaches (history.note lock event step) step.next

@[simp] theorem map_ticket_leave (lock : SigningLock ι) (caller : ι) :
    (lock.leave caller).working.map (·.ticket) = lock.working.map (·.ticket) := by
  simp only [leave, List.map_map]
  apply List.map_congr_left
  intro work _
  by_cases own : work.ticket.caller = caller <;> simp [own]

@[simp] theorem flatMap_made_leave (lock : SigningLock ι) (caller : ι) :
    (lock.leave caller).working.flatMap Work.made = lock.working.flatMap Work.made := by
  simp only [leave, List.flatMap_map]
  apply List.flatMap_congr
  intro work _
  by_cases own : work.ticket.caller = caller <;> simp [own, Work.made]

variable {history : History ι} {lock : SigningLock ι} {event : Event ι} {step : Step ι}

theorem Consistent.inOrder_next (consistent : Consistent history lock)
    (transition : Transition lock event step) :
    ((history.note lock event step).granted ++ step.next.waiting).Sublist
      (history.note lock event step).arrived := by
  have inOrder := consistent.inOrder
  cases transition with
  | arrive _ ticket =>
    simpa [History.note, ← List.append_assoc] using inOrder
  | grant oldest rest => simpa [History.note] using inOrder
  | leave _ caller =>
    have fewer : (history.granted ++ (lock.leave caller).waiting).Sublist
        (history.granted ++ lock.waiting) :=
      List.Sublist.append_left (List.filter_sublist ..) _
    simpa [History.note] using fewer.trans inOrder
  | load | act | finish | panic => simpa [History.note] using inOrder

theorem Consistent.complete_next (consistent : Consistent history lock)
    (transition : Transition lock event step) :
    ((history.note lock event step).granted ++ step.next.waiting ++
      (history.note lock event step).withdrawn).Perm (history.note lock event step).arrived := by
  have complete := consistent.complete
  cases transition with
  | arrive _ ticket =>
    have moved : (history.granted ++ (lock.waiting ++ [ticket]) ++ history.withdrawn).Perm
        (history.granted ++ lock.waiting ++ history.withdrawn ++ [ticket]) := by
      simpa using (@List.perm_append_comm _ [ticket] history.withdrawn).append_left
        (history.granted ++ lock.waiting)
    simpa [History.note] using moved.trans (complete.append_right [ticket])
  | grant oldest rest => simpa [History.note] using complete
  | leave _ caller =>
    let left := lock.waiting.filter (·.caller = caller)
    have parted : ((lock.leave caller).waiting ++ left).Perm lock.waiting := by
      have halves := List.filter_append_perm (fun ticket => decide (ticket.caller = caller))
        lock.waiting
      simpa [leave, left] using List.perm_append_comm.trans halves
    have moved : (history.granted ++ (lock.leave caller).waiting ++
        (history.withdrawn ++ left)).Perm
        (history.granted ++ ((lock.leave caller).waiting ++ left) ++ history.withdrawn) := by
      simpa using (@List.perm_append_comm _ history.withdrawn left).append_left
        (history.granted ++ (lock.leave caller).waiting)
    have rejoined := (parted.append_left history.granted).append_right history.withdrawn
    simpa [History.note, left] using (moved.trans rejoined).trans complete
  | load | act | finish | panic => simpa [History.note] using complete

theorem Consistent.granted_next (consistent : Consistent history lock)
    (transition : Transition lock event step) :
    (history.note lock event step).granted =
      (history.note lock event step).turns.map (·.ticket) ++ step.next.working.map (·.ticket) := by
  have granted := consistent.granted
  cases transition with
  | arrive | load | act | leave => simpa [History.note] using granted
  | grant oldest rest => simpa [History.note] using granted
  | finish waiting ticket present found tpm made complete =>
    simpa [History.note, workOf?_busy, Work.turn?] using granted
  | panic waiting ticket present found tpm made =>
    simpa [History.note, workOf?_busy, Work.turn?] using granted

theorem Consistent.effects_next (consistent : Consistent history lock)
    (transition : Transition lock event step) :
    (history.note lock event step).effects =
      (Turn.inSequence (history.note lock event step).turns).1 ++
        step.next.working.flatMap Work.made := by
  have effects := consistent.effects
  cases transition with
  | arrive | leave => simpa [History.note] using effects
  | grant oldest rest => simpa [History.note, Work.made] using effects
  | load => simpa [History.note, Work.made, KeyOperation.run_eq] using effects
  | act waiting ticket present found tpm made effect ahead =>
    have longer : (ticket.operation.run found tpm).1.take (made + 2) =
        (ticket.operation.run found tpm).1.take (made + 1) ++ [effect] := by
      simp [KeyOperation.run_eq, List.take_add_one, ahead]
    have before : history.effects = (Turn.inSequence history.turns).1 ++
        (ticket.operation.run found tpm).1.take (made + 1) := by
      simpa [Work.made] using effects
    simp [History.note, Work.made, longer, before]
  | finish waiting ticket present found tpm made complete =>
    have whole : (ticket.operation.run found tpm).1.take (made + 1) =
        (ticket.operation.run found tpm).1 := by
      simp [KeyOperation.run_eq, complete]
    simpa [History.note, workOf?_busy, Work.turn?, Work.made, Turn.inSequence_append,
      Turn.inSequence, Turn.alone, whole] using effects
  | panic waiting ticket present found tpm made =>
    simpa [History.note, workOf?_busy, Work.turn?, Work.made, Turn.inSequence_append,
      Turn.inSequence, Turn.alone] using effects

theorem Consistent.delivered_next (consistent : Consistent history lock)
    (transition : Transition lock event step) :
    (history.note lock event step).delivered =
      (Turn.inSequence (history.note lock event step).turns).2 := by
  have delivered := consistent.delivered
  cases transition with
  | arrive | grant | load | act | leave => simpa [History.note] using delivered
  | finish waiting ticket present found tpm made complete =>
    simp [History.note, workOf?_busy, Work.turn?, Work.told, Turn.told, Turn.alone,
      Turn.inSequence_append, Turn.inSequence, KeyOperation.run_eq, delivered]
  | panic waiting ticket present found tpm made =>
    simp [History.note, workOf?_busy, Work.turn?, Work.told, Turn.told, Turn.alone,
      Turn.inSequence_append, Turn.inSequence, delivered]

theorem Reaches.consistent {history : History ι} {lock : SigningLock ι}
    (reached : Reaches history lock) : Consistent history lock := by
  induction reached with
  | start => exact consistent_start
  | next reached moved consistent =>
    have transition := transition_of_step? consistent.exclusive moved
    exact
      { exclusive := consistent.exclusive.next transition
        inOrder := consistent.inOrder_next transition
        complete := consistent.complete_next transition
        granted := consistent.granted_next transition
        effects := consistent.effects_next transition
        delivered := consistent.delivered_next transition }

end SigningLock

end SoleKey
