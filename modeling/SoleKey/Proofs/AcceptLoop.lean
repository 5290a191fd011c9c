import SoleKey.AcceptLoop
import SoleKey.Proofs.Effect

set_option autoImplicit false

namespace SoleKey

namespace AcceptLoop

def shutDown : List Effect := [.debug "Accept loop shutting down"]

def accepted : Effect := .debug "Accepted agent client connection"

inductive Move : AcceptLoop → Event → Step → Prop where
  | notices : Move ⟨.accepting, true⟩ .notice ⟨shutDown, false, ⟨.ended (.ok ()), true⟩⟩
  | asks : Move ⟨.accepting, false⟩ .asks ⟨[], false, ⟨.asking, false⟩⟩
  | waits (shutdown : Bool) :
      Move ⟨.asking, shutdown⟩ .waits ⟨[], false, ⟨.accepting, shutdown⟩⟩
  | serves {loop : AcceptLoop} (takes : loop.takes = true) (unasked : loop.shutdown = false) :
      Move loop (.outcome false (.ok ())) ⟨[accepted], true, ⟨.accepting, false⟩⟩
  | servesLast :
      Move ⟨.asking, true⟩ (.outcome false (.ok ()))
        ⟨accepted :: shutDown, true, ⟨.ended (.ok ()), true⟩⟩
  | pauses {loop : AcceptLoop} (problem : SystemError) (takes : loop.takes = true)
      (passing : problem.isTransient = true) :
      Move loop (.outcome false (.error problem))
        ⟨[.warn ("Temporary accept error, sleeping 1s: " ++ problem.message)], false,
          ⟨.pausing, loop.shutdown⟩⟩
  | failsLate (problem : SystemError) (lasting : problem.isTransient = false) :
      Move ⟨.asking, true⟩ (.outcome false (.error problem))
        ⟨[.debug ("Accept failed during shutdown: " ++ problem.message)], false,
          ⟨.ended (.ok ()), true⟩⟩
  | fails {loop : AcceptLoop} (problem : SystemError) (takes : loop.takes = true)
      (unasked : loop.shutdown = false) (lasting : problem.isTransient = false) :
      Move loop (.outcome false (.error problem))
        ⟨[.error ("Failed to accept connections: " ++ problem.message)], false,
          ⟨.ended (.error problem), false⟩⟩
  | resumes : Move ⟨.pausing, false⟩ .pauseOver ⟨[], false, ⟨.accepting, false⟩⟩
  | resumesLate : Move ⟨.pausing, true⟩ .pauseOver ⟨shutDown, false, ⟨.ended (.ok ()), true⟩⟩

theorem isAccepting_iff {loop : AcceptLoop} :
    loop.isAccepting = true ↔ loop.phase = .accepting := by
  cases phase : loop.phase <;> simp [isAccepting, phase]

theorem isPausing_iff {loop : AcceptLoop} : loop.isPausing = true ↔ loop.phase = .pausing := by
  cases phase : loop.phase <;> simp [isPausing, phase]

theorem isAsking_iff {loop : AcceptLoop} : loop.isAsking = true ↔ loop.phase = .asking := by
  cases phase : loop.phase <;> simp [isAsking, phase]

theorem takes_iff {loop : AcceptLoop} :
    loop.takes = true ↔ loop.phase = .accepting ∧ loop.shutdown = false ∨ loop.phase = .asking := by
  simp [takes, isAccepting_iff, isAsking_iff]

theorem result?_of_takes {loop : AcceptLoop} (takes : loop.takes = true) :
    loop.result? = none := by
  rcases takes_iff.1 takes with ⟨phase, _⟩ | phase <;> simp [result?, phase]

theorem step_outcome {loop : AcceptLoop} (takes : loop.takes = true) (also : Bool)
    (found : Except SystemError Unit) :
    loop.step (.outcome also found) = take (loop.shutdown || also) found := by
  simp [step, takes]

theorem move_of_takes {loop : AcceptLoop} (takes : loop.takes = true)
    (found : Except SystemError Unit) :
    Move loop (.outcome false found) (take loop.shutdown found) := by
  -- A loop that takes an outcome although it was asked had looked before.
  have late (asked : loop.shutdown = true) : loop = ⟨.asking, true⟩ := by
    obtain ⟨phase, shutdown⟩ := loop
    simpa [takes_iff, show shutdown = true from asked] using takes
  cases found with
  | ok =>
    cases asked : loop.shutdown with
    | false => exact .serves takes asked
    | true => exact late asked ▸ .servesLast
  | error problem =>
    cases passing : problem.isTransient with
    | true => simpa [take, failed, passing] using Move.pauses problem takes passing
    | false =>
      cases asked : loop.shutdown with
      | false => simpa [take, failed, passing] using Move.fails problem takes asked passing
      | true => simpa [take, failed, passing, late asked] using Move.failsLate problem passing

theorem move_of_mayHappen {loop : AcceptLoop} {event : Event}
    (possible : loop.mayHappen event = true) : Move loop event (loop.step event) := by
  cases event with
  | shutdown => simp [mayHappen] at possible
  | outcome also found =>
    obtain ⟨takes, rfl⟩ : loop.takes = true ∧ also = false := by simpa [mayHappen] using possible
    rw [step_outcome takes, Bool.or_false]
    exact move_of_takes takes found
  | notice | asks | waits | pauseOver =>
    obtain ⟨phase, shutdown⟩ := loop
    cases phase <;> cases shutdown <;>
      simp [mayHappen, isAccepting, isAsking, isPausing] at possible
    all_goals constructor

@[simp] theorem step_shutdown (loop : AcceptLoop) :
    loop.step .shutdown = silent { loop with shutdown := true } := by
  obtain ⟨phase, shutdown⟩ := loop
  cases phase <;> rfl

namespace Move

variable {loop : AcceptLoop} {event : Event} {step : Step}

theorem running (move : Move loop event step) : loop.result? = none := by
  cases move with
  | serves takes | pauses _ takes | fails _ takes => exact result?_of_takes takes
  | notices | asks | waits | servesLast | failsLate | resumes | resumesLate => rfl

theorem shutdown_next (move : Move loop event step) : step.next.shutdown = loop.shutdown := by
  cases move with
  | serves _ unasked | fails _ _ unasked => exact unasked.symm
  | notices | asks | waits | servesLast | pauses | failsLate | resumes | resumesLate => rfl

theorem shutdown_of_ok (move : Move loop event step) (ends : step.next.result? = some (.ok ())) :
    loop.shutdown = true := by
  cases move <;> simp_all [result?]

theorem result_error_iff (move : Move loop event step) (problem : SystemError) :
    step.next.result? = some (.error problem) ↔
      event = .outcome false (.error problem) ∧ problem.isTransient = false ∧
        loop.shutdown = false := by
  cases move with
  | fails other _ unasked lasting =>
    simp only [result?, Option.some.injEq, Except.error.injEq, Event.outcome.injEq, true_and,
      unasked, and_true]
    constructor
    · rintro rfl
      exact ⟨rfl, lasting⟩
    · exact And.left
  | failsLate other => simp [result?]
  | pauses other _ passing =>
    simp only [result?, reduceCtorEq, Event.outcome.injEq, true_and, Except.error.injEq, false_iff]
    rintro ⟨rfl, lasting, _⟩
    simp [passing] at lasting
  | notices | asks | waits | serves | servesLast | resumes | resumesLate => simp [result?]

theorem spawns_iff (move : Move loop event step) :
    step.spawns = true ↔ event = .outcome false (.ok ()) := by
  cases move <;> simp

theorem isLog (move : Move loop event step) : ∀ effect ∈ step.effects, effect.isLog = true := by
  cases move <;> simp [shutDown, accepted]

end Move

end AcceptLoop

end SoleKey
