import SoleKey.Lifecycle
import SoleKey.Proofs.AcceptLoop

set_option autoImplicit false

namespace SoleKey.Lifecycle

def spawned (step : AcceptLoop.Step) : Nat :=
  if step.spawns then 1 else 0

def afterLoop (life : Lifecycle) (step : AcceptLoop.Step) (stage : Stage) : Lifecycle :=
  { life with
    loop := step.next
    stage := stage
    tasks := life.tasks + spawned step
    connections := life.connections + spawned step }

inductive Transition (life : Lifecycle) : Event → Step → Prop where
  | loopGoesOn (event : AcceptLoop.Event) (step : AcceptLoop.Step) (looping : life.stage = .looping)
      (move : life.loop.Move event step) (running : step.next.result? = none) :
      Transition life (.loop event) ⟨step.effects, life.afterLoop step .looping⟩
  | loopEnds (event : AcceptLoop.Event) (step : AcceptLoop.Step)
      (result : Except SystemError Unit) (looping : life.stage = .looping)
      (move : life.loop.Move event step) (ends : step.next.result? = some result) :
      Transition life (.loop event) ⟨step.effects, life.afterLoop step .listenerClosed⟩
  | removeSocket (closed : life.stage = .listenerClosed) :
      Transition life .removeSocket ⟨cleanUp life.socketPath, { life with stage := .socketRemoved }⟩
  | publishFailure (problem : SystemError) (removed : life.stage = .socketRemoved)
      (failed : life.loop.result? = some (.error problem)) :
      Transition life .publish ⟨[], { life with stage := .published, failure := some problem }⟩
  | publishNothing (removed : life.stage = .socketRemoved)
      (fine : ∀ problem, life.loop.result? ≠ some (.error problem)) :
      Transition life .publish ⟨[], { life with stage := .published }⟩
  | finishLoop (published : life.stage = .published) :
      Transition life .finishLoop ⟨[], { life with stage := .finished, tasks := life.tasks - 1 }⟩
  | connectionEnds (live : life.connections ≠ 0) :
      Transition life .connectionEnds
        ⟨[], { life with connections := life.connections - 1, tasks := life.tasks - 1 }⟩
  | asksToStop (caller : Caller) (stop : caller.request = .stop) (first : life.stopping = false) :
      Transition life (.call caller)
        ⟨[.info "Stopping agent"],
          { life with callers := life.callers ++ [caller], loop := { life.loop with shutdown := true } }⟩
  | joins (caller : Caller) (quiet : caller.request = .stop → life.stopping = true) :
      Transition life (.call caller) ⟨[], { life with callers := life.callers ++ [caller] }⟩
  | callReturns (caller : Caller) (pending : life.callers.find? (·.id = caller.id) = some caller)
      (may : life.mayReturn caller.request = true) :
      Transition life (.callReturns caller.id) (life.endCall caller)
  | dropped :
      Transition life .dropped
        ⟨[], { life with callers := [], loop := { life.loop with shutdown := true } }⟩

theorem requestShutdown_eq (life : Lifecycle) :
    life.requestShutdown = { life with loop := { life.loop with shutdown := true } } := by
  simp [requestShutdown, AcceptLoop.silent]

theorem beginCall_stop {life : Lifecycle} {caller : Caller}
    (stop : caller.request = .stop) :
    (life.beginCall caller).next =
      { life with
        callers := life.callers ++ [caller], loop := { life.loop with shutdown := true } } := by
  by_cases asked : life.stopping = true
  · have same : life.loop = { life.loop with shutdown := true } := by
      rw [← show life.loop.shutdown = true from asked]
    simp [beginCall, asked, ← same]
  · simp [beginCall, stop, asked, requestShutdown_eq]

theorem transition_of_loop {life : Lifecycle} {event : AcceptLoop.Event} {step : Step}
    (moved : life.step? (.loop event) = some step) : Transition life (.loop event) step := by
  by_cases possible : life.listening = true ∧ life.loop.mayHappen event = true
  · have looping : life.stage = .looping := by simpa [listening] using possible.1
    have move := AcceptLoop.move_of_mayHappen possible.2
    simp only [step?, if_pos possible, Option.some.injEq] at moved
    subst moved
    cases result : (life.loop.step event).next.result? with
    | none =>
      simpa [loopStep, listening, looping, result, afterLoop, spawned] using
        Transition.loopGoesOn event _ looping move result
    | some ended =>
      simpa [loopStep, listening, looping, result, afterLoop, spawned] using
        Transition.loopEnds event _ ended looping move result
  · simp [step?, possible] at moved

theorem transition_of_publish {life : Lifecycle} {step : Step}
    (moved : life.step? .publish = some step) : Transition life .publish step := by
  simp only [step?] at moved
  split at moved
  · rename_i problem removed failed
    obtain rfl := Option.some.inj moved
    exact .publishFailure problem removed failed
  · rename_i removed fine
    obtain rfl := Option.some.inj moved
    exact .publishNothing removed fine
  · simp at moved

theorem transition_of_call (life : Lifecycle) (caller : Caller) :
    Transition life (.call caller) (life.beginCall caller) := by
  by_cases asks : caller.request = .stop ∧ life.stopping = false
  · simpa [beginCall, asks, requestShutdown_eq] using Transition.asksToStop caller asks.1 asks.2
  · have quiet : caller.request = .stop → life.stopping = true := by simpa using asks
    have joins := Transition.joins caller quiet
    simpa [beginCall, asks] using joins

theorem transition_of_callReturns {life : Lifecycle} {id : String} {step : Step}
    (moved : life.step? (.callReturns id) = some step) :
    Transition life (.callReturns id) step := by
  simp only [step?] at moved
  split at moved
  · rename_i caller pending
    by_cases may : life.mayReturn caller.request = true
    · obtain rfl : caller.id = id := by simpa using List.find?_some pending
      simp only [if_pos may, Option.some.injEq] at moved
      exact moved ▸ .callReturns caller pending may
    · simp [may] at moved
  · simp at moved

theorem transition_of_step? {life : Lifecycle} {event : Event} {step : Step}
    (moved : life.step? event = some step) : Transition life event step := by
  cases event with
  | loop event => exact transition_of_loop moved
  | publish => exact transition_of_publish moved
  | callReturns id => exact transition_of_callReturns moved
  | call caller =>
    obtain rfl := Option.some.inj moved
    exact transition_of_call life caller
  | removeSocket =>
    by_cases closed : life.stage = .listenerClosed
    · simp only [step?, if_pos closed, Option.some.injEq] at moved
      exact moved ▸ .removeSocket closed
    · simp [step?, closed] at moved
  | finishLoop =>
    by_cases published : life.stage = .published
    · simp only [step?, if_pos published, silent, Option.some.injEq] at moved
      exact moved ▸ .finishLoop published
    · simp [step?, published] at moved
  | connectionEnds =>
    by_cases idle : life.connections = 0
    · simp [step?, idle] at moved
    · simp only [step?, if_neg idle, silent, Option.some.injEq] at moved
      exact moved ▸ .connectionEnds idle
  | dropped =>
    simp only [step?, silent, requestShutdown_eq, Option.some.injEq] at moved
    exact moved ▸ .dropped

end SoleKey.Lifecycle
