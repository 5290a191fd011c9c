import SoleKey.Proofs.Lifecycle.Transition

set_option autoImplicit false

namespace SoleKey.Lifecycle

-- Kept beside the agent, which never looks at it.
structure History where
  asked : List Caller
  returned : List (Caller × Except AgentError Unit)
  published : List SystemError
  dropped : Bool

def History.empty : History := ⟨[], [], [], false⟩

def returning (life : Lifecycle) (id : String) : List (Caller × Except AgentError Unit) :=
  (life.callers.find? (·.id = id)).toList.map fun caller => (caller, life.acceptResult)

def History.note (history : History) (life : Lifecycle) (event : Event) (next : Lifecycle) :
    History where
  asked := history.asked ++ match event with
    | .call caller => [caller]
    | _ => []
  returned := history.returned ++ match event with
    | .callReturns id => life.returning id
    | _ => []
  published := history.published ++ match event with
    | .publish => next.failure.toList
    | _ => []
  dropped := history.dropped || match event with
    | .dropped => true
    | _ => false

def History.stopAsked (history : History) : Prop :=
  history.dropped = true ∨ ∃ caller ∈ history.asked, caller.request = .stop

section Replay

variable {State Move : Type} {step? : State → Move → Option (List Effect × State)}
  {note : History → State → Move → State → History}

def History.replay (step? : State → Move → Option (List Effect × State))
    (note : History → State → Move → State → History) :
    List Move → History → State → Option (History × State)
  | [], history, state => some (history, state)
  | move :: rest, history, state => do
    let (_, next) ← step? state move
    replay step? note rest (note history state move next) next

theorem History.holds_of_replay {holds : History → State → Prop}
    (keeps : ∀ history state move effects next, holds history state →
      step? state move = some (effects, next) → holds (note history state move next) next)
    (moves : List Move) {history known : History} {state later : State}
    (first : holds history state)
    (replayed : replay step? note moves history state = some (known, later)) :
    holds known later := by
  induction moves generalizing history state with
  | nil =>
    obtain ⟨rfl, rfl⟩ := Prod.mk.inj (Option.some.inj replayed)
    exact first
  | cons move rest ih =>
    obtain ⟨⟨effects, next⟩, moved, replayed⟩ := Option.bind_eq_some_iff.1 replayed
    exact ih (keeps history state move effects next first moved) replayed

end Replay

inductive Reaches (socketPath : Option String) : History → Lifecycle → Prop where
  | start : Reaches socketPath .empty (.start socketPath)
  | next {history : History} {life : Lifecycle} {event : Event} {step : Step}
      (reached : Reaches socketPath history life) (moved : life.step? event = some step) :
      Reaches socketPath (history.note life event step.next) step.next

def loopTask (life : Lifecycle) : Nat :=
  if life.stage = .finished then 0 else 1

def failurePublished (life : Lifecycle) : Prop :=
  life.stage = .published ∨ life.stage = .finished

structure Consistent (history : History) (life : Lifecycle) : Prop where
  counted : life.tasks = life.loopTask + life.connections
  looping : life.stage = .looping ↔ life.loop.result? = none
  failed : ∀ problem, life.failure = some problem ↔
    life.failurePublished ∧ life.loop.result? = some (.error problem)
  stopAsked : life.stopping = true ↔ history.stopAsked
  stopped : life.loop.result? = some (.ok ()) → life.stopping = true
  published : history.published = life.failure.toList
  returned : history.returned.map (fun (caller, result) => (caller.id, result)) = life.returned
  settled : ∀ caller result, (caller, result) ∈ history.returned →
    life.mayReturn caller.request = true ∧ result = life.acceptResult

theorem consistent_start (socketPath : Option String) : Consistent .empty (.start socketPath) where
  counted := rfl
  looping := by simp [start, AcceptLoop.result?]
  failed := by simp [start, failurePublished]
  stopAsked := by simp [start, stopping, History.stopAsked, History.empty]
  stopped := by simp [start, AcceptLoop.result?]
  published := rfl
  returned := rfl
  settled := by simp [History.empty]

variable {socketPath : Option String} {history : History} {life : Lifecycle} {event : Event}
  {step : Step}

namespace Consistent

theorem counted_next (consistent : Consistent history life)
    (transition : Transition life event step) :
    step.next.tasks = step.next.loopTask + step.next.connections := by
  have counted := consistent.counted
  cases transition with
  | loopGoesOn _ moved looping | loopEnds _ moved _ looping =>
    simp only [loopTask, looping, afterLoop] at counted ⊢
    simp only [reduceCtorEq, if_false] at counted ⊢
    omega
  | removeSocket stage | publishFailure _ stage | publishNothing stage | finishLoop stage =>
    simp only [loopTask, stage] at counted ⊢
    simp only [reduceCtorEq, if_false, if_true] at counted ⊢
    omega
  | connectionEnds live =>
    simp only [loopTask] at counted ⊢
    omega
  | asksToStop | joins | callReturns | dropped => exact counted

theorem looping_next (consistent : Consistent history life)
    (transition : Transition life event step) :
    step.next.stage = .looping ↔ step.next.loop.result? = none := by
  have looping := consistent.looping
  cases transition with
  | loopGoesOn _ _ _ _ running => simp [afterLoop, running]
  | loopEnds _ _ _ _ _ ends => simp [afterLoop, ends]
  | removeSocket stage | publishFailure _ stage | publishNothing stage | finishLoop stage =>
    simpa [stage] using looping
  | connectionEnds | joins | callReturns => exact looping
  | asksToStop | dropped => exact looping

theorem failed_next (consistent : Consistent history life)
    (transition : Transition life event step) (problem : SystemError) :
    step.next.failure = some problem ↔
      step.next.failurePublished ∧ step.next.loop.result? = some (.error problem) := by
  have failed := consistent.failed problem
  cases transition with
  | loopGoesOn _ _ looping | loopEnds _ _ _ looping =>
    simpa [failurePublished, afterLoop, looping] using failed
  | removeSocket stage => simpa [failurePublished, stage] using failed
  | publishFailure other stage found => simp [failurePublished, found]
  | publishNothing stage fine =>
    simpa [failurePublished, stage, fine problem] using failed
  | finishLoop stage => simpa [failurePublished, stage] using failed
  | connectionEnds | joins | callReturns | asksToStop | dropped => exact failed

theorem stopAsked_next (consistent : Consistent history life)
    (transition : Transition life event step) :
    step.next.stopping = true ↔ (history.note life event step.next).stopAsked := by
  have asked := consistent.stopAsked
  cases transition with
  | loopGoesOn _ _ _ move | loopEnds _ _ _ _ move =>
    simpa [stopping, afterLoop, move.shutdown_next, History.stopAsked, History.note] using asked
  | asksToStop caller stop =>
    have there : ∃ other ∈ history.asked ++ [caller], other.request = .stop :=
      ⟨caller, by simp, stop⟩
    simpa [stopping, History.stopAsked, History.note] using Or.inr there
  | joins caller quiet =>
    have already : caller.request = .stop → history.stopAsked := fun stop => asked.1 (quiet stop)
    have same : (history.note life (.call caller)
        { life with callers := life.callers ++ [caller] }).stopAsked ↔ history.stopAsked := by
      simp only [History.stopAsked, History.note, List.mem_append, List.mem_singleton] at already ⊢
      grind
    exact asked.trans same.symm
  | dropped => simp [stopping, History.stopAsked, History.note]
  | callReturns caller =>
    simpa [stopping, endCall, History.stopAsked, History.note] using asked
  | removeSocket | publishFailure | publishNothing | finishLoop | connectionEnds =>
    simpa [stopping, History.stopAsked, History.note] using asked

theorem stopped_next (consistent : Consistent history life)
    (transition : Transition life event step) (ends : step.next.loop.result? = some (.ok ())) :
    step.next.stopping = true := by
  have stopped := consistent.stopped
  cases transition with
  | loopGoesOn _ _ _ _ running => simp [afterLoop, running] at ends
  | loopEnds _ _ _ _ move =>
    have asked := move.shutdown_of_ok ends
    simpa [stopping, afterLoop, move.shutdown_next] using asked
  | asksToStop | dropped => rfl
  | removeSocket | publishFailure | publishNothing | finishLoop | connectionEnds | joins |
      callReturns => exact stopped ends

theorem failure_none (consistent : Consistent history life) (unpublished : ¬life.failurePublished) :
    life.failure = none := by
  cases found : life.failure with
  | none => rfl
  | some problem => exact absurd ((consistent.failed problem).1 found).1 unpublished

theorem published_next (consistent : Consistent history life)
    (transition : Transition life event step) :
    (history.note life event step.next).published = step.next.failure.toList := by
  have published := consistent.published
  cases transition with
  | publishFailure problem removed =>
    -- Nothing was published before, so the problem stands alone in the history.
    have unpublished := consistent.failure_none (by simp [failurePublished, removed])
    simp [History.note, published, unpublished]
  | publishNothing removed =>
    have unpublished := consistent.failure_none (by simp [failurePublished, removed])
    simp [History.note, published, unpublished]
  | loopGoesOn | loopEnds => simpa [History.note, afterLoop] using published
  | callReturns => simpa [History.note, endCall] using published
  | removeSocket | finishLoop | connectionEnds | asksToStop | joins | dropped =>
    simpa [History.note] using published

theorem finished_of_tasks (consistent : Consistent history life) (noTasks : life.tasks = 0) :
    life.stage = .finished ∧ life.connections = 0 := by
  -- The task of the loop is among those counted, until the loop has finished.
  have counted := consistent.counted
  unfold loopTask at counted
  split at counted
  · rename_i finished
    exact ⟨finished, by omega⟩
  · omega

theorem tasks_next (consistent : Consistent history life)
    (transition : Transition life event step) (noTasks : life.tasks = 0) : step.next.tasks = 0 := by
  obtain ⟨finished, unconnected⟩ := consistent.finished_of_tasks noTasks
  cases transition with
  | loopGoesOn _ _ looping | loopEnds _ _ _ looping => simp [looping] at finished
  | finishLoop published => simp [published] at finished
  | connectionEnds live => exact absurd unconnected live
  | removeSocket | publishFailure | publishNothing | asksToStop | joins | callReturns | dropped =>
    exact noTasks

theorem failure_next (consistent : Consistent history life)
    (transition : Transition life event step)
    (settled : life.failure.isSome = true ∨ life.tasks = 0) :
    step.next.failure = life.failure := by
  cases transition with
  | publishFailure problem removed =>
    have absent := consistent.failure_none (by simp [failurePublished, removed])
    have noTasks : life.tasks = 0 := by simpa [absent] using settled
    have finished := (consistent.finished_of_tasks noTasks).1
    simp [removed] at finished
  | loopGoesOn | loopEnds | removeSocket | publishNothing | finishLoop | connectionEnds |
      asksToStop | joins | callReturns | dropped => rfl

theorem mayReturn_next (consistent : Consistent history life)
    (transition : Transition life event step) {request : Request}
    (may : life.mayReturn request = true) :
    step.next.mayReturn request = true ∧ step.next.acceptResult = life.acceptResult := by
  -- What lets a call return lasts: there are no new tasks, and no failure is taken back.
  cases request with
  | stop =>
    have noTasks : life.tasks = 0 := by simpa [mayReturn] using may
    have kept := consistent.failure_next transition (.inr noTasks)
    exact ⟨by simpa [mayReturn] using consistent.tasks_next transition noTasks, by
      simp [acceptResult, kept]⟩
  | wait =>
    have settled : life.failure.isSome = true ∨ life.tasks = 0 := by simpa [mayReturn] using may
    have kept := consistent.failure_next transition settled
    refine ⟨?_, by simp [acceptResult, kept]⟩
    cases settled with
    | inl failed => simp [mayReturn, kept, failed]
    | inr none => simp [mayReturn, consistent.tasks_next transition none]

theorem returned_next (consistent : Consistent history life)
    (transition : Transition life event step) :
    (history.note life event step.next).returned.map (fun (caller, result) => (caller.id, result)) =
      step.next.returned := by
  have returned := consistent.returned
  cases transition with
  | callReturns caller pending =>
    simp [History.note, returning, pending, endCall, returned]
  | loopGoesOn | loopEnds => simpa [History.note, afterLoop] using returned
  | removeSocket | publishFailure | publishNothing | finishLoop | connectionEnds | asksToStop |
      joins | dropped => simpa [History.note] using returned

theorem settled_next (consistent : Consistent history life)
    (transition : Transition life event step) (caller : Caller)
    (result : Except AgentError Unit)
    (there : (caller, result) ∈ (history.note life event step.next).returned) :
    step.next.mayReturn caller.request = true ∧ result = step.next.acceptResult := by
  -- A result that was given before is still what the call would get now.
  have earlier (before : (caller, result) ∈ history.returned) :
      step.next.mayReturn caller.request = true ∧ result = step.next.acceptResult := by
    obtain ⟨may, given⟩ := consistent.settled caller result before
    obtain ⟨stillMay, same⟩ := consistent.mayReturn_next transition may
    exact ⟨stillMay, given.trans same.symm⟩
  cases transition with
  | callReturns now pending may =>
    simp only [History.note, returning, pending, List.mem_append] at there
    cases there with
    | inl before => exact earlier before
    | inr returns =>
      obtain ⟨rfl, rfl⟩ : caller = now ∧ result = life.acceptResult := by simpa using returns
      exact ⟨may, rfl⟩
  | loopGoesOn | loopEnds | removeSocket | publishFailure | publishNothing | finishLoop |
      connectionEnds | asksToStop | joins | dropped =>
    exact earlier (by simpa [History.note] using there)

theorem next (consistent : Consistent history life) (transition : Transition life event step) :
    Consistent (history.note life event step.next) step.next where
  counted := consistent.counted_next transition
  looping := consistent.looping_next transition
  failed := consistent.failed_next transition
  stopAsked := consistent.stopAsked_next transition
  stopped := consistent.stopped_next transition
  published := consistent.published_next transition
  returned := consistent.returned_next transition
  settled := consistent.settled_next transition

end Consistent

theorem Reaches.consistent (reached : Reaches socketPath history life) :
    Consistent history life := by
  induction reached with
  | start => exact consistent_start socketPath
  | next reached moved consistent => exact consistent.next (transition_of_step? moved)

def Returns (life : Lifecycle) (caller : Caller) (result : Except AgentError Unit) : Prop :=
  life.callers.find? (·.id = caller.id) = some caller ∧
    ∃ step, life.step? (.callReturns caller.id) = some step ∧
      step.next.returned = life.returned ++ [(caller.id, result)]

theorem returns_iff {caller : Caller} {result : Except AgentError Unit} :
    life.Returns caller result ↔
      life.callers.find? (·.id = caller.id) = some caller ∧
        life.mayReturn caller.request = true ∧ result = life.acceptResult := by
  unfold Returns
  apply and_congr_right
  intro pending
  by_cases may : life.mayReturn caller.request = true
  · have returns : life.step? (.callReturns caller.id) = some (life.endCall caller) := by
      simp [step?, pending, may]
    simp [returns, endCall, may, eq_comm]
  · simp [step?, pending, may]

theorem acceptResult_eq_error_iff {error : AgentError} :
    life.acceptResult = .error error ↔
      ∃ problem, error = .accept problem ∧ life.failure = some problem := by
  unfold acceptResult
  cases life.failure with
  | none => simp
  | some problem =>
    simp only [Except.error.injEq, Option.some.injEq]
    exact ⟨fun same => ⟨problem, same.symm, rfl⟩, fun ⟨other, same, found⟩ => found ▸ same.symm⟩

namespace Consistent

theorem failure_iff (consistent : Consistent history life) (published : life.failurePublished)
    (problem : SystemError) :
    life.failure = some problem ↔ life.loop.result? = some (.error problem) := by
  simp [consistent.failed problem, published]

theorem stopAsked_of_no_failure (consistent : Consistent history life)
    (published : life.failurePublished) (unfailed : life.failure = none) : history.stopAsked := by
  have ended : life.loop.result? ≠ none := by
    intro running
    have looping := consistent.looping.2 running
    simp [failurePublished, looping] at published
  cases result : life.loop.result? with
  | none => exact absurd result ended
  | some found =>
    cases found with
    | ok => exact consistent.stopAsked.1 (consistent.stopped result)
    | error problem =>
      have failed := (consistent.failure_iff published problem).2 result
      simp [unfailed] at failed

theorem settled_of_lookup (consistent : Consistent history life) {id : String}
    {result : Except AgentError Unit} (returned : life.returned.lookup id = some result) :
    ∃ request, life.mayReturn request = true ∧ result = life.acceptResult := by
  obtain ⟨before, after, same, _⟩ := List.lookup_eq_some_iff.1 returned
  have there : (id, result) ∈ life.returned := by simp [same]
  rw [← consistent.returned] at there
  obtain ⟨⟨caller, given⟩, noted, found⟩ := List.mem_map.1 there
  obtain rfl : given = result := (Prod.mk.inj found).2
  exact ⟨caller.request, consistent.settled caller given noted⟩

end Consistent

theorem mayReturn_wait {request : Request} (may : life.mayReturn request = true) :
    life.mayReturn .wait = true := by
  cases request with
  | wait => exact may
  | stop =>
    have noTasks : life.tasks = 0 := by simpa [mayReturn] using may
    simp [mayReturn, noTasks]

end SoleKey.Lifecycle
