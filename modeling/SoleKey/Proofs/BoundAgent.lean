import SoleKey.BoundAgent
import SoleKey.Proofs.Binding
import SoleKey.Proofs.Lifecycle.History
import Mathlib.Logic.Relation

set_option autoImplicit false

namespace SoleKey

namespace Lifecycle

variable {life : Lifecycle} {event : Event} {step : Step}

def socketStands (life : Lifecycle) : Prop :=
  life.stage = .looping ∨ life.stage = .listenerClosed

namespace Transition

theorem socketPath_next (transition : Transition life event step) :
    step.next.socketPath = life.socketPath := by
  cases transition <;> rfl

theorem isLog (transition : Transition life event step) (apart : event ≠ .removeSocket) :
    ∀ effect ∈ step.effects, effect.isLog = true := by
  cases transition with
  | removeSocket => exact absurd rfl apart
  | loopGoesOn _ _ _ move | loopEnds _ _ _ _ move => exact move.isLog
  | callReturns caller =>
    cases request : caller.request <;> simp [endCall, returnLine, request]
  | publishFailure | publishNothing | finishLoop | connectionEnds | asksToStop | joins | dropped =>
    simp

theorem socketStands_next (transition : Transition life event step)
    (apart : event ≠ .removeSocket) : step.next.socketStands ↔ life.socketStands := by
  cases transition with
  | removeSocket => exact absurd rfl apart
  | loopGoesOn _ _ looping | loopEnds _ _ _ looping => simp [socketStands, afterLoop, looping]
  | publishFailure _ removed | publishNothing removed => simp [socketStands, removed]
  | finishLoop published => simp [socketStands, published]
  | connectionEnds | asksToStop | joins | callReturns | dropped => exact Iff.rfl

end Transition

end Lifecycle

namespace BoundAgent

variable {path : String} {listener : Nat} {history : Lifecycle.History} {agent later : BoundAgent}

def noted (history : Lifecycle.History) (agent : BoundAgent) (event : Lifecycle.Event)
    (next : BoundAgent) : Lifecycle.History :=
  history.note agent.life event next.life

/-- Where an agent can get to while nobody else touches the path of its socket. -/
inductive Reaches (path : String) (listener : Nat) : Lifecycle.History → BoundAgent → Prop where
  | start {files : FileSystem} (bound : (Binding.perform files path listener).result = .ok ()) :
      Reaches path listener .empty (.start (Binding.perform files path listener).files path)
  | next {history : Lifecycle.History} {agent : BoundAgent} {event : Lifecycle.Event}
      {effects : List Effect} {next : BoundAgent} (reached : Reaches path listener history agent)
      (moved : agent.step? event = some (effects, next)) :
      Reaches path listener (noted history agent event next) next
  | elsewhere {history : Lifecycle.History} {agent : BoundAgent} {files : FileSystem}
      (reached : Reaches path listener history agent)
      (alone : FileSystem.LeavesAlone path agent.files files) :
      Reaches path listener history { agent with files := files }

def Leads (path : String) : BoundAgent → BoundAgent → Prop :=
  Relation.ReflTransGen fun agent next =>
    (∃ event effects, agent.step? event = some (effects, next)) ∨
      ∃ files, FileSystem.LeavesAlone path agent.files files ∧ next = { agent with files := files }

structure Consistent (path : String) (listener : Nat) (agent : BoundAgent) : Prop where
  socketPath : agent.life.socketPath = some path
  stands : agent.life.socketStands → agent.files.HasSocket path listener
  removed : ¬agent.life.socketStands → agent.files.Vacant path

theorem Reaches.life (reached : Reaches path listener history agent) :
    Lifecycle.Reaches (some path) history agent.life := by
  induction reached with
  | start => exact .start
  | elsewhere reached alone lives => exact lives
  | next reached moved lives =>
    obtain ⟨step, moves, done⟩ := Option.map_eq_some_iff.1 moved
    obtain ⟨rfl, rfl⟩ := Prod.mk.inj done
    exact lives.next moves

theorem Consistent.next (consistent : agent.Consistent path listener) {event : Lifecycle.Event}
    {step : Lifecycle.Step} (transition : Lifecycle.Transition agent.life event step) :
    Consistent path listener ⟨step.next, Binding.carryOut agent.files step.effects⟩ := by
  have socketPath := transition.socketPath_next.trans consistent.socketPath
  by_cases removes : event = .removeSocket
  · subst removes
    cases transition with
    | removeSocket closed =>
      have stands := consistent.stands (.inr closed)
      have carried : Binding.carryOut agent.files (Lifecycle.cleanUp agent.life.socketPath) =
          Binding.release agent.files path := by
        rw [consistent.socketPath]
        rfl
      exact
        { socketPath := socketPath
          stands := by simp [Lifecycle.socketStands]
          removed := fun _ => carried ▸ stands.release }
  · have same : Binding.carryOut agent.files step.effects = agent.files :=
      Binding.carryOut_of_isLog (transition.isLog removes)
    have stage := transition.socketStands_next removes
    rw [same]
    exact
      { socketPath := socketPath
        stands := fun stands => consistent.stands (stage.1 stands)
        removed := fun gone => consistent.removed fun stands => gone (stage.2 stands) }

theorem Reaches.consistent (reached : Reaches path listener history agent) :
    agent.Consistent path listener := by
  induction reached with
  | start bound =>
    exact
      { socketPath := rfl
        stands := fun _ => Binding.hasSocket_of_perform bound
        removed := fun gone => absurd (.inl rfl) gone }
  | next reached moved consistent =>
    obtain ⟨step, moves, done⟩ := Option.map_eq_some_iff.1 moved
    obtain ⟨rfl, rfl⟩ := Prod.mk.inj done
    exact consistent.next (Lifecycle.transition_of_step? moves)
  | elsewhere reached alone consistent =>
    exact
      { socketPath := consistent.socketPath
        stands := fun stands => (consistent.stands stands).leftAlone alone
        removed := fun gone => (consistent.removed gone).leftAlone alone }

theorem Reaches.leads (reached : Reaches path listener history agent)
    (leads : Leads path agent later) : ∃ known, Reaches path listener known later := by
  induction leads with
  | refl => exact ⟨history, reached⟩
  | tail _ moved ih =>
    obtain ⟨known, reached⟩ := ih
    cases moved with
    | inl moves =>
      obtain ⟨event, effects, moved⟩ := moves
      exact ⟨_, reached.next moved⟩
    | inr touches =>
      obtain ⟨files, alone, rfl⟩ := touches
      exact ⟨known, reached.elsewhere alone⟩

def Answered (history : Lifecycle.History) (agent : BoundAgent) (caller : Lifecycle.Caller)
    (result : Except AgentError Unit) : Prop :=
  (caller, result) ∈ history.returned ∨ agent.life.Returns caller result

structure EndsInOrder (path : String) (listener : Nat) (history : Lifecycle.History)
    (agent : BoundAgent) : Prop where
  publishedOnce : history.published = agent.life.failure.toList
  failureLasts : ∀ problem, agent.life.failure = some problem →
    ∀ later, Leads path agent later → later.life.failure = some problem
  cleanBeforeFailure : agent.life.failure ≠ none →
    agent.life.listening = false ∧ agent.files.isPresent path = false
  closedBeforeClean : agent.life.listening = true → agent.files.listenerAt path = .ok listener
  cleanBeforeReturn : ∀ caller result, Answered history agent caller result →
    agent.life.listening = false ∧ agent.files.isPresent path = false
  waitFails : ∀ caller result, caller.request = .wait → Answered history agent caller result →
    ∀ error, result = .error error ↔
      ∃ problem, error = .accept problem ∧ agent.life.failure = some problem
  waitFailsAtOnce : ∀ caller problem, caller.request = .wait → agent.life.failure = some problem →
    agent.life.callers.find? (·.id = caller.id) = some caller →
    agent.life.Returns caller (.error (.accept problem))
  waitSucceeds : ∀ caller, caller.request = .wait → Answered history agent caller (.ok ()) →
    agent.life.tasks = 0 ∧ agent.life.connections = 0 ∧ history.stopAsked
  onlyStopAsks : agent.life.stopping = true ↔ history.stopAsked
  stopFails : ∀ caller result, caller.request = .stop → Answered history agent caller result →
    ∀ error, result = .error error ↔
      ∃ problem, error = .accept problem ∧ agent.life.loop.result? = some (.error problem)
  sameAnswer : ∀ first second one other, Answered history agent first one →
    Answered history agent second other → one = other

theorem Answered.settled {caller : Lifecycle.Caller} {result : Except AgentError Unit}
    (answered : Answered history agent caller result)
    (lives : Lifecycle.Consistent history agent.life) :
    agent.life.mayReturn caller.request = true ∧ result = agent.life.acceptResult := by
  cases answered with
  | inl returned => exact lives.settled caller result returned
  | inr returns => exact (Lifecycle.returns_iff.1 returns).2

theorem Reaches.failure_later (reached : Reaches path listener history agent)
    {problem : SystemError} (failed : agent.life.failure = some problem)
    (leads : Leads path agent later) : later.life.failure = some problem := by
  induction leads with
  | refl => exact failed
  | tail leads moved ih =>
    obtain ⟨known, there⟩ := reached.leads leads
    cases moved with
    | inr touches =>
      obtain ⟨files, _, rfl⟩ := touches
      exact ih
    | inl moves =>
      obtain ⟨event, effects, moved⟩ := moves
      obtain ⟨step, happened, done⟩ := Option.map_eq_some_iff.1 moved
      obtain ⟨rfl, rfl⟩ := Prod.mk.inj done
      have kept := there.life.consistent.failure_next (Lifecycle.transition_of_step? happened)
        (.inl (by simp [ih]))
      exact kept.trans ih

theorem Reaches.clean (reached : Reaches path listener history agent)
    (published : agent.life.failurePublished) :
    agent.life.listening = false ∧ agent.files.isPresent path = false := by
  have ended : agent.life.stage ≠ .looping ∧ agent.life.stage ≠ .listenerClosed := by
    cases published <;> simp_all
  have gone : ¬agent.life.socketStands := fun stands => stands.elim ended.1 ended.2
  exact ⟨by simpa [Lifecycle.listening] using ended.1, (reached.consistent.removed gone).absent⟩

theorem ends_in_order (reached : Reaches path listener history agent) :
    EndsInOrder path listener history agent := by
  have lives := reached.life.consistent
  have finished (joined : agent.life.tasks = 0) : agent.life.failurePublished :=
    .inr (lives.finished_of_tasks joined).1
  have published {problem : SystemError} (failed : agent.life.failure = some problem) :
      agent.life.failurePublished := ((lives.failed problem).1 failed).1
  -- Whoever may return does so after the socket was removed, and with what was published.
  have woundUp {request : Lifecycle.Request} (may : agent.life.mayReturn request = true) :
      agent.life.failurePublished := by
    cases request with
    | stop => exact finished (by simpa [Lifecycle.mayReturn] using may)
    | wait =>
      cases failed : agent.life.failure with
      | some problem => exact published failed
      | none => exact finished (by simpa [Lifecycle.mayReturn, failed] using may)
  exact
    { publishedOnce := lives.published
      failureLasts := fun problem failed later leads => reached.failure_later failed leads
      cleanBeforeFailure := by
        intro failed
        obtain ⟨problem, found⟩ := Option.ne_none_iff_exists'.1 failed
        exact reached.clean (published found)
      closedBeforeClean := by
        intro listening
        have looping : agent.life.stage = .looping := by simpa [Lifecycle.listening] using listening
        exact (reached.consistent.stands (.inl looping)).listenerAt
      cleanBeforeReturn := fun caller result answered =>
        reached.clean (woundUp (answered.settled lives).1)
      waitFails := by
        intro caller result _ answered error
        rw [(answered.settled lives).2]
        exact Lifecycle.acceptResult_eq_error_iff
      waitFailsAtOnce := by
        intro caller problem wait failed pending
        have given : agent.life.acceptResult = .error (.accept problem) :=
          Lifecycle.acceptResult_eq_error_iff.2 ⟨problem, rfl, failed⟩
        exact Lifecycle.returns_iff.2
          ⟨pending, by simp [Lifecycle.mayReturn, wait, failed], given.symm⟩
      waitSucceeds := by
        intro caller wait answered
        obtain ⟨may, given⟩ := answered.settled lives
        have unfailed : agent.life.failure = none := by
          cases failed : agent.life.failure with
          | none => rfl
          | some problem => simp [Lifecycle.acceptResult, failed] at given
        have joined : agent.life.tasks = 0 := by
          simpa [Lifecycle.mayReturn, wait, unfailed] using may
        exact ⟨joined, (lives.finished_of_tasks joined).2,
          lives.stopAsked_of_no_failure (finished joined) unfailed⟩
      onlyStopAsks := lives.stopAsked
      stopFails := by
        intro caller result _ answered error
        obtain ⟨may, given⟩ := answered.settled lives
        rw [given, Lifecycle.acceptResult_eq_error_iff]
        simp only [lives.failure_iff (woundUp may)]
      sameAnswer := by
        intro first second one other answered again
        exact (answered.settled lives).2.trans (again.settled lives).2.symm }

theorem Reaches.replay (reached : Reaches path listener history agent)
    (events : List Lifecycle.Event) {known : Lifecycle.History}
    (replayed : Lifecycle.History.replay step? noted events history agent = some (known, later)) :
    Reaches path listener known later := by
  apply Lifecycle.History.holds_of_replay _ events reached replayed
  intro history agent event effects next reached moved
  exact reached.next moved

-- Accepting fails with a client connected: a call to wait has failed, one to stop still waits.
theorem ends_in_order_after_failure :
    let problem := SystemError.described .other "listener broken"
    let wait : Lifecycle.Caller := ⟨"wait", .wait⟩
    let stop : Lifecycle.Caller := ⟨"stop", .stop⟩
    let history : Lifecycle.History :=
      ⟨[wait, stop], [(wait, .error (.accept problem))], [problem], false⟩
    ∃ agent, Reaches "agent.sock" 7 history agent ∧ agent.life.connections = 1 ∧
      agent.life.callers = [stop] ∧ EndsInOrder "agent.sock" 7 history agent := by
  intro problem wait stop history
  have bound : (Binding.perform (.empty 0o022) "agent.sock" 7).result = .ok () := rfl
  have reached : Reaches "agent.sock" 7 history _ := (Reaches.start bound).replay
    [.call wait, .loop (.outcome false (.ok ())), .loop (.outcome false (.error problem)),
      .removeSocket, .call stop, .publish, .callReturns "wait"] rfl
  exact ⟨_, reached, rfl, rfl, ends_in_order reached⟩

end BoundAgent

end SoleKey
