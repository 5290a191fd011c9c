import SoleKey.Agent
import SoleKey.Proofs.RunningAgent.Consistency

set_option autoImplicit false

namespace SoleKey.RunningAgent

/-- There is no task, and nothing is under way for any connection that there ever was. -/
structure Joined (agent : RunningAgent) : Prop where
  noTasks : agent.life.tasks = 0
  unserved : agent.unfinished = []
  ended : ∀ number ∈ agent.shared.numbers, ∃ connection result,
    agent.shared.find? number = some connection ∧ connection.result? = some result
  unlocked : agent.shared.lock = .free

structure JoinsTasks (session : Session) (history : Lifecycle.History) (agent : RunningAgent) :
    Prop where
  counted : agent.life.tasks = agent.life.loopTask + agent.unfinished.length
  distinct : agent.unfinished.Nodup
  served : ∀ number, agent.shared.Live number → number ∈ agent.unfinished
  stopWaits : ∀ caller result, caller.request = .stop → agent.life.Returns caller result →
    agent.life.tasks = 0
  staysEmpty : agent.life.tasks = 0 → ∀ later, Leads session agent later → later.life.tasks = 0
  joined : ∀ caller result, (caller, result) ∈ history.returned → caller.request = .stop →
    ∀ later, Leads session agent later →
      later.Joined ∧ later.shared.numbers = agent.shared.numbers

variable {session : Session} {socketPath : Option String} {history : Lifecycle.History}
  {agent later : RunningAgent} {event : Event} {step : Step}

theorem Consistent.live_of_waits (consistent : agent.Consistent) {number : Nat}
    (waits : agent.shared.Waits number) : number ∈ agent.unfinished := by
  obtain ⟨connection, found, waiting⟩ := waits
  exact consistent.live number ⟨connection, found, Connection.result?_of_isWaiting waiting⟩

theorem Consistent.unlocked (consistent : agent.Consistent) (shared : agent.shared.Consistent)
    (unserved : agent.unfinished = []) : agent.shared.lock = .free := by
  have nobody (caller : Nat) : caller ∉ agent.shared.callers := by
    intro there
    have unfinished := consistent.live_of_waits (shared.waits caller there)
    simp [unserved] at unfinished
  have noCallers : agent.shared.callers = [] := List.eq_nil_iff_forall_not_mem.2 nobody
  have exclusive := shared.exclusive
  obtain ⟨life, ⟨lock, connections⟩, unfinished⟩ := agent
  cases exclusive with
  | idle waiting =>
    obtain rfl : waiting = [] := by simpa [SharedConnections.callers] using noCallers
    rfl
  | busy waiting work => simp [SharedConnections.callers] at noCallers

theorem Reaches.joined (reached : Reaches session socketPath history agent)
    (noTasks : agent.life.tasks = 0) : agent.Joined := by
  have consistent := reached.consistent
  have lives := reached.life.consistent
  have unserved : agent.unfinished = [] := by
    have unconnected := (lives.finished_of_tasks noTasks).2
    exact List.eq_nil_of_length_eq_zero (consistent.counted ▸ unconnected)
  refine ⟨noTasks, unserved, ?_, consistent.unlocked reached.shared.consistent unserved⟩
  intro number known
  obtain ⟨connection, found⟩ := Option.isSome_iff_exists.1 (SharedConnections.mem_numbers.1 known)
  cases phase : connection.result? with
  | some result => exact ⟨connection, result, found, phase⟩
  | none =>
    have unfinished := consistent.live number ⟨connection, found, phase⟩
    simp [unserved] at unfinished

theorem Transition.joined_next (transition : Transition session agent event step)
    (lives : Lifecycle.Consistent history agent.life) (noTasks : agent.life.tasks = 0) :
    step.2.life.tasks = 0 ∧ step.2.shared.numbers = agent.shared.numbers := by
  cases transition with
  | accepts number connection step moved =>
    -- Only a loop that has not finished accepts, and its own task would be counted.
    have looping := (Lifecycle.transition_of_step? moved).looping_of_loop
    simp [(lives.finished_of_tasks noTasks).1] at looping
  | serves event step inside moved =>
    exact ⟨noTasks, (SharedConnections.transition_of_step? moved).numbers_next inside⟩
  | ends _ _ _ _ _ _ moved | agent _ _ _ _ moved =>
    exact ⟨lives.tasks_next (Lifecycle.transition_of_step? moved) noTasks, rfl⟩

theorem Reaches.joined_later (reached : Reaches session socketPath history agent)
    (noTasks : agent.life.tasks = 0) (leads : Leads session agent later) :
    later.life.tasks = 0 ∧ later.shared.numbers = agent.shared.numbers := by
  induction leads with
  | refl => exact ⟨noTasks, rfl⟩
  | tail leads moved ih =>
    obtain ⟨known, there⟩ := reached.leads leads
    obtain ⟨event, effects, moved⟩ := moved
    obtain ⟨empty, same⟩ := (transition_of_step? moved).joined_next there.life.consistent ih.1
    exact ⟨empty, same.trans ih.2⟩

theorem stop_joins_tasks (reached : Reaches session socketPath history agent) :
    JoinsTasks session history agent := by
  have consistent := reached.consistent
  have lives := reached.life.consistent
  have stopWaits (caller : Lifecycle.Caller) (stop : caller.request = .stop)
      (may : agent.life.mayReturn caller.request = true) : agent.life.tasks = 0 := by
    simpa [Lifecycle.mayReturn, stop] using may
  exact
    { counted := lives.counted.trans (by rw [consistent.counted])
      distinct := consistent.distinct
      served := consistent.live
      stopWaits := fun caller result stop returns =>
        stopWaits caller stop (Lifecycle.returns_iff.1 returns).2.1
      staysEmpty := fun noTasks later leads => (reached.joined_later noTasks leads).1
      joined := by
        intro caller result returned stop later leads
        have noTasks := stopWaits caller stop (lives.settled caller result returned).1
        obtain ⟨known, there⟩ := reached.leads leads
        obtain ⟨empty, same⟩ := reached.joined_later noTasks leads
        exact ⟨there.joined empty, same⟩ }

-- Accepting fails while a client is connected; the call to stop waits for its request to list.
theorem stop_joins_after_failure :
    let problem := SystemError.described .other "listener broken"
    let stop : Lifecycle.Caller := ⟨"stop", .stop⟩
    let history : Lifecycle.History :=
      ⟨[stop], [(stop, .error (.accept problem))], [problem], false⟩
    ∃ agent, Reaches (Session.ofAgent Agent.overStoredKey) none history agent ∧
      agent.shared.numbers = [1] ∧
      JoinsTasks (Session.ofAgent Agent.overStoredKey) history agent := by
  intro problem stop history
  have reached : Reaches (Session.ofAgent Agent.overStoredKey) none history _ :=
    Reaches.start.replay
      [.accepts 1 (Connection.start .unlimited),
        .agent (.loop (.outcome false (.error problem))),
        .agent .removeSocket, .agent .publish, .agent .finishLoop, .agent (.call stop),
        .serves (.client 1 (.sends (.bytes [0, 0, 0, 1, 11]))), .serves (.polls 1),
        .serves (.works .grant),
        .serves (.works (.load 1 .crashed ⟨.ok (), fun _ _ _ => .error .keyMismatch, .ok ()⟩)),
        .serves (.works (.finish 1)),
        .serves (.client 1 (.sends .finished)), .serves (.polls 1), .ends 1,
        .agent (.callReturns "stop")] rfl
  exact ⟨_, reached, rfl, stop_joins_tasks reached⟩

end SoleKey.RunningAgent
