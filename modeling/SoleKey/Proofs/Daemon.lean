import SoleKey.Daemon.Program
import SoleKey.Proofs.BoundAgent
import SoleKey.Proofs.Machine.History

set_option autoImplicit false

namespace SoleKey

namespace Daemon

variable {path : String} {listener : Nat} {events : List Event} {daemon : Daemon} {event : Event}
  {step : Step} {result : Except AgentError Unit}

theorem life_beginStop (daemon : Daemon) (signal : StopSignal) :
    (daemon.beginStop signal).next.life =
      { daemon.life with
        callers := daemon.life.callers ++ [stopCall]
        loop := { daemon.life.loop with shutdown := true } } :=
  Lifecycle.beginCall_stop rfl

inductive Transition (daemon : Daemon) : Event → Step → Prop where
  | agent (event : Lifecycle.Event) (moved : Lifecycle.Step)
      (byItself : happensByItself event = true) (moves : daemon.life.step? event = some moved) :
      Transition daemon (.agent event)
        ⟨moved.effects,
          { daemon with life := moved.next, files := Binding.carryOut daemon.files moved.effects }⟩
  | signalled (signal : StopSignal)
      (watched : signal = .interrupt → daemon.watchesInterrupt = true) :
      Transition daemon (.signalled signal)
        ⟨[], { daemon with pending := daemon.pending ++ [signal] }⟩
  | killed (unwatched : daemon.watchesInterrupt = false) :
      Transition daemon (.signalled .interrupt) ⟨[], { daemon with phase := .killed }⟩
  | watches (waiting : daemon.phase = .waiting) :
      Transition daemon .watches ⟨[], { daemon with watchesInterrupt := true }⟩
  | noticesSignal (signal : StopSignal) (waiting : daemon.phase = .waiting)
      (arrived : signal ∈ daemon.pending) :
      Transition daemon (.noticesSignal signal) (daemon.beginStop signal)
  | noticesEnd (waiting : daemon.phase = .waiting) (may : daemon.life.mayReturn .wait = true) :
      Transition daemon .noticesEnd (daemon.exit daemon.life.acceptResult)
  | noticesStop (result : Except AgentError Unit) (stopping : daemon.phase = .stopping)
      (returned : daemon.life.returned.lookup stopCall.id = some result) :
      Transition daemon .noticesStop (daemon.exit result)

theorem transition_of_agent {event : Lifecycle.Event}
    (moved : daemon.step? (.agent event) = some step) : Transition daemon (.agent event) step := by
  obtain ⟨agent, phase, pending, watches⟩ := daemon
  cases phase with
  | exited | killed => simp [step?] at moved
  | waiting | stopping =>
    by_cases byItself : happensByItself event = true
    · simp only [step?, if_pos byItself, BoundAgent.step?, Option.map_map,
        Option.map_eq_some_iff] at moved
      obtain ⟨found, moves, rfl⟩ := moved
      exact .agent event found byItself moves
    · simp [step?, byItself] at moved

theorem transition_of_receive (daemon : Daemon) (signal : StopSignal) :
    Transition daemon (.signalled signal) ⟨[], daemon.receive signal⟩ := by
  unfold receive
  split
  case isTrue early =>
    obtain ⟨rfl, unwatched⟩ := early
    exact .killed (by simpa using unwatched)
  case isFalse late => exact .signalled signal (by simpa using late)

theorem isRunning_of_step? (moved : daemon.step? event = some step) :
    daemon.isRunning = true := by
  cases phase : daemon.phase with
  | exited | killed => simp [step?, phase] at moved
  | waiting | stopping => simp [isRunning, phase]

theorem not_exited (running : daemon.isRunning = true) (result : Except AgentError Unit) :
    daemon.phase ≠ .exited result := by
  intro exited
  simp [isRunning, exited] at running

theorem not_killed (running : daemon.isRunning = true) : daemon.phase ≠ .killed := by
  intro killed
  simp [isRunning, killed] at running

theorem transition_of_step? (moved : daemon.step? event = some step) :
    Transition daemon event step := by
  cases event with
  | agent event => exact transition_of_agent moved
  | signalled signal =>
    have received : step = ⟨[], daemon.receive signal⟩ := by
      cases phase : daemon.phase <;> simp_all [step?]
    exact received ▸ transition_of_receive daemon signal
  | watches =>
    cases phase : daemon.phase <;> simp [step?, phase] at moved
    simpa [phase, moved] using Transition.watches phase
  | noticesSignal signal =>
    cases phase : daemon.phase <;> simp [step?, phase] at moved
    obtain ⟨arrived, rfl⟩ := moved
    exact .noticesSignal signal phase arrived
  | noticesEnd =>
    cases phase : daemon.phase <;> simp [step?, phase] at moved
    obtain ⟨may, rfl⟩ := moved
    exact .noticesEnd phase may
  | noticesStop =>
    cases phase : daemon.phase <;> simp [step?, phase] at moved
    obtain ⟨result, returned, rfl⟩ := moved
    exact .noticesStop result phase returned

/-- Where a daemon can get to while nobody else touches the path of its socket. -/
inductive Reaches (path : String) (listener : Nat) : List Event → Daemon → Prop where
  | start {files : FileSystem} (bound : (Binding.perform files path listener).result = .ok ()) :
      Reaches path listener [] (.start path (Binding.perform files path listener).files)
  | next {events : List Event} {daemon : Daemon} {event : Event} {step : Step}
      (reached : Reaches path listener events daemon) (moved : daemon.step? event = some step) :
      Reaches path listener (events ++ [event]) step.next
  | elsewhere {events : List Event} {daemon : Daemon} {files : FileSystem}
      (reached : Reaches path listener events daemon)
      (alone : FileSystem.LeavesAlone path daemon.files files) :
      Reaches path listener events { daemon with files := files }

theorem Transition.agent_next (transition : Transition daemon event step) :
    step.next.toBoundAgent = daemon.toBoundAgent ∨
      ∃ event effects,
        daemon.toBoundAgent.step? event = some (effects, step.next.toBoundAgent) := by
  cases transition with
  | agent event moved _ moves =>
    exact .inr ⟨event, moved.effects, by simp [BoundAgent.step?, moves]⟩
  | signalled | killed | watches | noticesEnd | noticesStop => exact .inl rfl
  | noticesSignal signal =>
    -- To begin to stop is only logged.
    have logs := (Lifecycle.transition_of_call daemon.life stopCall).isLog nofun
    have same : Binding.carryOut daemon.files (daemon.life.beginCall stopCall).effects =
        daemon.files := Binding.carryOut_of_isLog logs
    have moves : daemon.toBoundAgent.step? (.call stopCall) =
        some ((daemon.life.beginCall stopCall).effects,
          (daemon.beginStop signal).next.toBoundAgent) := by
      simp [BoundAgent.step?, Lifecycle.step?, same, beginStop]
    exact .inr ⟨_, _, moves⟩

theorem Reaches.agent (reached : Reaches path listener events daemon) :
    ∃ history, BoundAgent.Reaches path listener history daemon.toBoundAgent := by
  induction reached with
  | start bound => exact ⟨_, .start bound⟩
  | elsewhere reached alone ih =>
    obtain ⟨history, known⟩ := ih
    exact ⟨history, known.elsewhere alone⟩
  | next reached moved ih =>
    obtain ⟨history, known⟩ := ih
    cases (transition_of_step? moved).agent_next with
    | inl same => exact ⟨history, same ▸ known⟩
    | inr moves =>
      obtain ⟨event, effects, moves⟩ := moves
      exact ⟨_, known.next moves⟩

def noticed (events : List Event) : Prop :=
  ∃ signal, Event.noticesSignal signal ∈ events

def HappenedWhile (still : List Event → Prop) (event : Event) (events : List Event) : Prop :=
  ∃ before, still before ∧ before ++ [event] <+: events

/-- The listener failed for good before the daemon asked its agent to stop. -/
def FailedFatally (events : List Event) (problem : SystemError) : Prop :=
  problem.isTransient = false ∧
    HappenedWhile (¬noticed ·) (.agent (.loop (.outcome false (.error problem)))) events

/-- SIGINT came before the daemon had looked for it. -/
def InterruptedEarly : List Event → Prop :=
  HappenedWhile (.watches ∉ ·) (.signalled .interrupt)

def Event.accepts : Event → Bool
  | .agent (.loop (.outcome _ (.ok ()))) => true
  | _ => false

def Event.clientLeaves : Event → Bool
  | .agent .connectionEnds => true
  | _ => false

theorem noticed_append : noticed (events ++ [event]) ↔
    noticed events ∨ ∃ signal, event = .noticesSignal signal := by
  simp only [noticed, List.mem_append, List.mem_singleton, exists_or, eq_comm]

theorem happenedWhile_append {still : List Event → Prop} {other : Event} :
    HappenedWhile still other (events ++ [event]) ↔
      HappenedWhile still other events ∨ event = other ∧ still events := by
  simp only [HappenedWhile, List.prefix_concat_iff]
  constructor
  · rintro ⟨before, held, same | starts⟩
    · obtain ⟨rfl, last⟩ := List.append_inj' same rfl
      exact .inr ⟨(List.singleton_inj.1 last).symm, held⟩
    · exact .inl ⟨before, held, starts⟩
  · rintro (⟨before, held, starts⟩ | ⟨rfl, held⟩)
    · exact ⟨before, held, .inr starts⟩
    · exact ⟨events, held, .inl rfl⟩

theorem failedFatally_append {problem : SystemError} :
    FailedFatally (events ++ [event]) problem ↔
      FailedFatally events problem ∨
        event = .agent (.loop (.outcome false (.error problem))) ∧ problem.isTransient = false ∧
          ¬noticed events := by
  rw [FailedFatally, FailedFatally, happenedWhile_append]
  tauto

structure Traced (events : List Event) (daemon : Daemon) : Prop where
  arrived : ∀ signal, signal ∈ daemon.pending ∨ .noticesSignal signal ∈ events →
    .signalled signal ∈ events
  stopping : daemon.life.stopping = true ↔ noticed events
  failed : ∀ problem, daemon.life.loop.result? = some (.error problem) ↔
    FailedFatally events problem
  clients : events.countP Event.accepts =
    events.countP Event.clientLeaves + daemon.life.connections
  watches : daemon.watchesInterrupt = true ↔ .watches ∈ events
  killed : daemon.phase = .killed ↔ InterruptedEarly events

theorem accepts_of_move {loop : AcceptLoop} {event : AcceptLoop.Event} {step : AcceptLoop.Step}
    (move : loop.Move event step) : Event.accepts (.agent (.loop event)) = step.spawns := by
  cases move <;> rfl

namespace Traced

theorem arrived_next (traced : Traced events daemon) (transition : Transition daemon event step)
    (signal : StopSignal)
    (there : signal ∈ step.next.pending ∨ .noticesSignal signal ∈ events ++ [event]) :
    .signalled signal ∈ events ++ [event] := by
  have arrived := traced.arrived signal
  rw [List.mem_append, List.mem_singleton] at there ⊢
  cases transition with
  | agent | killed | watches | noticesEnd | noticesStop =>
    exact .inl (arrived (by simpa [exit] using there))
  | signalled other =>
    rw [List.mem_append, List.mem_singleton] at there
    by_cases same : signal = other
    · exact .inr (congrArg _ same)
    · exact .inl (arrived (by simpa [same] using there))
  | noticesSignal other _ pending =>
    by_cases same : signal = other
    · exact .inl (arrived (.inl (same ▸ pending)))
    · exact .inl (arrived (by simpa [beginStop, same] using there))

theorem stopping_next (traced : Traced events daemon) (transition : Transition daemon event step) :
    step.next.life.stopping = true ↔ noticed (events ++ [event]) := by
  have stopping := traced.stopping
  rw [noticed_append]
  cases transition with
  | agent event moved byItself moves =>
    have kept : moved.next.stopping = daemon.life.stopping := by
      cases Lifecycle.transition_of_step? moves with
      | loopGoesOn _ _ _ move | loopEnds _ _ _ _ move => exact move.shutdown_next
      | asksToStop | joins | dropped => simp [happensByItself] at byItself
      | removeSocket | publishFailure | publishNothing | finishLoop | connectionEnds |
          callReturns => rfl
    simpa [kept] using stopping
  | noticesSignal signal =>
    simp [life_beginStop, Lifecycle.stopping]
  | signalled | killed | watches | noticesEnd | noticesStop => simpa [exit] using stopping

theorem failed_next (traced : Traced events daemon) (transition : Transition daemon event step)
    (problem : SystemError) :
    step.next.life.loop.result? = some (.error problem) ↔
      FailedFatally (events ++ [event]) problem := by
  have failed := traced.failed problem
  rw [failedFatally_append]
  cases transition with
  | agent event moved byItself moves =>
    cases Lifecycle.transition_of_step? moves with
    | loopGoesOn event after _ move | loopEnds event after _ _ move =>
      -- A loop that moves has not failed so far.
      have unfailed : ¬FailedFatally events problem := by
        rw [← failed, move.running]
        simp
      have early : daemon.life.loop.shutdown = false ↔ ¬noticed events := by
        rw [← traced.stopping, Bool.not_eq_true]
        rfl
      simp only [unfailed, false_or, Event.agent.injEq, Lifecycle.Event.loop.injEq, ← early]
      exact move.result_error_iff problem
    | asksToStop | joins | dropped => simp [happensByItself] at byItself
    | removeSocket | publishFailure | publishNothing | finishLoop | connectionEnds |
        callReturns => simpa [Lifecycle.endCall] using failed
  | noticesSignal signal =>
    simpa [life_beginStop, AcceptLoop.result?] using failed
  | signalled | killed | watches | noticesEnd | noticesStop => simpa [exit] using failed

theorem clients_next (traced : Traced events daemon) (transition : Transition daemon event step) :
    (events ++ [event]).countP Event.accepts =
      (events ++ [event]).countP Event.clientLeaves + step.next.life.connections := by
  have clients := traced.clients
  simp only [List.countP_append, List.countP_singleton]
  cases transition with
  | agent event moved byItself moves =>
    cases Lifecycle.transition_of_step? moves with
    | loopGoesOn event after _ move | loopEnds event after _ _ move =>
      simp only [accepts_of_move move, Event.clientLeaves, Lifecycle.afterLoop, Lifecycle.spawned]
      simp only [Bool.false_eq_true, if_false]
      omega
    | connectionEnds live =>
      simp only [Event.accepts, Event.clientLeaves]
      simp only [Bool.false_eq_true, if_false, if_true]
      omega
    | asksToStop | joins | dropped => simp [happensByItself] at byItself
    | removeSocket | publishFailure | publishNothing | finishLoop | callReturns =>
      simpa [Event.accepts, Event.clientLeaves, Lifecycle.endCall] using clients
  | noticesSignal signal =>
    simpa [Event.accepts, Event.clientLeaves, life_beginStop] using clients
  | signalled | killed | watches | noticesEnd | noticesStop =>
    simpa [Event.accepts, Event.clientLeaves, exit] using clients

theorem watches_next (traced : Traced events daemon) (transition : Transition daemon event step) :
    step.next.watchesInterrupt = true ↔ .watches ∈ events ++ [event] := by
  have watches := traced.watches
  rw [List.mem_append, List.mem_singleton]
  cases transition with
  | watches => simp
  | agent | signalled | killed | noticesSignal | noticesEnd | noticesStop =>
    simpa [beginStop, exit] using watches

theorem killed_next (traced : Traced events daemon) (running : daemon.isRunning = true)
    (transition : Transition daemon event step) :
    step.next.phase = .killed ↔ InterruptedEarly (events ++ [event]) := by
  have alive := not_killed running
  have late : ¬InterruptedEarly events := mt traced.killed.2 alive
  rw [InterruptedEarly, happenedWhile_append, ← InterruptedEarly]
  cases transition with
  | signalled signal watched =>
    have seen : signal = .interrupt → .watches ∈ events := traced.watches.1 ∘ watched
    simpa [late, alive] using seen
  | killed unwatched =>
    have unseen : .watches ∉ events := by simp [← traced.watches, unwatched]
    simp [unseen]
  | agent | watches | noticesSignal | noticesEnd | noticesStop =>
    simp [late, alive, beginStop, exit]

theorem next (traced : Traced events daemon) (running : daemon.isRunning = true)
    (transition : Transition daemon event step) : Traced (events ++ [event]) step.next where
  arrived := traced.arrived_next transition
  stopping := traced.stopping_next transition
  failed := traced.failed_next transition
  clients := traced.clients_next transition
  watches := traced.watches_next transition
  killed := traced.killed_next running transition

end Traced

theorem Reaches.traced (reached : Reaches path listener events daemon) :
    Traced events daemon := by
  induction reached with
  | start bound =>
    exact
      { arrived := by simp [Daemon.start]
        stopping := by
          simp [Daemon.start, BoundAgent.start, Lifecycle.start, Lifecycle.stopping, noticed]
        failed := by
          simp [Daemon.start, BoundAgent.start, Lifecycle.start, AcceptLoop.result?, FailedFatally,
            HappenedWhile]
        clients := rfl
        watches := by simp [Daemon.start]
        killed := by simp [Daemon.start, InterruptedEarly, HappenedWhile] }
  | next reached moved traced =>
    exact traced.next (isRunning_of_step? moved) (transition_of_step? moved)
  | elsewhere reached alone traced =>
    exact
      { arrived := traced.arrived
        stopping := traced.stopping
        failed := traced.failed
        clients := traced.clients
        watches := traced.watches
        killed := traced.killed }

theorem Reaches.settled (reached : Reaches path listener events daemon)
    (exited : daemon.phase = .exited result) :
    daemon.life.mayReturn .wait = true ∧ result = daemon.life.acceptResult := by
  induction reached with
  | start bound => simp [Daemon.start] at exited
  | elsewhere reached alone ih => exact ih exited
  | next reached moved ih =>
    have unfinished := not_exited (isRunning_of_step? moved) result
    cases transition_of_step? moved with
    | agent | signalled | watches => exact absurd exited unfinished
    | killed => cases exited
    | noticesSignal => simp [beginStop] at exited
    | noticesEnd waiting may =>
      obtain rfl : result = _ := (Phase.exited.inj exited).symm
      exact ⟨may, rfl⟩
    | noticesStop given stopping returned =>
      obtain rfl : result = given := (Phase.exited.inj exited).symm
      obtain ⟨history, known⟩ := reached.agent
      obtain ⟨request, may, same⟩ := known.life.consistent.settled_of_lookup returned
      exact ⟨Lifecycle.mayReturn_wait may, same⟩

def exitCode : Except AgentError Unit → Nat
  | .ok () => 0
  | .error _ => 1

/-- What the exit of a daemon says, and what is done by then. -/
structure Verdict (path : String) (events : List Event) (daemon : Daemon)
    (result : Except AgentError Unit) : Prop where
  succeeds : result = .ok () ↔ ∀ problem, ¬FailedFatally events problem
  fails : ∀ error, result = .error error ↔
    ∃ problem, error = .accept problem ∧ FailedFatally events problem
  loopFails : ∀ problem, FailedFatally events problem ↔
    daemon.life.loop.result? = some (.error problem)
  signalled : result = .ok () → ∃ signal, .signalled signal ∈ events
  clientsGone : (∀ problem, ¬FailedFatally events problem) → daemon.life.tasks = 0 ∧
    events.countP Event.accepts = events.countP Event.clientLeaves
  clean : daemon.files.isPresent path = false

/-- How the process of a daemon ends. One that is killed does not exit, and cleans up nothing. -/
structure Ends (path : String) (listener : Nat) (events : List Event) (daemon : Daemon) : Prop where
  exits : ∀ result, daemon.phase = .exited result → Verdict path events daemon result
  code : ∀ (program : Program) (agent code : Nat),
    (program.adopt agent daemon).state = .ended (.exited code) ↔
      ∃ result, daemon.phase = .exited result ∧ code = exitCode result
  killed : ∀ (program : Program) (agent signal : Nat),
    (program.adopt agent daemon).state = .ended (.killed signal) ↔
      signal = 2 ∧ InterruptedEarly events
  leavesSocket : InterruptedEarly events → daemon.life.socketStands →
    daemon.files.HasSocket path listener

def replay (daemon : Daemon) : List Event → Option Daemon
  | [] => some daemon
  | event :: rest => do
    let step ← daemon.step? event
    step.next.replay rest

theorem Reaches.replay {later : Daemon} (reached : Reaches path listener events daemon)
    (moves : List Event) (replayed : daemon.replay moves = some later) :
    Reaches path listener (events ++ moves) later := by
  induction moves generalizing events daemon with
  | nil =>
    obtain rfl := Option.some.inj replayed
    rwa [List.append_nil]
  | cons event rest ih =>
    obtain ⟨step, moved, replayed⟩ := Option.bind_eq_some_iff.1 replayed
    have further := ih (reached.next moved) replayed
    rwa [List.append_assoc] at further

-- A client is connected when the signal comes, and leaves before the daemon exits.
example : ((Daemon.start "agent.sock" (.empty 0o022)).replay
    [.watches, .agent (.loop (.outcome false (.ok ()))), .signalled .interrupt,
      .noticesSignal .interrupt, .agent (.loop .notice), .agent .removeSocket, .agent .publish,
      .agent .finishLoop, .agent .connectionEnds, .agent (.callReturns "daemon"),
      .noticesStop]).map (·.phase) = some (.exited (.ok ())) := rfl

-- SIGTERM is noticed before the daemon has looked for SIGINT, which then still kills it.
example : ((Daemon.start "agent.sock" (.empty 0o022)).replay
    [.signalled .terminate, .noticesSignal .terminate, .signalled .interrupt]).map (·.phase) =
    some .killed := rfl

end Daemon

end SoleKey
