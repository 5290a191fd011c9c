import SoleKey.RunningAgent
import SoleKey.Proofs.Connection.Shared
import SoleKey.Proofs.Lifecycle.History
import Mathlib.Logic.Relation

set_option autoImplicit false

namespace SoleKey

namespace Lifecycle.Transition

variable {life : Lifecycle} {event : Event} {step : Step}

theorem connections_accepts
    (transition : Transition life (.loop (.outcome false (.ok ()))) step) :
    step.next.connections = life.connections + 1 := by
  cases transition with
  | loopGoesOn _ _ _ move | loopEnds _ _ _ _ move =>
    have spawns := move.spawns_iff.2 rfl
    simp [afterLoop, spawned, spawns]

theorem connections_ends (transition : Transition life .connectionEnds step) :
    step.next.connections = life.connections - 1 := by
  cases transition
  rfl

theorem connections_other (transition : Transition life event step)
    (apart : event ≠ .loop (.outcome false (.ok ()))) (lasting : event ≠ .connectionEnds) :
    step.next.connections = life.connections := by
  cases transition with
  | loopGoesOn event moved _ move | loopEnds event moved _ _ move =>
    have serves : moved.spawns = false := by
      rw [← Bool.not_eq_true, move.spawns_iff]
      exact fun same => apart (same ▸ rfl)
    simp [afterLoop, spawned, serves]
  | connectionEnds => exact absurd rfl lasting
  | removeSocket | publishFailure | publishNothing | finishLoop | asksToStop | joins |
      callReturns | dropped => rfl

theorem looping_of_loop {event : AcceptLoop.Event}
    (transition : Transition life (.loop event) step) : life.stage = .looping := by
  cases transition <;> assumption

end Lifecycle.Transition

namespace Connection

theorem result?_resume {connection : Connection} {outcome : Except SigningError KeyResult}
    (live : (connection.resume outcome).2.result? = none) : connection.result? = none := by
  cases phase : connection.phase with
  | reading | waiting => simp [result?, phase]
  | ended => simpa [resume, phase] using live

end Connection

namespace SharedConnections

variable {session : Session} {shared : SharedConnections} {event : Event} {step : Step}

def Live (shared : SharedConnections) (number : Nat) : Prop :=
  ∃ connection, shared.find? number = some connection ∧ connection.result? = none

theorem live_of_update {number other : Nat} {old new : Connection}
    (found : shared.find? number = some old) (before : new.result? = none → old.result? = none)
    (live : (shared.update number new).Live other) : shared.Live other := by
  obtain ⟨connection, placed, running⟩ := live
  by_cases own : other = number
  · subst own
    obtain rfl : new = connection := by simpa [found] using placed
    exact ⟨old, found, before running⟩
  · exact ⟨connection, by simpa [own] using placed, running⟩

theorem live_of_tell {told : List (Nat × Except SigningError KeyResult)} {other : Nat}
    (live : (shared.tell told).2.Live other) : shared.Live other := by
  cases told with
  | nil => exact live
  | cons entry rest =>
    obtain ⟨number, outcome⟩ := entry
    simp only [tell, resume] at live
    split at live
    · rename_i connection found
      exact live_of_update found Connection.result?_resume live
    · exact live

@[simp] theorem numbers_tell (told : List (Nat × Except SigningError KeyResult)) :
    (shared.tell told).2.numbers = shared.numbers := by
  cases told <;> simp [tell]

namespace Transition

theorem numbers_next (transition : Transition session shared event step)
    (inside : ∀ number connection, event ≠ .opened number connection) :
    step.2.numbers = shared.numbers := by
  cases transition with
  | opened number connection => exact absurd rfl (inside number connection)
  | client | answers => simp
  | asks number connection polled => exact numbers_update
  | works event step => exact numbers_tell step.delivered

theorem live_before (transition : Transition session shared event step)
    (inside : ∀ number connection, event ≠ .opened number connection) {number : Nat}
    (live : step.2.Live number) : shared.Live number := by
  cases transition with
  | opened number connection => exact absurd rfl (inside number connection)
  | client _ act connection found =>
    apply live_of_update found _ live
    rw [Connection.result?_after]
    exact id
  | answers _ connection polled effects found turn =>
    have reading := Connection.phase_of_poll? turn
    exact live_of_update found (fun _ => by simp [Connection.result?, reading]) live
  | asks _ connection polled effects operation finish found turn =>
    have reading := Connection.phase_of_poll? turn
    have before : polled.result? = none → connection.result? = none := fun _ => by
      simp [Connection.result?, reading]
    exact live_of_update found before live
  | works event step =>
    have moved : ({ shared with lock := step.next } : SharedConnections).Live number :=
      live_of_tell live
    exact moved

end Transition

end SharedConnections

namespace RunningAgent

variable {session : Session} {agent : RunningAgent} {event : Event}

inductive Transition (session : Session) (agent : RunningAgent) : Event → Step → Prop where
  | accepts (number : Nat) (connection : Connection) (step : Lifecycle.Step)
      (moved : agent.life.step? (.loop (.outcome false (.ok ()))) = some step)
      (fresh : agent.shared.find? number = none) (new : connection.isNew = true) :
      Transition session agent (.accepts number connection)
        (step.effects,
          ⟨step.next, agent.shared.insert number connection, agent.unfinished ++ [number]⟩)
  | serves (event : SharedConnections.Event) (step : SharedConnections.Step)
      (inside : ∀ number connection, event ≠ .opened number connection)
      (moved : agent.shared.step? session event = some step) :
      Transition session agent (.serves event) (step.1, { agent with shared := step.2 })
  | ends (number : Nat) (connection : Connection) (result : Except ConnectionError Unit)
      (step : Lifecycle.Step) (found : agent.shared.find? number = some connection)
      (ended : connection.result? = some result)
      (moved : agent.life.step? .connectionEnds = some step)
      (unfinished : number ∈ agent.unfinished) :
      Transition session agent (.ends number)
        (Connection.endLine result :: step.effects,
          { agent with
            life := step.next
            unfinished := agent.unfinished.filter (· ≠ number) })
  | agent (event : Lifecycle.Event) (step : Lifecycle.Step)
      (apart : event ≠ .loop (.outcome false (.ok ()))) (lasting : event ≠ .connectionEnds)
      (moved : agent.life.step? event = some step) :
      Transition session agent (.agent event) (step.effects, { agent with life := step.next })

theorem transition_of_accepts {number : Nat} {connection : Connection} {step : Step}
    (moved : agent.step? session (.accepts number connection) = some step) :
    Transition session agent (.accepts number connection) step := by
  simp only [step?, accept?, Option.bind_eq_bind, Option.bind_eq_some_iff] at moved
  obtain ⟨taken, takes, ⟨effects, shared⟩, opens, moved⟩ := moved
  obtain rfl := Option.some.inj moved
  cases SharedConnections.transition_of_step? opens with
  | opened _ _ fresh new =>
    simpa using Transition.accepts number connection taken takes fresh new

theorem transition_of_ends {number : Nat} {step : Step}
    (moved : agent.step? session (.ends number) = some step) :
    Transition session agent (.ends number) step := by
  simp only [step?, end?, Option.bind_eq_bind, Option.bind_eq_some_iff] at moved
  obtain ⟨result, ⟨connection, found, ended⟩, finished, finishes, moved⟩ := moved
  by_cases unfinished : number ∈ agent.unfinished
  · simp only [if_pos unfinished, Option.some.injEq] at moved
    exact moved ▸ .ends number connection result finished found ended finishes unfinished
  · simp [unfinished] at moved

theorem transition_of_step? {step : Step} (moved : agent.step? session event = some step) :
    Transition session agent event step := by
  cases event with
  | accepts number connection => exact transition_of_accepts moved
  | ends number => exact transition_of_ends moved
  | serves event =>
    cases event with
    | opened => simp [step?] at moved
    | client | polls | works =>
      obtain ⟨step, moves, served⟩ := Option.map_eq_some_iff.1 moved
      exact served ▸ .serves _ step (by simp) moves
  | agent event =>
    unfold step? at moved
    split at moved
    case h_7 other apart lasting same =>
      obtain rfl := Event.agent.inj same
      obtain ⟨step, moves, done⟩ := Option.map_eq_some_iff.1 moved
      exact done ▸ .agent event step (apart false) lasting moves
    all_goals simp_all

structure Consistent (agent : RunningAgent) : Prop where
  counted : agent.life.connections = agent.unfinished.length
  distinct : agent.unfinished.Nodup
  known : ∀ number ∈ agent.unfinished, number ∈ agent.shared.numbers
  live : ∀ number, agent.shared.Live number → number ∈ agent.unfinished

theorem consistent_start (socketPath : Option String) : Consistent (.start socketPath) where
  counted := rfl
  distinct := by simp [start]
  known := by simp [start]
  live := by simp [start, SharedConnections.Live, SharedConnections.empty, SharedConnections.find?]

namespace Consistent

theorem accepts (consistent : agent.Consistent) {number : Nat} (connection : Connection)
    {step : Lifecycle.Step} (moved : agent.life.step? (.loop (.outcome false (.ok ()))) = some step)
    (fresh : agent.shared.find? number = none) :
    Consistent
      ⟨step.next, agent.shared.insert number connection, agent.unfinished ++ [number]⟩ := by
  have unknown : number ∉ agent.shared.numbers := by
    simp [SharedConnections.mem_numbers, fresh]
  have numbers : (agent.shared.insert number connection).numbers =
      agent.shared.numbers ++ [number] := by
    simp [SharedConnections.numbers, SharedConnections.insert]
  have opened := (Lifecycle.transition_of_step? moved).connections_accepts
  exact
    { counted := by simp [opened, consistent.counted]
      distinct := by
        rw [List.nodup_append]
        refine ⟨consistent.distinct, by simp, ?_⟩
        intro other there added same
        obtain rfl := List.mem_singleton.1 same
        exact fun own => unknown (consistent.known _ (own ▸ there))
      known := by
        intro other there
        rw [numbers, List.mem_append]
        exact (List.mem_append.1 there).imp (consistent.known other) id
      live := by
        intro other live
        obtain ⟨found, placed, running⟩ := live
        rw [SharedConnections.find?_insert fresh] at placed
        by_cases own : other = number
        · simp [own]
        · rw [if_neg own] at placed
          exact List.mem_append_left _ (consistent.live other ⟨found, placed, running⟩) }

theorem ends (consistent : agent.Consistent) {number : Nat} {connection : Connection}
    {result : Except ConnectionError Unit} {step : Lifecycle.Step}
    (found : agent.shared.find? number = some connection)
    (ended : connection.result? = some result)
    (moved : agent.life.step? .connectionEnds = some step)
    (unfinished : number ∈ agent.unfinished) :
    Consistent
      { agent with life := step.next, unfinished := agent.unfinished.filter (· ≠ number) } where
  counted := by
    have less := (Lifecycle.transition_of_step? moved).connections_ends
    have erased : agent.unfinished.erase number = agent.unfinished.filter (· ≠ number) := by
      rw [consistent.distinct.erase_eq_filter]
      apply List.filter_congr
      intro other _
      by_cases same : other = number <;> simp [bne, same]
    have shorter := List.length_erase_of_mem unfinished
    rw [erased] at shorter
    exact less.trans (by rw [consistent.counted, shorter])
  distinct := consistent.distinct.filter _
  known := fun other there => consistent.known other (List.mem_filter.1 there).1
  live := by
    intro other live
    have apart : other ≠ number := by
      intro same
      obtain ⟨running, placed, lasts⟩ := live
      simp_all
    exact List.mem_filter.2 ⟨consistent.live other live, by simpa using apart⟩

theorem next (consistent : agent.Consistent) {step : Step}
    (transition : Transition session agent event step) : step.2.Consistent := by
  cases transition with
  | accepts number connection step moved fresh => exact consistent.accepts connection moved fresh
  | ends number connection result step found ended moved unfinished =>
    exact consistent.ends found ended moved unfinished
  | serves event step inside moved =>
    have transition := SharedConnections.transition_of_step? moved
    exact
      { counted := consistent.counted
        distinct := consistent.distinct
        known := by
          intro number there
          rw [transition.numbers_next inside]
          exact consistent.known number there
        live := fun number live => consistent.live number (transition.live_before inside live) }
  | agent event step apart lasting moved =>
    have same := (Lifecycle.transition_of_step? moved).connections_other apart lasting
    exact
      { counted := same.trans consistent.counted
        distinct := consistent.distinct
        known := consistent.known
        live := consistent.live }

end Consistent

def Event.inLife? : Event → Option Lifecycle.Event
  | .accepts .. => some (.loop (.outcome false (.ok ())))
  | .serves _ => none
  | .ends _ => some .connectionEnds
  | .agent event => some event

def noted (history : Lifecycle.History) (agent : RunningAgent) (event : Event)
    (next : RunningAgent) : Lifecycle.History :=
  match event.inLife? with
  | some seen => history.note agent.life seen next.life
  | none => history

inductive Reaches (session : Session) (socketPath : Option String) :
    Lifecycle.History → RunningAgent → Prop where
  | start : Reaches session socketPath .empty (.start socketPath)
  | next {history : Lifecycle.History} {agent : RunningAgent} {event : Event}
      {effects : List Effect} {next : RunningAgent}
      (reached : Reaches session socketPath history agent)
      (moved : agent.step? session event = some (effects, next)) :
      Reaches session socketPath (noted history agent event next) next

def Leads (session : Session) : RunningAgent → RunningAgent → Prop :=
  Relation.ReflTransGen fun agent next =>
    ∃ event effects, agent.step? session event = some (effects, next)

variable {socketPath : Option String} {history : Lifecycle.History} {later : RunningAgent}

theorem Reaches.consistent (reached : Reaches session socketPath history agent) :
    agent.Consistent := by
  induction reached with
  | start => exact consistent_start socketPath
  | next reached moved consistent => exact consistent.next (transition_of_step? moved)

-- The agent opens connections only with fresh numbers, and leaves them to themselves after that.
theorem Reaches.shared (reached : Reaches session socketPath history agent) :
    SharedConnections.Reaches session agent.shared := by
  induction reached with
  | start => exact .start
  | next reached moved serves =>
    cases transition_of_step? moved with
    | ends | agent => exact serves
    | serves event step inside moves => exact serves.next moves
    | accepts number connection step moved fresh new =>
      have opened := serves.next (SharedConnections.step?_opened fresh new)
      exact opened

theorem Reaches.life (reached : Reaches session socketPath history agent) :
    Lifecycle.Reaches socketPath history agent.life := by
  induction reached with
  | start => exact .start
  | next reached moved lives =>
    cases transition_of_step? moved with
    | accepts _ _ _ moves | ends _ _ _ _ _ _ moves | agent _ _ _ _ moves => exact lives.next moves
    | serves => exact lives

theorem Reaches.leads (reached : Reaches session socketPath history agent)
    (leads : Leads session agent later) : ∃ known, Reaches session socketPath known later := by
  induction leads with
  | refl => exact ⟨history, reached⟩
  | tail _ moved ih =>
    obtain ⟨known, reached⟩ := ih
    obtain ⟨event, effects, moved⟩ := moved
    exact ⟨_, reached.next moved⟩

theorem Reaches.replay (reached : Reaches session socketPath history agent) (events : List Event)
    {known : Lifecycle.History}
    (replayed : Lifecycle.History.replay (step? session) noted events history agent =
      some (known, later)) :
    Reaches session socketPath known later := by
  apply Lifecycle.History.holds_of_replay _ events reached replayed
  intro history agent event effects next reached moved
  exact reached.next moved

end RunningAgent

end SoleKey
