import SoleKey.Proofs.Connection.Steady
import Mathlib.Algebra.Order.BigOperators.Group.List
import Mathlib.Algebra.Order.Ring.Nat

set_option autoImplicit false

namespace SoleKey

def Work.left {ι : Type} (load : Load) (tpm : Tpm) (work : Work ι) : Nat :=
  match work.progress with
  | .loading => work.ticket.operation.length load tpm + 2
  | .acting _ _ made => work.ticket.operation.length load tpm + 1 - made

def SigningLock.left {ι : Type} (load : Load) (tpm : Tpm) (lock : SigningLock ι) : Nat :=
  (lock.waiting.map fun ticket => ticket.operation.length load tpm + 3).sum +
    (lock.working.map (Work.left load tpm)).sum

namespace SharedConnections

variable {session : Session} {load : Load} {tpm : Tpm} {shared : SharedConnections}
  {number : Nat} {connection : Connection}

def ahead (shared : SharedConnections) : Nat :=
  (shared.numbers.map fun number => ((shared.find? number).map Connection.ahead).getD 0).sum

def AllAtRest (shared : SharedConnections) : Prop :=
  ∀ number connection, shared.find? number = some connection → connection.AtRest

theorem left_of_transition {lock : SigningLock Nat} {event : SigningLock.Event Nat}
    {step : SigningLock.Step Nat} (follows : ∀ work ∈ lock.working, work.Follows load tpm)
    (own : event.isOwn = true) (keeps : Event.Keeps load tpm (.works event))
    (transition : SigningLock.Transition lock event step) :
    step.next.left load tpm < lock.left load tpm := by
  cases transition with
  | arrive | leave => simp [SigningLock.Event.isOwn] at own
  | panic => exact keeps.elim
  | grant | load =>
    simp only [SigningLock.left, Work.left, List.map_cons, List.sum_cons, List.map_nil,
      List.sum_nil]
    omega
  | act waiting ticket present found given made effect ahead =>
    obtain ⟨_, rfl, rfl, _⟩ := (follows _ (List.mem_singleton_self _)).acting
    have further : made < ticket.operation.length found given :=
      (List.getElem?_eq_some_iff.1 ahead).1
    simp only [SigningLock.left, Work.left, List.map_cons, List.sum_cons, List.map_nil,
      List.sum_nil]
    omega
  | finish waiting ticket present found given made =>
    obtain ⟨_, rfl, rfl, far⟩ := (follows _ (List.mem_singleton_self _)).acting
    simp only [SigningLock.left, Work.left, List.map_cons, List.sum_cons, List.map_nil,
      List.sum_nil]
    omega

theorem step?_works (session : Session) {event : SigningLock.Event Nat} {step : SigningLock.Step Nat}
    (own : event.isOwn = true) (transition : SigningLock.Transition shared.lock event step) :
    ∃ taken, shared.step? session (.works event) = some taken := by
  have moves := SigningLock.step?_of_transition transition
  simp only [step?, if_pos own, moves, Option.bind_eq_bind, Option.bind_some]
  exact ⟨_, rfl⟩

theorem step?_polls (session : Session) (found : shared.find? number = some connection)
    (reading : connection.take? ≠ none) :
    ∃ taken, shared.step? session (.polls number) = some taken := by
  obtain ⟨taken, takes⟩ := Option.ne_none_iff_exists'.1 reading
  obtain ⟨turn, answers⟩ : ∃ turn, connection.poll? session = some turn :=
    ⟨_, by rw [Connection.poll?, takes, Option.map_some]⟩
  simp only [step?, found, answers, Option.bind_eq_bind, Option.bind_some]
  exact ⟨_, rfl⟩

theorem Steady.lockGoesOn (steady : shared.Steady load tpm) (busy : shared.callers ≠ []) :
    ∃ event, SigningLock.Event.isOwn event = true ∧ Event.Keeps load tpm (.works event) ∧
      ∃ step, SigningLock.Transition shared.lock event step := by
  obtain ⟨lock, connections⟩ := shared
  cases steady.consistent.exclusive with
  | idle waiting =>
    cases waiting with
    | nil => simp [callers] at busy
    | cons oldest rest => exact ⟨.grant, rfl, trivial, _, .grant oldest rest⟩
  | busy waiting work =>
    obtain ⟨ticket, progress, present⟩ := work
    obtain ⟨_, far⟩ := steady.follows _ (List.mem_singleton_self _)
    rcases far with rfl | ⟨made, bound, rfl⟩
    · exact ⟨.load ticket.caller load tpm, rfl, ⟨rfl, rfl⟩, _, .load waiting ticket present load tpm⟩
    · rcases Nat.lt_or_eq_of_le bound with before | complete
      · have effect := List.getElem?_eq_getElem before
        exact ⟨.act ticket.caller, rfl, trivial, _, .act waiting ticket present load tpm made _ effect⟩
      · exact ⟨.finish ticket.caller, rfl, trivial, _,
          .finish waiting ticket present load tpm made complete⟩

theorem Steady.goesOn (session : Session) (steady : shared.Steady load tpm)
    (found : shared.find? number = some connection) (busy : ¬connection.AtRest) :
    ∃ event taken, event.isOwn = true ∧ event.Keeps load tpm ∧
      shared.step? session event = some taken := by
  by_cases waits : connection.isWaiting = true
  · have there := steady.queued number ⟨connection, found, waits⟩
    obtain ⟨event, own, keeps, step, transition⟩ := steady.lockGoesOn (List.ne_nil_of_mem there)
    obtain ⟨taken, moved⟩ := step?_works session own transition
    exact ⟨.works event, taken, own, keeps, moved⟩
  · have reading : connection.take? ≠ none := fun idle => busy ⟨by simpa using waits, idle⟩
    obtain ⟨taken, moved⟩ := step?_polls session found reading
    exact ⟨.polls number, taken, rfl, trivial, moved⟩

theorem ahead_update (found : shared.find? number = some connection) {next : Connection}
    (fewer : next.ahead < connection.ahead) :
    (shared.update number next).ahead < shared.ahead := by
  have there : number ∈ shared.numbers := mem_numbers.2 (by simp [found])
  simp only [ahead, numbers_update]
  apply List.sum_lt_sum
  · intro other _
    by_cases own : other = number
    · subst own
      simpa [found] using Nat.le_of_lt fewer
    · simp [own]
  · exact ⟨number, there, by simpa [found] using fewer⟩

-- An event of the connections' own leaves them less ahead, or leaves the lock less to do.
theorem Steady.decreases (steady : shared.Steady load tpm) {event : Event} {step : Step}
    (own : event.isOwn = true) (keeps : event.Keeps load tpm)
    (transition : Transition session shared event step) :
    Prod.Lex (· < ·) (· < ·) (step.2.ahead, step.2.lock.left load tpm)
      (shared.ahead, shared.lock.left load tpm) := by
  cases transition with
  | opened | client => simp [Event.isOwn] at own
  | answers number connection polled effects found turn =>
    exact .left _ _ (ahead_update found (Connection.ahead_of_poll? turn))
  | asks number connection polled effects operation finish found turn =>
    exact .left _ _ (ahead_update found (Connection.ahead_of_poll? turn))
  | works event step isOwn moved =>
    have transition := SigningLock.transition_of_step? steady.consistent.exclusive moved
    have less := left_of_transition steady.follows isOwn keeps transition
    obtain ⟨lock, connections⟩ := shared
    cases transition with
    | arrive | leave => simp [SigningLock.Event.isOwn] at isOwn
    | panic => exact keeps.elim
    -- Nobody is told anything, so the connections are what they were.
    | grant | load | act => exact .right _ less
    | finish waiting ticket present found given made complete =>
      -- A reply is written, which counts for more than what the lock has left.
      obtain ⟨connection, continuation, there, waits, told⟩ := steady.told
      rw [told]
      have free : find? ⟨⟨false, waiting, []⟩, connections⟩ ticket.caller = some connection := there
      exact .left _ _
        (ahead_update free (Connection.ahead_resume (Connection.waits_of_phase waits) _))

theorem Steady.comesToRest (session : Session) {shared : SharedConnections}
    (steady : shared.Steady load tpm) :
    ∃ events effects later,
      (∀ event ∈ events, Event.isOwn event = true ∧ event.Keeps load tpm) ∧
      shared.steps? session events = some (effects, later) ∧ later.AllAtRest := by
  -- By induction on what is left for the connections and then for the lock.
  by_cases rests : shared.AllAtRest
  · exact ⟨[], [], shared, by simp, rfl, rests⟩
  · obtain ⟨number, connection, found, busy⟩ : ∃ number connection,
        shared.find? number = some connection ∧ ¬connection.AtRest := by
      simpa [AllAtRest] using rests
    obtain ⟨event, ⟨early, next⟩, own, keeps, moved⟩ := steady.goesOn session found busy
    have transition := transition_of_step? moved
    have fewer := steady.decreases own keeps transition
    have nextSteady : next.Steady load tpm := steady.next keeps transition
    obtain ⟨events, late, later, allowed, moves, rest⟩ := nextSteady.comesToRest session
    refine ⟨event :: events, early ++ late, later, ?_, ?_, rest⟩
    · simpa using ⟨⟨own, keeps⟩, allowed⟩
    · simp [steps?, moved, moves]
termination_by (shared.ahead, shared.lock.left load tpm)
decreasing_by exact fewer

end SharedConnections

end SoleKey
