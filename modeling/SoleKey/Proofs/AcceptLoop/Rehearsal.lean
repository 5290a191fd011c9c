import SoleKey.AcceptLoop.Rehearsal
import SoleKey.Proofs.AcceptLoop.Policy

set_option autoImplicit false

namespace SoleKey.Rehearsal

open TimedLoop (Past Reaches)

-- Of all that is pending at most one thing is the loop's, and a pause is over when it is due.
def loopDues (state : Rehearsal) : List Nat :=
  (state.ready.filter Task.isLoop).map (fun _ => state.now) ++
    (state.alarms.filter (·.task.isLoop)).map (·.due)

def timed (state : Rehearsal) : TimedLoop :=
  ⟨state.loop, state.now, if state.loop.isPausing then state.loopDues.head? else none⟩

theorem timed_of_awake {state : Rehearsal} (awake : ¬state.loop.isPausing = true) :
    state.timed = ⟨state.loop, state.now, none⟩ := by
  rw [timed, if_neg awake]

theorem timed_of_accepting {state : Rehearsal} (accepting : state.loop.isAccepting = true) :
    state.timed = ⟨state.loop, state.now, none⟩ := by
  have phase := AcceptLoop.isAccepting_iff.1 accepting
  exact timed_of_awake (by simp [AcceptLoop.isPausing, phase])

def AlarmsAhead (state : Rehearsal) : Prop :=
  ∀ alarm ∈ state.alarms, state.now ≤ alarm.due

structure Aside (state next : Rehearsal) : Prop where
  loop : next.loop = state.loop
  now : next.now = state.now
  script : next.script = state.script
  dues : next.loopDues = state.loopDues
  ahead : state.AlarmsAhead → next.AlarmsAhead
  guests : next.guests.length = state.guests.length

namespace Aside

variable {state next last : Rehearsal}

theorem refl (state : Rehearsal) : Aside state state :=
  ⟨rfl, rfl, rfl, rfl, id, rfl⟩

theorem trans (first : Aside state next) (second : Aside next last) : Aside state last where
  loop := second.loop.trans first.loop
  now := second.now.trans first.now
  script := second.script.trans first.script
  dues := second.dues.trans first.dues
  ahead := second.ahead ∘ first.ahead
  guests := second.guests.trans first.guests

theorem timed (aside : Aside state next) : next.timed = state.timed := by
  simp only [Rehearsal.timed, aside.loop, aside.now, aside.dues]

end Aside

theorem aside_emit (state : Rehearsal) (effects : List Effect) : Aside state (state.emit effects) :=
  ⟨rfl, rfl, rfl, rfl, id, rfl⟩

theorem aside_setGuest (state : Rehearsal) (guest : Guest) : Aside state (state.setGuest guest) :=
  ⟨rfl, rfl, rfl, rfl, id, List.length_map _⟩

theorem loopDues_setAlarm (state : Rehearsal) (duration : Nat) (task : Task) :
    (state.setAlarm duration task).loopDues =
      state.loopDues ++ if task.isLoop then [state.now + duration] else [] := by
  cases loops : task.isLoop <;> simp [loopDues, setAlarm, loops]

theorem loopDues_arm {state : Rehearsal} (dues : state.loopDues = []) (duration : Nat) :
    (state.setAlarm duration .loop).loopDues = [state.now + duration] := by
  rw [loopDues_setAlarm, dues]
  rfl

theorem AlarmsAhead.setAlarm {state : Rehearsal} (ahead : state.AlarmsAhead) (duration : Nat)
    (task : Task) : (state.setAlarm duration task).AlarmsAhead := by
  intro alarm there
  rcases List.mem_append.1 there with before | new
  · exact ahead alarm before
  · obtain rfl := List.mem_singleton.1 new
    exact Nat.le_add_right _ _

theorem aside_setAlarm (state : Rehearsal) (duration index : Nat) :
    Aside state (state.setAlarm duration (.guest index)) where
  loop := rfl
  now := rfl
  script := rfl
  dues := (loopDues_setAlarm state duration (.guest index)).trans (List.append_nil _)
  ahead := fun ahead => ahead.setAlarm duration (.guest index)
  guests := rfl

theorem aside_pollGo (fuel : Nat) (state : Rehearsal) (guest : Guest) :
    Aside state (pollGo fuel state guest).1 := by
  induction fuel generalizing state guest with
  | zero => exact .refl state
  | succ fuel ih =>
    unfold pollGo
    split
    · exact .refl state
    · exact (aside_emit state _).trans (ih ..)

theorem aside_poll (state : Rehearsal) (guest : Guest) : Aside state (state.poll guest).1 :=
  aside_pollGo _ state guest

theorem aside_stopped? {state next : Rehearsal} {guest : Guest} {steps : List ClientStep}
    (stopped : state.stopped? guest steps = some next) : Aside state next := by
  unfold stopped? at stopped
  split at stopped
  · cases stopped
  · obtain rfl := Option.some.inj stopped
    exact ⟨rfl, rfl, rfl, rfl, id, List.length_map _⟩
  · obtain rfl := Option.some.inj stopped
    exact ⟨rfl, rfl, rfl, rfl, id, List.length_map _⟩

theorem aside_takeSteps (steps : List ClientStep) (state : Rehearsal) (guest : Guest) :
    Aside state (takeSteps steps state guest) := by
  induction steps generalizing state guest with
  | nil =>
    have polled := state.aside_poll (guest.receive .finished)
    unfold takeSteps
    cases stops : (state.poll (guest.receive .finished)).1.stopped?
        (state.poll (guest.receive .finished)).2 [] with
    | none => simpa [stops] using polled.trans (aside_setGuest ..)
    | some next => simpa [stops] using polled.trans (aside_stopped? stops)
  | cons step rest ih =>
    cases step with
    | waits duration => exact (aside_setAlarm ..).trans (aside_setGuest ..)
    | changesKey change =>
      have changed : Aside state { state with keyFile := change state.keyFile } :=
        ⟨rfl, rfl, rfl, rfl, id, rfl⟩
      exact changed.trans (ih ..)
    | arrives arrival =>
      have polled := state.aside_poll (guest.turnPage.receive arrival)
      unfold takeSteps
      cases stops : (state.poll (guest.turnPage.receive arrival)).1.stopped?
          (state.poll (guest.turnPage.receive arrival)).2 rest with
      | none => simpa [stops] using polled.trans (ih ..)
      | some next => simpa [stops] using polled.trans (aside_stopped? stops)

theorem aside_runGuest (state : Rehearsal) (index : Nat) : Aside state (state.runGuest index) := by
  unfold runGuest
  split
  · exact .refl state
  · rename_i guest _
    have polled := state.aside_poll guest
    dsimp only
    split
    · rename_i stops
      exact polled.trans (aside_stopped? stops)
    · exact polled.trans (aside_takeSteps ..)

theorem aside_turn {state : Rehearsal} {task : Task} {rest : List Task}
    (turn : state.ready = task :: rest) (other : task.isLoop = false) :
    Aside state { state with ready := rest } where
  loop := rfl
  now := rfl
  script := rfl
  dues := by simp [loopDues, turn, other]
  ahead := id
  guests := rfl

theorem aside_runWork (state : Rehearsal) (index : Nat) : Aside state (state.runWork index) := by
  unfold runWork
  split
  · exact .refl state
  · split
    · refine ⟨rfl, rfl, rfl, ?_, id, List.length_map _⟩
      simp [loopDues, Task.isLoop, setGuest, emit]
    · exact .refl state

structure Follows (script : List ScriptedAccept) (past : Past ScriptedClient) (state : Rehearsal) :
    Prop where
  reached : Reaches past state.timed
  oneDue : state.loopDues.length ≤ 1
  armed : state.loop.isPausing = true → state.loopDues ≠ []
  ahead : state.AlarmsAhead
  taken : past.taken.map (·.outcome) ++ state.script.map (·.outcome) = script.map (·.outcome)
  guests : state.guests.length = past.started.length

structure Stepped (script : List ScriptedAccept) (past : Past ScriptedClient) (state : Rehearsal) :
    Prop where
  reached : Reaches past ⟨state.loop, state.now,
    if state.loop.isPausing then some (state.now + AcceptLoop.pause) else none⟩
  unready : state.ready.filter Task.isLoop = []
  undue : state.loop.result? = none → state.alarms.filter (·.task.isLoop) = []
  ahead : state.AlarmsAhead
  taken : past.taken.map (·.outcome) ++ state.script.map (·.outcome) = script.map (·.outcome)
  guests : state.guests.length = past.started.length

variable {script : List ScriptedAccept} {past : Past ScriptedClient} {state next : Rehearsal}

theorem Follows.aside (follows : Follows script past state) (aside : Aside state next) :
    Follows script past next where
  reached := aside.timed ▸ follows.reached
  oneDue := aside.dues ▸ follows.oneDue
  armed := by
    rw [aside.loop, aside.dues]
    exact follows.armed
  ahead := aside.ahead follows.ahead
  taken := aside.script ▸ follows.taken
  guests := aside.guests.trans follows.guests

theorem Stepped.follows (stepped : Stepped script past state) (loop : next.loop = state.loop)
    (now : next.now = state.now) (scripted : next.script = state.script)
    (guests : next.guests = state.guests) (ahead : next.AlarmsAhead)
    (oneDue : next.loopDues.length ≤ 1)
    (armed : state.loop.isPausing = true → next.loopDues = [state.now + AcceptLoop.pause]) :
    Follows script past next where
  reached := by
    have same : next.timed = ⟨state.loop, state.now,
        if state.loop.isPausing then some (state.now + AcceptLoop.pause) else none⟩ := by
      cases pausing : state.loop.isPausing with
      | true => simp [timed, loop, now, pausing, armed pausing]
      | false => simp [timed, loop, now, pausing]
    exact same ▸ stepped.reached
  oneDue := oneDue
  armed := by
    intro pausing
    rw [armed (loop ▸ pausing)]
    exact nofun
  ahead := ahead
  taken := scripted ▸ stepped.taken
  guests := guests ▸ stepped.guests

theorem Stepped.loopDues_eq (stepped : Stepped script past state)
    (running : state.loop.result? = none) : state.loopDues = [] := by
  simp [loopDues, stepped.unready, stepped.undue running]

theorem Stepped.settleLoop (stepped : Stepped script past state) :
    Follows script past state.settleLoop := by
  unfold Rehearsal.settleLoop
  split
  case h_1 phase =>
    have awake : ¬state.loop.isPausing = true := by simp [AcceptLoop.isPausing, phase]
    have dues : loopDues { state with accepts := state.accepts ++ [state.now] } = [] :=
      stepped.loopDues_eq (by simp [AcceptLoop.result?, phase])
    dsimp only
    split
    · have armed := fun duration => loopDues_arm dues duration
      exact stepped.follows rfl rfl rfl rfl (stepped.ahead.setAlarm _ _) (by simp [armed])
        (absurd · awake)
    · exact stepped.follows rfl rfl rfl rfl stepped.ahead (by simp [dues]) (absurd · awake)
  case h_2 phase =>
    have awake : ¬state.loop.isPausing = true := by simp [AcceptLoop.isPausing, phase]
    have dues := stepped.loopDues_eq (by simp [AcceptLoop.result?, phase])
    exact stepped.follows rfl rfl rfl rfl stepped.ahead (by simp [dues]) (absurd · awake)
  case h_3 phase =>
    have dues := stepped.loopDues_eq (by simp [AcceptLoop.result?, phase])
    have armed := loopDues_arm dues AcceptLoop.pause
    exact stepped.follows rfl rfl rfl rfl (stepped.ahead.setAlarm _ _) (by simp [armed])
      fun _ => armed
  case h_4 result phase =>
    have ended : ¬state.loop.isPausing = true := by simp [AcceptLoop.isPausing, phase]
    refine stepped.follows rfl rfl rfl rfl ?ahead ?oneDue (absurd · ended)
    case ahead =>
      intro alarm there
      exact stepped.ahead alarm (List.mem_filter.1 there).1
    case oneDue =>
      have cleared : (state.alarms.filter (·.task ≠ .loop)).filter (·.task.isLoop) = [] := by
        simp only [List.filter_filter, List.filter_eq_nil_iff]
        intro alarm _
        cases alarm.task <;> simp [Task.isLoop]
      rw [loopDues, stepped.unready, cleared]
      exact Nat.zero_le 1

section

variable {rest : List Task}

theorem loopDues_turn (turn : state.ready = .loop :: rest) :
    state.loopDues = state.now :: loopDues { state with ready := rest } := by
  rw [loopDues, turn]
  rfl

theorem Follows.alone (follows : Follows script past state) (turn : state.ready = .loop :: rest) :
    rest.filter Task.isLoop = [] ∧ state.alarms.filter (·.task.isLoop) = [] := by
  have one := follows.oneDue
  rw [loopDues_turn turn, List.length_cons] at one
  have noDues : loopDues { state with ready := rest } = [] :=
    List.eq_nil_of_length_eq_zero (by omega)
  obtain ⟨ready, alarms⟩ := List.append_eq_nil_iff.1 noDues
  exact ⟨List.map_eq_nil_iff.1 ready, List.map_eq_nil_iff.1 alarms⟩

theorem Follows.resume (follows : Follows script past state) (pausing : state.loop.isPausing = true)
    (turn : state.ready = .loop :: rest) : ∃ later, Stepped script later
      ({ state with ready := rest }.applyStep (state.loop.step .pauseOver)) := by
  have due : state.timed.pauseEnds = some state.timed.now := by
    simp [timed, pausing, loopDues_turn turn]
  have moved : state.timed.step? (.pauseOver : TimedLoop.Event ScriptedClient) =
      some ({ state.timed with pauseEnds := none }.loopStep [] .pauseOver) := if_pos due
  obtain ⟨unready, undue⟩ := follows.alone turn
  exact ⟨_,
    { reached := follows.reached.next moved
      unready := unready
      undue := fun _ => undue
      ahead := follows.ahead
      taken := by simpa [Past.note, applyStep, emit] using follows.taken
      guests := by
        simpa [Past.note, TimedLoop.loopStep, applyStep, emit] using follows.guests }⟩

theorem guests_welcome (state : Rehearsal) (outcome : Except SystemError ScriptedClient)
    (spawns : Bool) : (state.welcome outcome spawns).guests.length =
      state.guests.length + if spawns then outcome.toOption.toList.length else 0 := by
  cases outcome <;> cases spawns <;> simp [welcome, Except.toOption]

theorem ready_welcome (state : Rehearsal) (outcome : Except SystemError ScriptedClient)
    (spawns : Bool) : (state.welcome outcome spawns).ready.filter Task.isLoop =
      state.ready.filter Task.isLoop := by
  cases outcome <;> cases spawns <;> simp [welcome, Task.isLoop]

theorem welcome_eq (state : Rehearsal) (outcome : Except SystemError ScriptedClient)
    (spawns : Bool) :
    let welcomed := state.welcome outcome spawns
    welcomed = { state with
      nextIndex := welcomed.nextIndex, guests := welcomed.guests, ready := welcomed.ready } := by
  cases outcome <;> cases spawns <;> rfl

theorem Follows.serve (follows : Follows script past state)
    (accepting : state.loop.isAccepting = true) (unasked : state.loop.shutdown = false)
    (turn : state.ready = .loop :: rest) {accept : ScriptedAccept} {later : List ScriptedAccept}
    (scripted : state.script = accept :: later) :
    let step := state.loop.step (.outcome accept.alsoShutdown (accept.outcome.map fun _ => ()))
    ∃ past, Stepped script past
      (({ state with ready := rest, script := later }.applyStep step).welcome accept.outcome
        step.spawns) := by
  intro step
  have reached := follows.reached
  rw [timed_of_accepting accepting] at reached
  have moved : TimedLoop.step? ⟨state.loop, state.now, none⟩
      (.outcome accept.alsoShutdown accept.outcome) =
        some (TimedLoop.loopStep _ accept.outcome.toOption.toList
          (.outcome accept.alsoShutdown (accept.outcome.map fun _ => ()))) :=
    if_pos (by simp [AcceptLoop.takes, accepting, unasked])
  obtain ⟨unready, undue⟩ := follows.alone turn
  rw [welcome_eq]
  exact ⟨_,
    { reached := reached.next moved
      unready := (ready_welcome ..).trans unready
      undue := fun _ => undue
      ahead := follows.ahead
      taken := by simpa [Past.note, applyStep, emit, scripted] using follows.taken
      guests := by
        rw [guests_welcome]
        cases spawns : step.spawns <;>
          simpa [Past.note, TimedLoop.loopStep, applyStep, emit, step, spawns]
            using follows.guests }⟩

theorem Follows.noticed (follows : Follows script past state)
    (accepting : state.loop.isAccepting = true) (asked : state.loop.shutdown = true)
    (unready : rest.filter Task.isLoop = []) : ∃ later, Stepped script later
      ({ state with ready := rest }.applyStep (state.loop.step .notice)) := by
  have reached := follows.reached
  rw [timed_of_accepting accepting] at reached
  have moved : TimedLoop.step? ⟨state.loop, state.now, none⟩
      (.notice : TimedLoop.Event ScriptedClient) =
        some (TimedLoop.loopStep _ [] .notice) := if_pos ⟨accepting, asked⟩
  have ended : (state.loop.step .notice).next.result? = some (.ok ()) := by
    simp [AcceptLoop.step, AcceptLoop.isAccepting_iff.1 accepting, asked, AcceptLoop.atTop,
      AcceptLoop.result?]
  exact ⟨_,
    { reached := reached.next moved
      unready := unready
      undue := fun running => by cases ended.symm.trans running
      ahead := follows.ahead
      taken := by simpa [Past.note, applyStep, emit] using follows.taken
      guests := by
        simpa [Past.note, TimedLoop.loopStep, applyStep, emit] using follows.guests }⟩

theorem Follows.runLoop (follows : Follows script past state) (turn : state.ready = .loop :: rest) :
    ∃ later, Follows script later (Rehearsal.runLoop { state with ready := rest }) := by
  have alone := follows.alone turn
  unfold Rehearsal.runLoop
  split
  case h_1 phase =>
    obtain ⟨later, stepped⟩ := follows.resume (AcceptLoop.isPausing_iff.2 phase) turn
    exact ⟨later, stepped.settleLoop⟩
  case h_2 accept more phase scripted =>
    have accepting := AcceptLoop.isAccepting_iff.2 phase
    split
    case isTrue asked =>
      obtain ⟨later, stepped⟩ := follows.noticed accepting asked alone.1
      exact ⟨later, stepped.settleLoop⟩
    case isFalse unasked =>
      obtain ⟨later, stepped⟩ :=
        follows.serve accepting (Bool.eq_false_iff.2 unasked) turn scripted
      exact ⟨later, stepped.settleLoop⟩
  case h_3 unpaused _ =>
    have awake : ¬state.loop.isPausing = true := unpaused ∘ AcceptLoop.isPausing_iff.1
    have still : timed { state with ready := rest } = state.timed := by
      rw [timed_of_awake awake]
      exact timed_of_awake awake
    exact ⟨past,
      { reached := still ▸ follows.reached
        oneDue := by simp [loopDues, alone]
        armed := (absurd · awake)
        ahead := follows.ahead
        taken := follows.taken
        guests := follows.guests }⟩

end

theorem Follows.shutdown (follows : Follows script past state) : ∃ later, Follows script later
    ({ state with notified := false }.applyStep (state.loop.step .shutdown)) := by
  rw [AcceptLoop.step_shutdown]
  exact ⟨_,
    { reached := follows.reached.next follows.reached.consistent.regular.step?_shutdown
      oneDue := follows.oneDue
      armed := follows.armed
      ahead := follows.ahead
      taken := by simpa [Past.note, applyStep, emit] using follows.taken
      guests := by simpa [Past.note, applyStep, emit] using follows.guests }⟩

theorem Follows.notice (follows : Follows script past state) (unready : state.ready = []) :
    ∃ later, Follows script later state.notice := by
  obtain ⟨later, follows⟩ := follows.shutdown
  unfold Rehearsal.notice
  dsimp only
  split
  case isTrue accepting =>
    have asked : (state.loop.step .shutdown).next.shutdown = true := by
      rw [AcceptLoop.step_shutdown]
      rfl
    have alone : state.ready.filter Task.isLoop = [] := by simp [unready]
    obtain ⟨ends, stepped⟩ := follows.noticed accepting asked alone
    exact ⟨ends, stepped.settleLoop⟩
  case isFalse => exact ⟨later, follows⟩

theorem filter_isLoop_sorted (tasks : List Task) :
    (tasks.filter Task.isLoop ++ tasks.filter (!·.isLoop)).filter Task.isLoop =
      tasks.filter Task.isLoop := by
  have others : (tasks.filter (!·.isLoop)).filter Task.isLoop = [] :=
    List.filter_eq_nil_iff.2 fun _ there => by simpa using (List.mem_filter.1 there).2
  rw [List.filter_append, List.filter_filter, others, List.append_nil]
  simp only [Bool.and_self]

theorem loopDues_wake (oneDue : state.loopDues.length ≤ 1) (unready : state.ready = [])
    (woken : state.wake = some next) : next.loopDues = state.loopDues := by
  unfold Rehearsal.wake at woken
  split at woken
  · cases woken
  rename_i due _
  obtain rfl := Option.some.inj woken
  have commute (isDue : Alarm → Bool) : (state.alarms.filter isDue).filter (·.task.isLoop) =
      (state.alarms.filter (·.task.isLoop)).filter isDue := by
    simp only [List.filter_filter, Bool.and_comm]
  simp only [loopDues, unready, List.filter_nil, List.map_nil, List.nil_append, List.length_map]
    at oneDue ⊢
  rw [filter_isLoop_sorted, List.filter_map, commute]
  simp only [Function.comp_def, commute]
  cases loops : state.alarms.filter (·.task.isLoop) with
  | nil => rfl
  | cons alarm more =>
    have single : more = [] := List.eq_nil_of_length_eq_zero (by simp_all)
    by_cases same : alarm.due = due <;> simp [single, same]

theorem mem_loopDues_of_pauseEnds {due : Nat} (pauses : state.timed.pauseEnds = some due) :
    due ∈ state.loopDues := by
  simp only [timed, Option.ite_none_right_eq_some] at pauses
  exact List.mem_of_mem_head? pauses.2

theorem mem_alarms_of_loopDues {due : Nat} (unready : state.ready = [])
    (pending : due ∈ state.loopDues) : ∃ alarm ∈ state.alarms, alarm.due = due := by
  simp only [loopDues, unready, List.filter_nil, List.map_nil, List.nil_append] at pending
  obtain ⟨alarm, there, same⟩ := List.mem_map.1 pending
  exact ⟨alarm, (List.mem_filter.1 there).1, same⟩

theorem Follows.wake (follows : Follows script past state) (unready : state.ready = [])
    (woken : state.wake = some next) : Follows script past next := by
  have dues := loopDues_wake follows.oneDue unready woken
  unfold Rehearsal.wake at woken
  split at woken
  · cases woken
  rename_i due found
  obtain ⟨isDue, first⟩ := List.min?_eq_some_iff.1 found
  obtain ⟨earliest, there, same⟩ := List.mem_map.1 isDue
  have later : state.now ≤ due := same ▸ follows.ahead earliest there
  have early : ∀ wakes, state.timed.pauseEnds = some wakes →
      state.now + (due - state.now) ≤ wakes := by
    intro wakes pauses
    obtain ⟨alarm, pending, rfl⟩ :=
      mem_alarms_of_loopDues unready (mem_loopDues_of_pauseEnds pauses)
    have bound := first alarm.due (List.mem_map_of_mem pending)
    omega
  have slept := follows.reached.sleeps (due - state.now) early
  rw [Nat.add_sub_cancel' later] at slept
  obtain rfl := Option.some.inj woken
  exact
    { reached := by
        rw [timed, dues]
        exact slept
      oneDue := dues ▸ follows.oneDue
      armed := fun pausing => dues ▸ follows.armed pausing
      ahead := fun alarm pending =>
        first alarm.due (List.mem_map_of_mem (List.mem_filter.1 pending).1)
      taken := follows.taken
      guests := follows.guests }

theorem Follows.step? (follows : Follows script past state) (moved : state.step? = some next) :
    ∃ later, Follows script later next := by
  unfold Rehearsal.step? at moved
  split at moved
  case h_1 task rest turn =>
    obtain rfl := Option.some.inj moved
    cases task with
    | loop => exact follows.runLoop turn
    | shutdown =>
      have notified : Aside { state with ready := rest }
          { state with ready := rest, notified := true } := ⟨rfl, rfl, rfl, rfl, id, rfl⟩
      exact ⟨past, follows.aside ((aside_turn turn rfl).trans notified)⟩
    | guest index =>
      exact ⟨past, follows.aside ((aside_turn turn rfl).trans (aside_runGuest ..))⟩
  case h_2 unready =>
    split at moved
    case isTrue =>
      obtain rfl := Option.some.inj moved
      exact follows.notice unready
    case isFalse =>
      split at moved
      case h_1 index rest _ =>
        obtain rfl := Option.some.inj moved
        have popped : Aside state { state with working := rest } := ⟨rfl, rfl, rfl, rfl, id, rfl⟩
        exact ⟨past, follows.aside (popped.trans (aside_runWork ..))⟩
      case h_2 =>
        split at moved
        · cases moved
        · exact ⟨past, follows.wake unready moved⟩

theorem Follows.run (follows : Follows script past state) (fuel : Nat) :
    ∃ later, Follows script later (state.run fuel) := by
  induction fuel generalizing past state with
  | zero => exact ⟨past, follows⟩
  | succ fuel ih =>
    unfold Rehearsal.run
    split
    · exact ⟨past, follows⟩
    · rename_i moved
      obtain ⟨later, follows⟩ := follows.step? moved
      exact ih follows

theorem follows_start (session : Session) (tpm : Tpm) (keyFile : KeyFile)
    (script : List ScriptedAccept) (shutdownAt : Nat) :
    Follows script (.start (shutdownAt = 0)) (start session tpm keyFile script shutdownAt) := by
  apply Stepped.settleLoop
  have begun : Reaches (.start (shutdownAt = 0)) (TimedLoop.start (shutdownAt = 0) 0) :=
    Reaches.start (σ := ScriptedClient) _ 0
  by_cases atOnce : shutdownAt = 0
  · simp only [atOnce, if_true] at begun ⊢
    exact
      { reached := begun
        unready := rfl
        undue := fun _ => rfl
        ahead := fun _ there => absurd there List.not_mem_nil
        taken := rfl
        guests := rfl }
  · simp only [atOnce, if_false] at begun ⊢
    exact
      { reached := begun
        unready := rfl
        undue := fun _ => rfl
        ahead := AlarmsAhead.setAlarm (fun _ there => absurd there List.not_mem_nil) _ _
        taken := rfl
        guests := rfl }

/-- A rehearsal is a run on the clock, on a beginning of its script. -/
theorem perform_follows (session : Session) (tpm : Tpm) (keyFile : KeyFile)
    (script : List ScriptedAccept) (shutdownAt : Nat) :
    ∃ past, Follows script past (perform session tpm keyFile script shutdownAt) :=
  (follows_start session tpm keyFile script shutdownAt).run _

end SoleKey.Rehearsal
