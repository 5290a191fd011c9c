import SoleKey.GuardedKey
import SoleKey.Proofs.SigningLock.History

set_option autoImplicit false

namespace SoleKey

variable {ι : Type}

def Work.loads (work : Work ι) : List (Ticket ι × Load) :=
  match work.progress with
  | .loading => []
  | .acting found _ _ => [(work.ticket, found)]

def Work.toLoad (work : Work ι) : List (Ticket ι) :=
  match work.progress with
  | .loading => [work.ticket]
  | .acting .. => []

namespace GuardedKey

structure Past (ι : Type) where
  calls : SigningLock.History ι
  -- Each load with the file that stood there.
  read : List (Ticket ι × KeyFile)

def Past.empty : Past ι := ⟨.empty, []⟩

def Past.loads (source : KeySource) (past : Past ι) : List (Ticket ι × Load) :=
  past.read.map fun (ticket, file) => (ticket, source.load file)

variable [DecidableEq ι]

def readNow (state : GuardedKey ι) : SigningLock.Event ι -> List (Ticket ι × KeyFile)
  | .load caller _ _ =>
      (state.lock.workOf? caller).toList.map fun work => (work.ticket, state.file)
  | _ => []

def Past.note (past : Past ι) (state : GuardedKey ι) (event : Event ι) (step : Step ι) : Past ι :=
  match event with
  | .replace _ => past
  | .call event =>
    ⟨past.calls.note state.lock event ⟨step.effects, step.delivered, step.next.lock⟩,
      past.read ++ state.readNow event⟩

inductive Reaches (source : KeySource) : Past ι → GuardedKey ι → Prop where
  | start (file : KeyFile) : Reaches source .empty ⟨.free, file⟩
  | next {past : Past ι} {state : GuardedKey ι} {event : Event ι} {step : Step ι}
      (reached : Reaches source past state) (moved : state.step? source event = some step) :
      Reaches source (past.note state event step) step.next

variable {source : KeySource} {past : Past ι} {state : GuardedKey ι} {step : Step ι}

theorem step?_call {event : SigningLock.Event ι}
    (moved : state.step? source (.call event) = some step) :
    isTrue source state.file event = true ∧
      state.lock.step? event = some ⟨step.effects, step.delivered, step.next.lock⟩ ∧
      step.next.file = state.file := by
  simp only [step?] at moved
  split at moved
  · rename_i honest
    obtain ⟨inner, atLock, rfl⟩ := Option.map_eq_some_iff.1 moved
    exact ⟨honest, atLock, rfl⟩
  · simp at moved

theorem Reaches.call {event : SigningLock.Event ι} {taken : SigningLock.Step ι}
    (reached : Reaches source past state) (honest : isTrue source state.file event = true)
    (atLock : state.lock.step? event = some taken) :
    Reaches source ⟨past.calls.note state.lock event taken, past.read ++ state.readNow event⟩
      ⟨taken.next, state.file⟩ := by
  have moved : state.step? source (.call event) =
      some ⟨taken.effects, taken.delivered, taken.next, state.file⟩ := by
    simp [step?, honest, atLock]
  exact reached.next moved

theorem Reaches.calls (reached : Reaches source past state) :
    SigningLock.Reaches past.calls state.lock := by
  induction reached with
  | start file => exact .start
  | @next past state event step reached moved calls =>
    cases event with
    | replace file =>
      simp only [step?, Option.some.injEq] at moved
      subst moved
      exact calls
    | call event => exact calls.next (step?_call moved).2.1

/-- Each load that was made is the one of a turn, or of the work at the lock, in this order. -/
def OwnLoads (source : KeySource) (past : Past ι) (lock : SigningLock ι) : Prop :=
  past.loads source =
    past.calls.turns.map (fun turn => (turn.ticket, turn.found)) ++ lock.working.flatMap Work.loads

@[simp] theorem flatMap_loads_leave (lock : SigningLock ι) (caller : ι) :
    (lock.leave caller).working.flatMap Work.loads = lock.working.flatMap Work.loads := by
  simp only [SigningLock.leave, List.flatMap_map]
  apply List.flatMap_congr
  intro work _
  by_cases own : work.ticket.caller = caller <;> simp [own, Work.loads]

theorem OwnLoads.next {event : SigningLock.Event ι} {taken : SigningLock.Step ι}
    (own : OwnLoads source past state.lock) (honest : isTrue source state.file event = true)
    (transition : SigningLock.Transition state.lock event taken) :
    OwnLoads source ⟨past.calls.note state.lock event taken, past.read ++ state.readNow event⟩
      taken.next := by
  obtain ⟨lock, file⟩ := state
  simp only [OwnLoads, Past.loads] at own ⊢
  cases transition with
  -- The work that is granted the lock has loaded nothing yet, so only a load adds to either side.
  | arrive | grant | act | leave =>
    simpa [readNow, SigningLock.History.note, Work.loads] using own
  | load waiting ticket present found tpm =>
    have fromFile : found = source.load file := by simpa [isTrue] using honest
    simpa [readNow, SigningLock.History.note, SigningLock.workOf?_busy, Work.loads, fromFile]
      using own
  | finish | panic =>
    simpa [readNow, SigningLock.History.note, SigningLock.workOf?_busy, Work.loads, Work.turn?]
      using own

theorem Reaches.ownLoads (reached : Reaches source past state) :
    OwnLoads source past state.lock := by
  induction reached with
  | start file => rfl
  | @next past state event step reached moved own =>
    cases event with
    | replace file =>
      simp only [step?, Option.some.injEq] at moved
      subst moved
      exact own
    | call event =>
      obtain ⟨honest, atLock, _⟩ := step?_call moved
      exact own.next honest
        (SigningLock.transition_of_step? reached.calls.consistent.exclusive atLock)

omit [DecidableEq ι] in
theorem loads_alone (turn : Turn ι) : Effect.loads turn.alone.1 = 1 := by
  have noLoad := turn.ticket.operation.loads_conclude turn.found turn.tpm
  cases ended : turn.panickedAfter with
  | none => simpa [Turn.alone, ended, KeyOperation.run_eq, Effect.loads] using noLoad
  | some made =>
    -- The load itself comes first, so a panic leaves it in and takes away none of its kind.
    have noneTaken : Effect.loads
        ((turn.ticket.operation.conclude turn.found turn.tpm).1.take made) = 0 :=
      Nat.le_zero.1 (noLoad ▸ (List.take_sublist ..).countP_le)
    simpa [Turn.alone, ended, KeyOperation.run_eq, Effect.loads] using noneTaken

omit [DecidableEq ι] in
theorem loads_inSequence (turns : List (Turn ι)) :
    Effect.loads (Turn.inSequence turns).1 = turns.length := by
  induction turns with
  | nil => rfl
  | cons turn rest ih =>
    simp [Turn.inSequence, Effect.loads_append, loads_alone, ih, Nat.add_comm]

omit [DecidableEq ι] in
theorem loads_made (work : Work ι) : Effect.loads work.made = 1 := by
  obtain ⟨ticket, progress, present⟩ := work
  cases progress with
  | loading => rfl
  | acting found tpm made => exact loads_alone ⟨ticket, found, tpm, some made, present⟩

omit [DecidableEq ι] in
theorem loads_flatMap_made (working : List (Work ι)) :
    Effect.loads (working.flatMap Work.made) = working.length := by
  induction working with
  | nil => rfl
  | cons work rest ih => simp [Effect.loads_append, loads_made, ih, Nat.add_comm]

def SignsOwn (ticket : Ticket ι) (found : Load) (key : StoredKey) (algorithm : Algorithm)
    (data : Bytes) : Prop :=
  found = .loaded key ∧ ∃ requested flags, ticket.operation = .sign requested data flags ∧
    key.publicKey.encode = requested.encode ∧ algorithm = requested.signatureAlgorithm flags ∧
    key.publicKey.algorithm.sameFamily algorithm = true

variable {key : StoredKey} {algorithm : Algorithm} {data : Bytes}

omit [DecidableEq ι] in
theorem signsOwn_of_alone {turn : Turn ι}
    (asked : .tpm (.signed key algorithm data) ∈ turn.alone.1) :
    SignsOwn turn.ticket turn.found key algorithm data := by
  have whole : .tpm (.signed key algorithm data) ∈
      (turn.ticket.operation.run turn.found turn.tpm).1 := by
    cases ended : turn.panickedAfter with
    | none => simpa [Turn.alone, ended] using asked
    | some made =>
      simp only [Turn.alone, ended] at asked
      exact List.mem_of_mem_take asked
  simp only [KeyOperation.run_eq, List.mem_cons, reduceCtorEq, false_or] at whole
  exact KeyOperation.signed_of_conclude whole

omit [DecidableEq ι] in
theorem signsOwn_of_inSequence {turns : List (Turn ι)}
    (asked : .tpm (.signed key algorithm data) ∈ (Turn.inSequence turns).1) :
    ∃ turn ∈ turns, SignsOwn turn.ticket turn.found key algorithm data := by
  induction turns with
  | nil => simp [Turn.inSequence] at asked
  | cons turn rest ih =>
    rcases List.mem_append.1 asked with now | later
    · exact ⟨turn, by simp, signsOwn_of_alone now⟩
    · obtain ⟨other, member, own⟩ := ih later
      exact ⟨other, by simp [member], own⟩

omit [DecidableEq ι] in
theorem signsOwn_of_made {work : Work ι}
    (asked : .tpm (.signed key algorithm data) ∈ work.made) :
    ∃ found, (work.ticket, found) ∈ work.loads ∧
      SignsOwn work.ticket found key algorithm data := by
  obtain ⟨ticket, progress, present⟩ := work
  cases progress with
  | loading => simp [Work.made] at asked
  | acting found tpm made =>
    have inTurn : .tpm (.signed key algorithm data) ∈
        (Turn.alone ⟨ticket, found, tpm, some made, present⟩).1 := asked
    exact ⟨found, by simp [Work.loads], signsOwn_of_alone inTurn⟩

/-- What concurrent calls did and told, told from the turns they took. -/
structure Sequential (source : KeySource) (past : Past ι) (state : GuardedKey ι) : Prop where
  granted : past.calls.granted =
    past.calls.turns.map (·.ticket) ++ state.lock.working.map (·.ticket)
  -- The n-th turn found what the source makes of the n-th file read, and of no other.
  ownLoads : past.read.map (fun (ticket, file) => (ticket, source.load file)) =
    past.calls.turns.map (fun turn => (turn.ticket, turn.found)) ++
      state.lock.working.flatMap Work.loads
  readOnce : past.read.map (·.1) ++ state.lock.working.flatMap Work.toLoad = past.calls.granted
  effects : past.calls.effects =
    (Turn.inSequence past.calls.turns).1 ++ state.lock.working.flatMap Work.made
  delivered : past.calls.delivered = (Turn.inSequence past.calls.turns).2
  loadedOnce : Effect.loads past.calls.effects = past.calls.granted.length
  oneKey : ∀ key algorithm data, .tpm (.signed key algorithm data) ∈ past.calls.effects →
    ∃ ticket file, (ticket, file) ∈ past.read ∧
      SignsOwn ticket (source.load file) key algorithm data

omit [DecidableEq ι] in
theorem loads_append_toLoad {lock : SigningLock ι} (exclusive : lock.Exclusive) :
    (lock.working.flatMap Work.loads).map Prod.fst ++ lock.working.flatMap Work.toLoad =
      lock.working.map (·.ticket) := by
  cases exclusive with
  | idle waiting => rfl
  | busy waiting work =>
    cases progress : work.progress <;> simp [Work.loads, Work.toLoad, progress]

theorem Reaches.readOnce (reached : Reaches source past state) :
    past.read.map (·.1) ++ state.lock.working.flatMap Work.toLoad = past.calls.granted := by
  have tickets := congrArg (List.map Prod.fst) reached.ownLoads
  simp only [Past.loads, List.map_map, List.map_append, Function.comp_def] at tickets
  rw [reached.calls.consistent.granted, tickets, List.append_assoc,
    loads_append_toLoad reached.calls.consistent.exclusive]

theorem Reaches.loadedOnce (reached : Reaches source past state) :
    Effect.loads past.calls.effects = past.calls.granted.length := by
  have consistent := reached.calls.consistent
  rw [consistent.effects, consistent.granted, Effect.loads_append, loads_inSequence,
    loads_flatMap_made, List.length_append, List.length_map, List.length_map]

theorem Reaches.oneKey (reached : Reaches source past state)
    (asked : .tpm (.signed key algorithm data) ∈ past.calls.effects) :
    ∃ ticket file, (ticket, file) ∈ past.read ∧
      SignsOwn ticket (source.load file) key algorithm data := by
  -- First for what the load found, then for the file that it was found in.
  have loaded : ∃ ticket found, (ticket, found) ∈ past.loads source ∧
      SignsOwn ticket found key algorithm data := by
    rw [reached.calls.consistent.effects] at asked
    rw [reached.ownLoads]
    rcases List.mem_append.1 asked with earlier | now
    · obtain ⟨turn, member, own⟩ := signsOwn_of_inSequence earlier
      exact ⟨turn.ticket, turn.found, List.mem_append_left _ (List.mem_map.2 ⟨turn, member, rfl⟩),
        own⟩
    · obtain ⟨work, member, made⟩ := List.mem_flatMap.1 now
      obtain ⟨found, loads, own⟩ := signsOwn_of_made made
      exact ⟨work.ticket, found,
        List.mem_append_right _ (List.mem_flatMap.2 ⟨work, member, loads⟩), own⟩
  obtain ⟨ticket, found, member, own⟩ := loaded
  obtain ⟨⟨_, file⟩, read, same⟩ := List.mem_map.1 member
  obtain ⟨rfl, rfl⟩ := Prod.mk.inj same
  exact ⟨_, file, read, own⟩

theorem sequential_of_concurrent (reached : Reaches source past state) :
    Sequential source past state where
  granted := reached.calls.consistent.granted
  ownLoads := reached.ownLoads
  readOnce := reached.readOnce
  effects := reached.calls.consistent.effects
  delivered := reached.calls.consistent.delivered
  loadedOnce := reached.loadedOnce
  oneKey _ _ _ asked := reached.oneKey asked

theorem second_call_reads_again : ∃ (past : Past Nat) (state : GuardedKey Nat),
    Reaches (.file "ssh.key") past state ∧ past.calls.granted.map (·.caller) = [1, 2] ∧
      past.calls.delivered.map (·.2) =
        [.ok (.identities [⟨.ed25519 (List.replicate 32 7), "old"⟩]),
          .ok (.identities [⟨.ed25519 (List.replicate 32 9), "new"⟩])] ∧
      Sequential (.file "ssh.key") past state := by
  let old : StoredKey := ⟨.ed25519 (List.replicate 32 7), "old", []⟩
  let new : StoredKey := ⟨.ed25519 (List.replicate 32 9), "new", []⟩
  let source : KeySource := .file "ssh.key"
  let tpm : Tpm := ⟨.ok (), fun _ _ _ => .error .keyMismatch, .ok ()⟩
  let loadOld : SigningLock.Event Nat := .load 1 (.loaded old) tpm
  let loadNew : SigningLock.Event Nat := .load 2 (.loaded new) tpm
  have loadsOld : isTrue source (.file old.encode) loadOld = true := by decide +kernel
  have loadsNew : isTrue source (.file new.encode) loadNew = true := by decide +kernel
  have first := (Reaches.start (.file old.encode)).call
    (rfl : isTrue source _ (.arrive ⟨1, .list⟩) = true) rfl
  have second := first.call (rfl : isTrue source _ (.arrive ⟨2, .list⟩) = true) rfl
  have granted := second.call (rfl : isTrue source _ .grant = true) rfl
  have loaded := granted.call loadsOld rfl
  -- The first call is at work and has its key. What it lists does not change any more.
  have replaced := loaded.next (rfl : step? source _ (.replace (.file new.encode)) = some _)
  have finished := replaced.call (rfl : isTrue source _ (.finish 1) = true) rfl
  have next := finished.call (rfl : isTrue source _ .grant = true) rfl
  have loadedAgain := next.call loadsNew rfl
  have last := loadedAgain.call (rfl : isTrue source _ (.finish 2) = true) rfl
  exact ⟨_, _, last, rfl, rfl, sequential_of_concurrent last⟩

end GuardedKey

end SoleKey
