import SoleKey.Machine
import SoleKey.Proofs.Binding.Rebinding
import SoleKey.Proofs.BoundAgent
import SoleKey.Proofs.RunningAgent.Consistency

set_option autoImplicit false

namespace SoleKey

namespace Machine

variable {path : String} {machine : Machine} {listener : Nat} {member : Member}

section Members

theorem member?_update (machine : Machine) (changed listener : Nat) (change : Hosted → Hosted) :
    (machine.update changed change).member? listener =
      (machine.member? listener).map fun found =>
        if found.listener = changed then { found with host := change found.host } else found := by
  have same : ((fun found : Member => decide (found.listener = listener)) ∘ fun found =>
      if found.listener = changed then { found with host := change found.host } else found) =
      fun found : Member => decide (found.listener = listener) := by
    funext found
    dsimp only [Function.comp]
    split <;> rfl
  simp only [member?, update, List.find?_map, same]

theorem listener_of_member? (found : machine.member? listener = some member) :
    member.listener = listener := by
  simpa using List.find?_some found

theorem life?_of_member? (found : machine.member? listener = some member) :
    machine.life? listener = some member.host.service.life := by
  simp [life?, found]

theorem life?_update (machine : Machine) (changed listener : Nat) (change : Hosted → Hosted) :
    (machine.update changed change).life? listener =
      if listener = changed then
        (machine.member? changed).map fun found => (change found.host).service.life
      else machine.life? listener := by
  unfold life?
  rw [member?_update, Option.map_map]
  by_cases same : listener = changed
  · subst same
    cases found : machine.member? listener with
    | none => simp
    | some member => simp [listener_of_member? found]
  · cases found : machine.member? listener with
    | none => simp [same]
    | some member =>
      have apart : member.listener ≠ changed := by
        rw [listener_of_member? found]
        exact same
      simp [same, apart]

theorem life?_update_of_lives {change : Hosted → Hosted}
    (lives : ∀ host, (change host).service.life = host.service.life) (changed listener : Nat) :
    (machine.update changed change).life? listener = machine.life? listener := by
  rw [life?_update]
  split
  · rename_i same
    rw [same, life?]
    simp only [lives]
  · rfl

end Members

inductive Mark where
  | started (listener : Nat)
  | missed
  | cleaned (listener : Nat)
  deriving DecidableEq

def Mark.started? : Mark → Option Nat
  | .started listener => some listener
  | .missed | .cleaned _ => none

def startMark : Except AgentError Nat → Mark
  | .ok listener => .started listener
  | .error _ => .missed

def moveMarks (listener : Nat) : Lifecycle.Event → List Mark
  | .removeSocket => [.cleaned listener]
  | _ => []

/-- Where a machine can get to while only its own agents touch the path. Each agent takes its own
steps, whichever of them comes next. -/
inductive Reaches (path : String) : List Mark → Machine → Prop where
  | start (tpm : Tpm) (files : FileSystem) : Reaches path [] (.start tpm files)
  | starts {marks : List Mark} {machine : Machine} (keyPath : String)
      (reached : Reaches path marks machine) :
      Reaches path (marks ++ [startMark (machine.startAgent path keyPath).2.2])
        (machine.startAgent path keyPath).2.1
  | moves {marks : List Mark} {machine : Machine} {listener : Nat} {member : Member}
      {event : Lifecycle.Event} {step : Lifecycle.Step} (host : Hosted)
      (reached : Reaches path marks machine) (found : machine.member? listener = some member)
      (moved : member.host.service.life.step? event = some step)
      (lives : host.service.life = step.next) :
      Reaches path (marks ++ moveMarks listener event)
        ((machine.update listener fun _ => host).carryOut step.effects)
  | besides {marks : List Mark} {machine other : Machine} (reached : Reaches path marks machine)
      (lives : ∀ listener, other.life? listener = machine.life? listener)
      (numbering : other.nextListener = machine.nextListener)
      (alone : FileSystem.LeavesAlone path machine.files other.files) : Reaches path marks other

structure Consistent (path : String) (marks : List Mark) (machine : Machine) : Prop where
  ordered : (marks.filterMap Mark.started?).Pairwise (· < ·)
  fresh : ∀ listener, .started listener ∈ marks → listener < machine.nextListener
  known : ∀ listener life, machine.life? listener = some life → .started listener ∈ marks
  socketPath : ∀ listener life, machine.life? listener = some life → life.socketPath = some path
  cleaned : ∀ listener, .cleaned listener ∈ marks → .started listener ∈ marks ∧
    ∀ life, machine.life? listener = some life → ¬life.socketStands
  stands : ∀ listener, marks.getLast? = some (.started listener) →
    machine.files.HasSocket path listener
  bare : ∀ listener, .started listener ∈ marks →
    (∀ last, marks.getLast? ≠ some (.started last)) → machine.files.NoSocket path

variable {marks : List Mark} {keyPath : String}

theorem started_iff {marks : List Mark} {listener : Nat} :
    .started listener ∈ marks ↔ listener ∈ marks.filterMap Mark.started? := by
  simp only [List.mem_filterMap]
  constructor
  · intro there
    exact ⟨_, there, rfl⟩
  · rintro ⟨mark, there, same⟩
    cases mark <;> simp_all [Mark.started?]

theorem filterMap_started?_append {marks : List Mark} {mark : Mark} (other : mark.started? = none) :
    (marks ++ [mark]).filterMap Mark.started? = marks.filterMap Mark.started? := by
  simp [List.filterMap_append, other]

theorem startAgent_of_error {problem : AgentError}
    (failed : (Binding.perform machine.files path machine.nextListener).result = .error problem) :
    (machine.startAgent path keyPath).2 =
      ({ machine with files := (Binding.perform machine.files path machine.nextListener).files },
        .error problem) := by
  simp [startAgent, failed]

theorem startAgent_of_ok
    (bound : (Binding.perform machine.files path machine.nextListener).result = .ok ()) :
    (machine.startAgent path keyPath).2 =
      ({ machine with
          files := (Binding.perform machine.files path machine.nextListener).files
          members := machine.members ++ [⟨machine.nextListener, path, keyPath,
            Hosted.start (some path) (Session.ofAgent Agent.overStoredKey) machine.tpm⟩]
          nextListener := machine.nextListener + 1 },
        .ok machine.nextListener) := by
  simp [startAgent, bound]

namespace Consistent

theorem released (consistent : Consistent path marks machine) (begun : .started listener ∈ marks) :
    (Binding.release machine.files path).NoSocket path := by
  by_cases last : ∃ owner, marks.getLast? = some (.started owner)
  · obtain ⟨owner, last⟩ := last
    exact (consistent.stands owner last).release.noSocket
  · exact (consistent.bare listener begun fun owner same => last ⟨owner, same⟩).release

variable {other : Machine}

theorem missed (consistent : Consistent path marks machine)
    (lives : ∀ listener, other.life? listener = machine.life? listener)
    (numbering : other.nextListener = machine.nextListener)
    (bare : ∀ listener, .started listener ∈ marks → other.files.NoSocket path) :
    Consistent path (marks ++ [.missed]) other where
  ordered := by
    rw [filterMap_started?_append rfl]
    exact consistent.ordered
  fresh := by simpa [numbering] using consistent.fresh
  known := by simpa [lives] using consistent.known
  socketPath := by simpa [lives] using consistent.socketPath
  cleaned := by simpa [lives] using consistent.cleaned
  stands := by simp
  bare := by
    intro listener begun _
    exact bare listener (by simpa using begun)

theorem started (consistent : Consistent path marks machine)
    (lives : ∀ listener, other.life? listener =
      if listener = machine.nextListener then some (.start (some path))
      else machine.life? listener)
    (numbering : other.nextListener = machine.nextListener + 1)
    (stands : other.files.HasSocket path machine.nextListener) :
    Consistent path (marks ++ [.started machine.nextListener]) other where
  ordered := by
    rw [List.filterMap_append, List.pairwise_append]
    refine ⟨consistent.ordered, by simp [Mark.started?], fun earlier there last same => ?_⟩
    obtain rfl : last = machine.nextListener := by simpa [Mark.started?] using same
    exact consistent.fresh earlier (started_iff.2 there)
  fresh := by
    intro listener there
    rw [numbering]
    rw [List.mem_append, List.mem_singleton, Mark.started.injEq] at there
    cases there with
    | inl earlier => exact Nat.lt_succ_of_lt (consistent.fresh listener earlier)
    | inr same => exact same ▸ Nat.lt_succ_self _
  known := by
    intro listener life found
    rw [lives] at found
    split at found
    · rename_i same
      simp [same]
    · exact List.mem_append_left _ (consistent.known listener life found)
  socketPath := by
    intro listener life found
    rw [lives] at found
    split at found
    · exact Option.some.inj found ▸ rfl
    · exact consistent.socketPath listener life found
  cleaned := by
    intro listener there
    obtain ⟨begun, gone⟩ := consistent.cleaned listener (by simpa using there)
    refine ⟨List.mem_append_left _ begun, fun life found => ?_⟩
    have older := consistent.fresh listener begun
    rw [lives, if_neg (by omega)] at found
    exact gone life found
  stands := by
    intro listener last
    obtain rfl : machine.nextListener = listener := by simpa using last
    exact stands
  bare := by simp

section Moves

variable {life : Lifecycle} {event : Lifecycle.Event} {step : Lifecycle.Step}

theorem known_next (consistent : Consistent path marks machine)
    (found : machine.life? listener = some life)
    (lives : ∀ owner, other.life? owner =
      if owner = listener then some step.next else machine.life? owner)
    (owner : Nat) (later : Lifecycle) (there : other.life? owner = some later) :
    .started owner ∈ marks := by
  rw [lives] at there
  split at there
  · rename_i same
    exact same ▸ consistent.known listener life found
  · exact consistent.known owner later there

theorem socketPath_next (consistent : Consistent path marks machine)
    (found : machine.life? listener = some life) (transition : Lifecycle.Transition life event step)
    (lives : ∀ owner, other.life? owner =
      if owner = listener then some step.next else machine.life? owner)
    (owner : Nat) (later : Lifecycle) (there : other.life? owner = some later) :
    later.socketPath = some path := by
  rw [lives] at there
  split at there
  · obtain rfl := Option.some.inj there
    exact transition.socketPath_next.trans (consistent.socketPath listener life found)
  · exact consistent.socketPath owner later there

theorem cleaned_next (consistent : Consistent path marks machine)
    (found : machine.life? listener = some life) (transition : Lifecycle.Transition life event step)
    (lives : ∀ owner, other.life? owner =
      if owner = listener then some step.next else machine.life? owner)
    (owner : Nat) (there : .cleaned owner ∈ marks ++ moveMarks listener event) :
    .started owner ∈ marks ∧ ∀ later, other.life? owner = some later → ¬later.socketStands := by
  have begun := consistent.known listener life found
  by_cases removes : event = .removeSocket
  · subst removes
    cases transition with
    | removeSocket closed =>
      by_cases same : owner = listener
      · subst same
        refine ⟨begun, fun later lasts => ?_⟩
        rw [lives, if_pos rfl] at lasts
        obtain rfl := Option.some.inj lasts
        simp [Lifecycle.socketStands]
      · have before : .cleaned owner ∈ marks := by simpa [moveMarks, same] using there
        obtain ⟨started, gone⟩ := consistent.cleaned owner before
        refine ⟨started, fun later lasts => gone later ?_⟩
        rwa [lives, if_neg same] at lasts
  · have before : .cleaned owner ∈ marks := by
      cases event <;> simp_all [moveMarks]
    obtain ⟨started, gone⟩ := consistent.cleaned owner before
    refine ⟨started, fun later lasts => ?_⟩
    rw [lives] at lasts
    split at lasts
    · rename_i same
      subst same
      obtain rfl := Option.some.inj lasts
      exact fun stands => gone life found ((transition.socketStands_next removes).1 stands)
    · exact gone later lasts

theorem next (consistent : Consistent path marks machine)
    (found : machine.life? listener = some life) (moved : life.step? event = some step)
    (lives : ∀ owner, other.life? owner =
      if owner = listener then some step.next else machine.life? owner)
    (numbering : other.nextListener = machine.nextListener)
    (files : other.files = Binding.carryOut machine.files step.effects) :
    Consistent path (marks ++ moveMarks listener event) other := by
  have transition := Lifecycle.transition_of_step? moved
  have begun := consistent.known listener life found
  have cleaned := consistent.cleaned_next found transition lives
  by_cases removes : event = .removeSocket
  · subst removes
    cases transition with
    | removeSocket closed =>
      rw [consistent.socketPath listener life found] at files
      replace files : other.files = Binding.release machine.files path := files
      exact
        { ordered := by
            rw [moveMarks, filterMap_started?_append rfl]
            exact consistent.ordered
          fresh := by simpa [moveMarks, numbering] using consistent.fresh
          known := fun owner later there =>
            List.mem_append_left _ (consistent.known_next found lives owner later there)
          socketPath := consistent.socketPath_next found (.removeSocket closed) lives
          cleaned := by
            intro owner there
            obtain ⟨started, gone⟩ := cleaned owner there
            exact ⟨List.mem_append_left _ started, gone⟩
          stands := by simp [moveMarks]
          bare := fun _ _ _ => files ▸ consistent.released begun }
  · have unmarked : moveMarks listener event = [] := by
      cases event <;> simp_all [moveMarks]
    have same : other.files = machine.files :=
      files.trans (Binding.carryOut_of_isLog (transition.isLog removes))
    rw [unmarked, List.append_nil] at cleaned ⊢
    exact
      { ordered := consistent.ordered
        fresh := by simpa [numbering] using consistent.fresh
        known := consistent.known_next found lives
        socketPath := consistent.socketPath_next found transition lives
        cleaned := cleaned
        stands := fun owner last => same ▸ consistent.stands owner last
        bare := fun owner there last => same ▸ consistent.bare owner there last }

end Moves

end Consistent

theorem consistent_start (tpm : Tpm) (files : FileSystem) :
    Consistent path [] (.start tpm files) where
  ordered := .nil
  fresh := by simp
  known := by simp [Machine.start, life?, member?]
  socketPath := by simp [Machine.start, life?, member?]
  cleaned := by simp
  stands := by simp
  bare := by simp

theorem life?_append (host : Hosted) (files : FileSystem) (next : Nat) (owner : Nat) :
    life? { machine with
      files := files
      members := machine.members ++ [⟨listener, path, keyPath, host⟩]
      nextListener := next } owner =
      ((machine.life? owner).or (if listener = owner then some host.service.life else none)) := by
  unfold life? member?
  rw [List.find?_append]
  cases machine.members.find? (·.listener = owner) with
  | some found => simp
  | none => by_cases same : listener = owner <;> simp [same]

theorem Consistent.startAgent (consistent : Consistent path marks machine) (keyPath : String) :
    Consistent path (marks ++ [startMark (machine.startAgent path keyPath).2.2])
      (machine.startAgent path keyPath).2.1 := by
  cases bound : (Binding.perform machine.files path machine.nextListener).result with
  | error problem =>
    rw [startAgent_of_error bound]
    refine consistent.missed (fun _ => rfl) rfl fun listener begun => ?_
    exact Binding.noSocket_of_perform (consistent.released begun) bound
  | ok =>
    rw [startAgent_of_ok bound]
    refine consistent.started (fun listener => ?_) rfl (Binding.hasSocket_of_perform bound)
    rw [life?_append]
    by_cases same : listener = machine.nextListener
    · subst same
      have absent : machine.life? machine.nextListener = none := by
        cases found : machine.life? machine.nextListener with
        | none => rfl
        | some life =>
          have older := consistent.fresh _ (consistent.known _ life found)
          omega
      simp [absent]
      rfl
    · simp [same, Ne.symm same]

theorem Reaches.consistent (reached : Reaches path marks machine) :
    Consistent path marks machine := by
  induction reached with
  | start tpm files => exact consistent_start tpm files
  | starts keyPath reached consistent => exact consistent.startAgent keyPath
  | @moves _ machine listener _ _ _ host reached found moved lives consistent =>
    refine consistent.next (life?_of_member? found) moved (fun owner => ?_) rfl rfl
    refine (life?_update machine listener owner fun _ => host).trans ?_
    simp [found, lives]
  | besides reached lives numbering alone consistent =>
    exact
      { ordered := consistent.ordered
        fresh := by simpa [numbering] using consistent.fresh
        known := by simpa [lives] using consistent.known
        socketPath := by simpa [lives] using consistent.socketPath
        cleaned := by simpa [lives] using consistent.cleaned
        stands := fun owner last => (consistent.stands owner last).leftAlone alone
        bare := fun owner there last => (consistent.bare owner there last).leftAlone alone }

theorem apply_of_step? {event : Lifecycle.Event} {step : Lifecycle.Step}
    (found : machine.member? listener = some member)
    (apart : ∀ also, event ≠ .loop (.outcome also (.ok ()))) (lasting : event ≠ .connectionEnds)
    (moved : member.host.service.life.step? event = some step) :
    machine.apply listener event =
      (step.effects, (machine.update listener fun _ =>
        { member.host with service := { member.host.service with life := step.next } }).carryOut
          step.effects) := by
  have moves : member.host.service.toRunningAgent.step? member.host.session (.agent event) =
      some (step.effects, { member.host.service.toRunningAgent with life := step.next }) := by
    unfold RunningAgent.step?
    split <;> simp_all
  simp only [apply, found, Hosted.apply, Service.apply, moves]

theorem Reaches.apply (reached : Reaches path marks machine) (listener : Nat)
    (event : Lifecycle.Event) :
    ∃ known, Reaches path known (machine.apply listener event).2 := by
  cases found : machine.member? listener with
  | none => exact ⟨marks, by simpa [Machine.apply, found] using reached⟩
  | some member =>
    simp only [Machine.apply, found, Hosted.apply, Service.apply]
    split
    · rename_i effects next moved
      cases RunningAgent.transition_of_step? moved with
      | agent _ step _ _ moves => exact ⟨_, reached.moves _ found moves rfl⟩
    · refine ⟨marks, reached.besides (fun owner => ?_) rfl ⟨rfl, fun _ _ _ => rfl⟩⟩
      refine (life?_update machine listener owner fun _ => member.host).trans ?_
      split
      · rename_i own
        simp [own, life?, found]
      · rfl

theorem Reaches.applies (reached : Reaches path marks machine) (listener : Nat)
    (event : Lifecycle.Event) (apart : ∀ also, event ≠ .loop (.outcome also (.ok ())))
    (lasting : event ≠ .connectionEnds)
    (possible : ((machine.life? listener).bind (·.step? event)).isSome = true) :
    Reaches path (marks ++ moveMarks listener event) (machine.apply listener event).2 := by
  obtain ⟨step, moves⟩ := Option.isSome_iff_exists.1 possible
  obtain ⟨life, lives, moved⟩ := Option.bind_eq_some_iff.1 moves
  obtain ⟨member, found, rfl⟩ := Option.map_eq_some_iff.1 lives
  rw [apply_of_step? found apart lasting moved]
  exact reached.moves _ found moved rfl

theorem life_deliver (service : Service) (number : Nat) (act : Connection.ClientAct) :
    (service.deliver number act).life = service.life := by
  unfold Service.deliver
  dsimp only
  split <;> rfl

theorem life_close (host : Hosted) (id : String) :
    (host.close id).service.life = host.service.life := by
  unfold Hosted.close
  split
  · rfl
  · simp [life_deliver]

theorem life_connect (host : Hosted) (id : String) :
    (host.connect id).service.life = host.service.life := by
  rw [← life_close host id]
  unfold Hosted.connect Service.queue
  dsimp only
  split <;> rfl

theorem Reaches.connect {next : Machine} {id elsewhere : String}
    (reached : Reaches path marks machine) (connects : machine.connect id elsewhere = .ok next) :
    Reaches path marks next := by
  obtain ⟨listener, _, done⟩ := bind_eq_ok_iff.1 connects
  obtain rfl := Except.ok.inj done
  have hangsUp (owner : Nat) : (machine.hangUp id).life? owner = machine.life? owner ∧
      (machine.hangUp id).files = machine.files ∧
      (machine.hangUp id).nextListener = machine.nextListener := by
    unfold hangUp
    split
    · exact ⟨rfl, rfl, rfl⟩
    · exact ⟨life?_update_of_lives (fun host => life_close host id) _ owner, rfl, rfl⟩
  refine reached.besides (fun owner => ?_) (hangsUp 0).2.2 ?_
  · have connected : ((machine.hangUp id).update listener (·.connect id)).life? owner =
        (machine.hangUp id).life? owner :=
      life?_update_of_lives (fun host => life_connect host id) listener owner
    exact connected.trans (hangsUp owner).1
  · have same := (hangsUp 0).2.1
    exact ⟨by rw [← same]; rfl, fun _ _ _ => by rw [← same]; rfl⟩

end Machine

end SoleKey
