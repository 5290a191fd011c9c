import SoleKey.Proofs.SigningLock.History

set_option autoImplicit false

namespace SoleKey

namespace SigningLock

variable {ι : Type} [DecidableEq ι]

def Event.PanicsIn (event : Event ι) (work : Work ι) : Prop :=
  event = .panic work.ticket.caller ∨
    ∃ tpm made, work.progress = .acting .crashed tpm made

/-- Exclusion in one state, told from the events that are possible there and from its history. -/
structure FirstComeExclusion (history : History ι) (lock : SigningLock ι) : Prop where
  atMostOne : lock.working.length ≤ 1
  heldIffWorking : lock.held = true ↔ lock.working ≠ []
  unfinished : history.granted = history.turns.map (·.ticket) ++ lock.working.map (·.ticket)
  keptUntilEnd : ∀ event step, lock.step? event = some step → lock.held = true →
    step.next.held = false → ∃ caller, event = .finish caller ∨ event = .panic caller
  releasedAtEnd : ∀ event caller step, event = .finish caller ∨ event = .panic caller →
    lock.step? event = some step → step.next = ⟨false, lock.waiting, []⟩
  grantedToOldest : lock.step? .grant =
    if lock.held then none
    else lock.waiting.head?.map fun oldest =>
      ⟨[.loaded], [], ⟨true, lock.waiting.tail, [⟨oldest, .loading, true⟩]⟩⟩
  panicTold : ∀ caller step, lock.step? (.panic caller) = some step →
    ∃ work, lock.working = [work] ∧ work.ticket.caller = caller ∧
      step.delivered = work.told (.error .worker)
  onlyOwnTold : ∀ event step caller outcome, lock.step? event = some step →
    (caller, outcome) ∈ step.delivered →
    ∃ work, lock.working = [work] ∧ work.ticket.caller = caller ∧ work.callerPresent = true ∧
      (outcome = .error .worker ↔ event.PanicsIn work)
  inOrder : (history.granted ++ lock.waiting).Sublist history.arrived
  noneLost : (history.granted ++ lock.waiting ++ history.withdrawn).Perm history.arrived
  withoutWithdrawn : history.arrived.Nodup →
    history.granted ++ lock.waiting = history.arrived.filter (· ∉ history.withdrawn)

omit [DecidableEq ι] in
theorem mem_told {work : Work ι} {outcome told : Except SigningError KeyResult} {caller : ι}
    (member : (caller, told) ∈ work.told outcome) :
    work.ticket.caller = caller ∧ work.callerPresent = true ∧ told = outcome := by
  unfold Work.told at member
  split at member
  · rename_i present
    simp only [List.mem_singleton, Prod.mk.injEq] at member
    exact ⟨member.1.symm, present, member.2⟩
  · simp at member

theorem Transition.end_of_released {lock : SigningLock ι} {event : Event ι} {step : Step ι}
    (transition : Transition lock event step) (held : lock.held = true)
    (released : step.next.held = false) :
    ∃ caller, event = .finish caller ∨ event = .panic caller := by
  cases transition with
  | finish _ ticket => exact ⟨ticket.caller, .inl rfl⟩
  | panic _ ticket => exact ⟨ticket.caller, .inr rfl⟩
  | arrive | leave =>
    have same : lock.held = false := released
    simp [held] at same
  | grant | load | act => simp_all

theorem Transition.free_after_end {lock : SigningLock ι} {event : Event ι} {caller : ι}
    {step : Step ι} (transition : Transition lock event step)
    (ends : event = .finish caller ∨ event = .panic caller) :
    step.next = ⟨false, lock.waiting, []⟩ := by
  cases transition with
  | finish | panic => rfl
  | arrive | grant | load | act | leave => simp at ends

theorem Exclusive.step?_grant {lock : SigningLock ι} (exclusive : lock.Exclusive) :
    lock.step? .grant =
      if lock.held then none
      else lock.waiting.head?.map fun oldest =>
        ⟨[.loaded], [], ⟨true, lock.waiting.tail, [⟨oldest, .loading, true⟩]⟩⟩ := by
  cases exclusive with
  | idle waiting => cases waiting <;> rfl
  | busy waiting work => rfl

theorem Transition.told_own {lock : SigningLock ι} {event : Event ι} {step : Step ι} {caller : ι}
    {outcome : Except SigningError KeyResult} (transition : Transition lock event step)
    (delivered : (caller, outcome) ∈ step.delivered) :
    ∃ work, lock.working = [work] ∧ work.ticket.caller = caller ∧ work.callerPresent = true ∧
      (outcome = .error .worker ↔ event.PanicsIn work) := by
  cases transition with
  | finish waiting ticket present found tpm made complete =>
    obtain ⟨own, there, rfl⟩ := mem_told delivered
    refine ⟨_, rfl, own, there, ?_⟩
    simp [KeyOperation.conclude_worker, Event.PanicsIn]
  | panic waiting ticket present found tpm made =>
    obtain ⟨own, there, rfl⟩ := mem_told delivered
    exact ⟨_, rfl, own, there, by simp [Event.PanicsIn]⟩
  | arrive | grant | load | act | leave => simp at delivered

theorem eq_filter_of_sublist_of_perm {all kept gone : List (Ticket ι)} (different : all.Nodup)
    (inOrder : kept.Sublist all) (parted : (kept ++ gone).Perm all) :
    kept = all.filter (· ∉ gone) := by
  -- The kept tickets are as many as the others leave over, and stand in the same order.
  have apart := (List.nodup_append.1 (parted.nodup_iff.2 different)).2.2
  have keptStays : kept.filter (· ∉ gone) = kept := by
    apply List.filter_eq_self.2
    intro ticket member
    simpa using fun left => apart ticket member ticket left rfl
  have goneGoes : gone.filter (· ∉ gone) = [] := by simp
  have sameTickets : kept.Perm (all.filter (· ∉ gone)) := by
    have filtered := parted.filter (· ∉ gone)
    rwa [List.filter_append, keptStays, goneGoes, List.append_nil] at filtered
  have sameOrder : kept.Sublist (all.filter (· ∉ gone)) := by
    have filtered := inOrder.filter (· ∉ gone)
    rwa [keptStays] at filtered
  exact sameOrder.eq_of_length sameTickets.length_eq

theorem first_come_exclusion {history : History ι} {lock : SigningLock ι}
    (reached : Reaches history lock) : FirstComeExclusion history lock where
  atMostOne := by cases reached.consistent.exclusive <;> simp
  heldIffWorking := by cases reached.consistent.exclusive <;> simp
  unfinished := reached.consistent.granted
  keptUntilEnd _ _ moved held released :=
    (transition_of_step? reached.consistent.exclusive moved).end_of_released held released
  releasedAtEnd _ _ _ ends moved :=
    (transition_of_step? reached.consistent.exclusive moved).free_after_end ends
  grantedToOldest := reached.consistent.exclusive.step?_grant
  panicTold caller step moved := by
    cases transition_of_step? reached.consistent.exclusive moved with
    | panic => exact ⟨_, rfl, rfl, rfl⟩
  onlyOwnTold _ _ _ _ moved delivered :=
    (transition_of_step? reached.consistent.exclusive moved).told_own delivered
  inOrder := reached.consistent.inOrder
  noneLost := reached.consistent.complete
  withoutWithdrawn different :=
    eq_filter_of_sublist_of_perm different reached.consistent.inOrder reached.consistent.complete

theorem third_call_follows_first : ∃ (history : History Nat) (lock : SigningLock Nat),
    Reaches history lock ∧ history.arrived.map (·.caller) = [1, 2, 3] ∧
      history.granted.map (·.caller) = [1, 3] ∧ FirstComeExclusion history lock := by
  have first := (Reaches.start).next (rfl : step? free (.arrive ⟨1, .list⟩) = some _)
  have second := first.next (rfl : step? _ (.arrive ⟨2, .list⟩) = some _)
  have third := second.next (rfl : step? _ (.arrive ⟨3, .list⟩) = some _)
  have granted := third.next (rfl : step? _ .grant = some _)
  -- The first caller leaves while its call is at work, the second while it waits.
  have forsaken := granted.next (rfl : step? _ (.leave 1) = some _)
  have withdrawn := forsaken.next (rfl : step? _ (.leave 2) = some _)
  have crashed := withdrawn.next
    (rfl : step? _ (.load 1 .crashed ⟨.ok (), fun _ _ _ => .error .keyMismatch, .ok ()⟩) = some _)
  have panicked := crashed.next (rfl : step? _ (.panic 1) = some _)
  have last := panicked.next (rfl : step? _ .grant = some _)
  exact ⟨_, _, last, rfl, rfl, first_come_exclusion last⟩

end SigningLock

end SoleKey
