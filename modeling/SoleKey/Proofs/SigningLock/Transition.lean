import SoleKey.SigningLock

set_option autoImplicit false

namespace SoleKey.SigningLock

variable {ι : Type}

inductive Exclusive : SigningLock ι → Prop where
  | idle (waiting : List (Ticket ι)) : Exclusive ⟨false, waiting, []⟩
  | busy (waiting : List (Ticket ι)) (work : Work ι) : Exclusive ⟨true, waiting, [work]⟩

variable [DecidableEq ι]

inductive Transition : SigningLock ι → Event ι → Step ι → Prop where
  | arrive (lock : SigningLock ι) (ticket : Ticket ι) :
      Transition lock (.arrive ticket) ⟨[], [], { lock with waiting := lock.waiting ++ [ticket] }⟩
  | grant (oldest : Ticket ι) (rest : List (Ticket ι)) :
      Transition ⟨false, oldest :: rest, []⟩ .grant
        ⟨[.loaded], [], ⟨true, rest, [⟨oldest, .loading, true⟩]⟩⟩
  | load (waiting : List (Ticket ι)) (ticket : Ticket ι) (present : Bool) (found : Load)
      (tpm : Tpm) :
      Transition ⟨true, waiting, [⟨ticket, .loading, present⟩]⟩ (.load ticket.caller found tpm)
        ⟨[], [], ⟨true, waiting, [⟨ticket, .acting found tpm 0, present⟩]⟩⟩
  | act (waiting : List (Ticket ι)) (ticket : Ticket ι) (present : Bool) (found : Load)
      (tpm : Tpm) (made : Nat) (effect : Effect)
      (ahead : (ticket.operation.conclude found tpm).1[made]? = some effect) :
      Transition ⟨true, waiting, [⟨ticket, .acting found tpm made, present⟩]⟩ (.act ticket.caller)
        ⟨[effect], [], ⟨true, waiting, [⟨ticket, .acting found tpm (made + 1), present⟩]⟩⟩
  | finish (waiting : List (Ticket ι)) (ticket : Ticket ι) (present : Bool) (found : Load)
      (tpm : Tpm) (made : Nat) (complete : made = (ticket.operation.conclude found tpm).1.length) :
      Transition ⟨true, waiting, [⟨ticket, .acting found tpm made, present⟩]⟩
        (.finish ticket.caller)
        ⟨[], Work.told ⟨ticket, .acting found tpm made, present⟩
          (ticket.operation.conclude found tpm).2, ⟨false, waiting, []⟩⟩
  | panic (waiting : List (Ticket ι)) (ticket : Ticket ι) (present : Bool) (found : Load)
      (tpm : Tpm) (made : Nat) :
      Transition ⟨true, waiting, [⟨ticket, .acting found tpm made, present⟩]⟩
        (.panic ticket.caller)
        ⟨[], Work.told ⟨ticket, .acting found tpm made, present⟩ (.error .worker),
          ⟨false, waiting, []⟩⟩
  | leave (lock : SigningLock ι) (caller : ι) :
      Transition lock (.leave caller) ⟨[], [], lock.leave caller⟩

theorem workOf?_idle (waiting : List (Ticket ι)) (caller : ι) :
    (⟨false, waiting, []⟩ : SigningLock ι).workOf? caller = none := rfl

theorem workOf?_busy (waiting : List (Ticket ι)) (work : Work ι) (caller : ι) :
    (⟨true, waiting, [work]⟩ : SigningLock ι).workOf? caller =
      if work.ticket.caller = caller then some work else none := by
  by_cases own : work.ticket.caller = caller <;> simp [workOf?, own]

theorem busy_of_workOf? {lock : SigningLock ι} (exclusive : lock.Exclusive) {caller : ι}
    {work : Work ι} (found : lock.workOf? caller = some work) :
    lock = ⟨true, lock.waiting, [work]⟩ ∧ work.ticket.caller = caller := by
  cases exclusive with
  | idle waiting => simp [workOf?_idle] at found
  | busy waiting other =>
    rw [workOf?_busy] at found
    split at found
    · rename_i own
      simp only [Option.some.injEq] at found
      subst found
      exact ⟨rfl, own⟩
    · simp at found

theorem setProgress_busy (waiting : List (Ticket ι)) (ticket : Ticket ι) (present : Bool)
    (old new : Progress) :
    (⟨true, waiting, [⟨ticket, old, present⟩]⟩ : SigningLock ι).setProgress ticket.caller new =
      ⟨true, waiting, [⟨ticket, new, present⟩]⟩ := by
  simp [setProgress]

theorem release_busy (waiting : List (Ticket ι)) (work : Work ι)
    (outcome : Except SigningError KeyResult) :
    (⟨true, waiting, [work]⟩ : SigningLock ι).release work outcome =
      ⟨[], work.told outcome, ⟨false, waiting, []⟩⟩ := by
  simp [release]

theorem transition_of_step? {lock : SigningLock ι} {event : Event ι} {step : Step ι}
    (exclusive : lock.Exclusive) (moved : lock.step? event = some step) :
    Transition lock event step := by
  cases event with
  | arrive ticket =>
    simp only [step?, Option.some.injEq] at moved
    exact moved ▸ .arrive lock ticket
  | leave caller =>
    simp only [step?, Option.some.injEq] at moved
    exact moved ▸ .leave lock caller
  | grant =>
    cases exclusive with
    | busy waiting work => simp [step?] at moved
    | idle waiting =>
      cases waiting with
      | nil => simp [step?] at moved
      | cons oldest rest =>
        simp only [step?, Option.some.injEq] at moved
        exact moved ▸ .grant oldest rest
  | load caller found tpm =>
    simp only [step?, Option.bind_eq_bind, Option.bind_eq_some_iff] at moved
    obtain ⟨⟨ticket, progress, present⟩, own, moved⟩ := moved
    obtain ⟨busy, rfl⟩ := busy_of_workOf? exclusive own
    cases progress with
    | acting => simp at moved
    | loading =>
      rw [busy, setProgress_busy] at moved
      simp only [Option.some.injEq] at moved
      rw [busy, ← moved]
      exact .load ..
  | act caller =>
    simp only [step?, Option.bind_eq_bind, Option.bind_eq_some_iff] at moved
    obtain ⟨⟨ticket, progress, present⟩, own, moved⟩ := moved
    obtain ⟨busy, rfl⟩ := busy_of_workOf? exclusive own
    cases progress with
    | loading => simp at moved
    | acting found tpm made =>
      obtain ⟨effect, ahead, moved⟩ := Option.bind_eq_some_iff.1 moved
      rw [busy, setProgress_busy] at moved
      simp only [Option.some.injEq] at moved
      rw [busy, ← moved]
      exact .act _ _ _ _ _ _ _ ahead
  | finish caller =>
    simp only [step?, Option.bind_eq_bind, Option.bind_eq_some_iff] at moved
    obtain ⟨⟨ticket, progress, present⟩, own, moved⟩ := moved
    obtain ⟨busy, rfl⟩ := busy_of_workOf? exclusive own
    cases progress with
    | loading => simp at moved
    | acting found tpm made =>
      by_cases complete : made = (ticket.operation.conclude found tpm).1.length
      · rw [busy] at moved
        simp only [if_pos complete, release_busy, Option.some.injEq] at moved
        rw [busy, ← moved]
        exact .finish _ _ _ _ _ _ complete
      · simp [complete] at moved
  | panic caller =>
    simp only [step?, Option.bind_eq_bind, Option.bind_eq_some_iff] at moved
    obtain ⟨⟨ticket, progress, present⟩, own, moved⟩ := moved
    obtain ⟨busy, rfl⟩ := busy_of_workOf? exclusive own
    cases progress with
    | loading => simp at moved
    | acting found tpm made =>
      rw [busy, release_busy] at moved
      simp only [Option.some.injEq] at moved
      rw [busy, ← moved]
      exact .panic ..

theorem step?_of_transition {lock : SigningLock ι} {event : Event ι} {step : Step ι}
    (transition : Transition lock event step) : lock.step? event = some step := by
  cases transition with
  | arrive | grant | leave => rfl
  | load => simp [step?, workOf?_busy, setProgress_busy]
  | act _ _ _ _ _ _ _ ahead => simp [step?, workOf?_busy, setProgress_busy, ahead]
  | finish _ _ _ _ _ _ complete => simp [step?, workOf?_busy, release_busy, complete]
  | panic => simp [step?, workOf?_busy, release_busy]

theorem Exclusive.next {lock : SigningLock ι} (exclusive : lock.Exclusive) {event : Event ι}
    {step : Step ι} (transition : Transition lock event step) : step.next.Exclusive := by
  cases transition with
  | arrive _ ticket =>
    cases exclusive with
    | idle waiting => exact .idle (waiting ++ [ticket])
    | busy waiting work => exact .busy (waiting ++ [ticket]) work
  | grant => exact .busy ..
  | load => exact .busy ..
  | act => exact .busy ..
  | finish => exact .idle ..
  | panic => exact .idle ..
  | leave _ caller =>
    cases exclusive with
    | idle => exact .idle ..
    | busy => exact .busy ..

end SoleKey.SigningLock
