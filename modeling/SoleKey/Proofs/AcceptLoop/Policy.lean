import SoleKey.Proofs.AcceptLoop.Timed
import Mathlib.Logic.Relation

set_option autoImplicit false

namespace SoleKey.TimedLoop

open AcceptLoop (pause)

variable {σ : Type}

structure Taken (σ : Type) where
  time : Nat
  cancelled : Bool
  outcome : Except SystemError σ

namespace Taken

def stream? (taken : Taken σ) : Option σ :=
  taken.outcome.toOption

def isPassing (taken : Taken σ) : Bool :=
  match taken.outcome with
  | .error problem => problem.isTransient
  | .ok _ => false

def lasting? (taken : Taken σ) : Option SystemError :=
  match taken.outcome with
  | .error problem => if problem.isTransient then none else some problem
  | .ok _ => none

theorem outcome_of_lasting? {taken : Taken σ} {problem : SystemError}
    (lasting : taken.lasting? = some problem) : taken.outcome = .error problem := by
  unfold lasting? at lasting
  split at lasting
  · rename_i found outcome
    simp only [Option.ite_none_left_eq_some, Option.some.injEq] at lasting
    rw [outcome, lasting.2]
  · cases lasting

end Taken

structure Past (σ : Type) where
  cancelled : Bool
  -- What the loop saw of a request to shut down, each time it was at its top.
  looks : List Bool
  taken : List (Taken σ)
  started : List σ
  -- When pauses were over.
  woken : List Nat

namespace Past

def start (cancelled : Bool) : Past σ :=
  ⟨cancelled, [cancelled], [], [], []⟩

def note (past : Past σ) (timed : TimedLoop) (event : Event σ) (step : Step σ) : Past σ where
  cancelled := past.cancelled || match event with
    | .shutdown => true
    | .outcome also _ => also
    | _ => false
  looks := past.looks ++ match event with
    | .notice | .pauseOver => [past.cancelled]
    | .outcome also (.ok _) => [past.cancelled || also]
    | _ => []
  taken := past.taken ++ match event with
    | .outcome also found => [⟨timed.now, past.cancelled || also, found⟩]
    | _ => []
  started := past.started ++ step.started
  woken := past.woken ++ match event with
    | .pauseOver => [timed.now]
    | _ => []

/-- Only the outcome that was taken last can have brought a request along. -/
structure CancelledLast (past : Past σ) : Prop where
  known : ∀ taken ∈ past.taken, taken.cancelled = true → past.cancelled = true
  before : ∀ taken ∈ past.taken.dropLast, taken.cancelled = false

theorem CancelledLast.later {past later : Past σ} (last : past.CancelledLast)
    (taken : later.taken = past.taken)
    (cancelled : past.cancelled = true → later.cancelled = true) : later.CancelledLast where
  known := fun found there asked => cancelled (last.known found (taken ▸ there) asked)
  before := taken ▸ last.before

theorem CancelledLast.takes {past : Past σ} (last : past.CancelledLast)
    (unasked : past.cancelled = false) (timed : TimedLoop) (also : Bool)
    (found : Except SystemError σ) (step : Step σ) :
    (past.note timed (.outcome also found) step).CancelledLast where
  known := by
    intro taken there asked
    simp only [note, unasked, Bool.false_or, List.mem_append, List.mem_singleton] at there ⊢
    rcases there with before | rfl
    · simp [last.known taken before asked] at unasked
    · exact asked
  before := by
    intro taken there
    rw [note, List.dropLast_concat] at there
    cases asked : taken.cancelled with
    | false => rfl
    | true => simp [last.known taken there asked] at unasked

structure GoesOn (past : Past σ) : Prop where
  quiet : true ∉ past.looks
  noneLasting : ∀ taken ∈ past.taken, taken.lasting? = none

/-- The loop has seen the request at its top, or the outcome it took last is a lasting failure. -/
inductive Ends (past : Past σ) : Except SystemError Unit → Prop where
  | looked (cancelled : past.cancelled = true) (looks : true ∈ past.looks)
      (noneLasting : ∀ taken ∈ past.taken, taken.lasting? = none) : Ends past (.ok ())
  | failed (quiet : true ∉ past.looks) (last : Taken σ) (isLast : past.taken.getLast? = some last)
      (problem : SystemError) (lasting : last.lasting? = some problem)
      (onlyLast : ∀ taken ∈ past.taken, taken.lasting?.isSome = true → taken = last)
      (cancelled : last.cancelled = true → past.cancelled = true) :
      Ends past (if last.cancelled then .ok () else .error problem)

theorem Ends.later {past later : Past σ} {result : Except SystemError Unit}
    (ends : past.Ends result) (looks : later.looks = past.looks)
    (taken : later.taken = past.taken)
    (cancelled : past.cancelled = true → later.cancelled = true) : later.Ends result := by
  cases ends with
  | looked asked seen noneLasting =>
    exact .looked (cancelled asked) (looks ▸ seen) (taken ▸ noneLasting)
  | failed quiet last isLast problem lasting onlyLast known =>
    exact .failed (looks ▸ quiet) last (taken ▸ isLast) problem lasting (taken ▸ onlyLast)
      (cancelled ∘ known)

theorem GoesOn.fails {past : Past σ} (goesOn : past.GoesOn) (timed : TimedLoop) (also : Bool)
    {problem : SystemError} (lasting : problem.isTransient = false) (step : Step σ) :
    (past.note timed (.outcome also (.error problem)) step).Ends
      (if past.cancelled || also then .ok () else .error problem) := by
  let last : Taken σ := ⟨timed.now, past.cancelled || also, .error problem⟩
  have lastFails : last.lasting? = some problem := by simp [last, Taken.lasting?, lasting]
  refine .failed ?quiet last ?isLast problem lastFails ?onlyLast id
  case quiet => simpa [note] using goesOn.quiet
  case isLast => simp [note, last]
  case onlyLast =>
    intro taken there fails
    simp only [note, List.mem_append, List.mem_singleton] at there
    cases there with
    | inl before => simp [goesOn.noneLasting taken before] at fails
    | inr same => exact same

theorem Ends.eq_error_iff {past : Past σ} {result : Except SystemError Unit}
    (ends : past.Ends result) (problem : SystemError) : result = .error problem ↔
      ∃ taken ∈ past.taken, taken.lasting? = some problem ∧ taken.cancelled = false := by
  cases ends with
  | looked _ _ noneLasting =>
    refine ⟨nofun, fun ⟨taken, there, lasting, _⟩ => ?_⟩
    simp [noneLasting taken there] at lasting
  | failed _ last isLast found lasting onlyLast _ =>
    constructor
    · intro same
      cases cancelled : last.cancelled with
      | true => simp [cancelled] at same
      | false =>
        obtain rfl : found = problem := by simpa [cancelled] using same
        exact ⟨last, List.mem_of_getLast? isLast, lasting, cancelled⟩
    · intro ⟨taken, there, fails, unasked⟩
      obtain rfl := onlyLast taken there (by simp [fails])
      obtain rfl : found = problem := Option.some.inj (lasting.symm.trans fails)
      simp [unasked]

theorem Ends.eq_ok_iff {past : Past σ} {result : Except SystemError Unit}
    (ends : past.Ends result) :
    result = .ok () ↔ true ∈ past.looks ∨
      ∃ taken ∈ past.taken, taken.lasting?.isSome = true ∧ taken.cancelled = true := by
  cases ends with
  | looked _ looks _ => simp [looks]
  | failed quiet last isLast found lasting onlyLast _ =>
    constructor
    · intro same
      cases cancelled : last.cancelled with
      | true =>
        exact .inr ⟨last, List.mem_of_getLast? isLast, by simp [lasting], cancelled⟩
      | false => simp [cancelled] at same
    · intro seen
      cases seen with
      | inl looks => exact absurd looks quiet
      | inr failed =>
        obtain ⟨taken, there, fails, asked⟩ := failed
        obtain rfl := onlyLast taken there fails
        simp [asked]

theorem Ends.cancelled {past : Past σ} (ends : past.Ends (.ok ())) : past.cancelled = true := by
  generalize same : Except.ok () = result at ends
  cases ends with
  | looked cancelled => exact cancelled
  | failed _ last _ problem _ _ known =>
    cases asked : last.cancelled with
    | true => exact known asked
    | false => simp [asked] at same

end Past

inductive Reaches : Past σ → TimedLoop → Prop where
  | start (cancelled : Bool) (now : Nat) : Reaches (.start cancelled) (.start cancelled now)
  | next {past : Past σ} {timed : TimedLoop} {event : Event σ} {step : Step σ}
      (reached : Reaches past timed) (moved : timed.step? event = some step) :
      Reaches (past.note timed event step) step.next

structure Consistent (past : Past σ) (timed : TimedLoop) : Prop where
  regular : timed.Regular
  cancelled : timed.loop.shutdown = past.cancelled
  started : past.started = past.taken.filterMap Taken.stream?
  pauses : past.woken ++ timed.pauseEnds.toList =
    (past.taken.filter Taken.isPassing).map (·.time + pause)
  cancelledLast : past.CancelledLast
  goesOn : timed.loop.result? = none → past.GoesOn
  ends : ∀ result, timed.loop.result? = some result → past.Ends result

theorem consistent_start (cancelled : Bool) (now : Nat) :
    Consistent (.start cancelled : Past σ) (.start cancelled now) := by
  cases cancelled with
  | false =>
    exact
      { regular := .accepting false now
        cancelled := rfl
        started := rfl
        pauses := rfl
        cancelledLast := ⟨nofun, nofun⟩
        goesOn := fun _ => ⟨by simp [Past.start], by simp [Past.start]⟩
        ends := fun _ ended => by cases ended }
  | true =>
    exact
      { regular := .ended (.ok ()) true now
        cancelled := rfl
        started := rfl
        pauses := rfl
        cancelledLast := ⟨nofun, nofun⟩
        goesOn := fun running => by cases running
        ends := fun result ended => by
          obtain rfl : Except.ok () = result := Option.some.inj ended
          exact .looked rfl (by simp [Past.start]) (by simp [Past.start]) }

variable {past : Past σ} {timed : TimedLoop} {event : Event σ} {step : Step σ}

namespace Consistent

theorem cancelled_next (consistent : Consistent past timed)
    (transition : Transition timed event step) :
    step.next.loop.shutdown = (past.note timed event step).cancelled := by
  have cancelled := consistent.cancelled
  cases transition with
  | shutdown => simp [Past.note]
  | servesLast | failsLate => simp [Past.note]
  | pauses also => exact congrArg (· || also) cancelled
  | notices | serves | fails | resumes | resumesLate | passes =>
    simpa [Past.note] using cancelled

theorem started_next (consistent : Consistent past timed)
    (transition : Transition timed event step) :
    (past.note timed event step).started =
      (past.note timed event step).taken.filterMap Taken.stream? := by
  have started := consistent.started
  cases transition with
  | serves | servesLast | pauses | failsLate | fails =>
    simpa [Past.note, Taken.stream?, Except.toOption, List.filterMap_cons] using started
  | shutdown | notices | resumes | resumesLate | passes => simpa [Past.note] using started

theorem pauses_next (consistent : Consistent past timed)
    (transition : Transition timed event step) :
    (past.note timed event step).woken ++ step.next.pauseEnds.toList =
      ((past.note timed event step).taken.filter Taken.isPassing).map (·.time + pause) := by
  have pauses := consistent.pauses
  cases transition with
  | serves | servesLast => simpa [Past.note, Taken.isPassing] using pauses
  | pauses _ _ _ passing => simpa [Past.note, Taken.isPassing, passing] using pauses
  | failsLate _ _ lasting | fails _ _ lasting =>
    simpa [Past.note, Taken.isPassing, lasting] using pauses
  | shutdown | notices | resumes | resumesLate | passes => simpa [Past.note] using pauses

theorem cancelledLast_next (consistent : Consistent past timed)
    (transition : Transition timed event step) : (past.note timed event step).CancelledLast := by
  have last := consistent.cancelledLast
  cases transition with
  | serves | servesLast | pauses | failsLate | fails =>
    exact last.takes consistent.cancelled.symm _ _ _ _
  | shutdown | notices | resumes | resumesLate | passes =>
    exact last.later (by simp [Past.note]) (by simp +contextual [Past.note])

theorem goesOn_next (consistent : Consistent past timed)
    (transition : Transition timed event step) (running : step.next.loop.result? = none) :
    (past.note timed event step).GoesOn := by
  cases transition with
  | notices | servesLast | failsLate | fails | resumesLate => cases running
  | shutdown | passes =>
    have goesOn := consistent.goesOn running
    exact ⟨by simpa [Past.note] using goesOn.quiet, by simpa [Past.note] using goesOn.noneLasting⟩
  | serves | resumes =>
    have goesOn := consistent.goesOn rfl
    have unasked : past.cancelled = false := consistent.cancelled.symm
    constructor
    · simpa [Past.note, unasked] using goesOn.quiet
    · simpa [Past.note, Taken.lasting?, or_imp, forall_and] using goesOn.noneLasting
  | pauses _ _ problem passing =>
    have goesOn := consistent.goesOn rfl
    constructor
    · simpa [Past.note] using goesOn.quiet
    · simpa [Past.note, Taken.lasting?, passing, or_imp, forall_and] using goesOn.noneLasting

theorem ends_next (consistent : Consistent past timed) (transition : Transition timed event step)
    (result : Except SystemError Unit) (ended : step.next.loop.result? = some result) :
    (past.note timed event step).Ends result := by
  cases transition with
  | serves | pauses | resumes => cases ended
  | shutdown | passes =>
    have ends := consistent.ends result ended
    exact ends.later (by simp [Past.note]) (by simp [Past.note]) (by simp +contextual [Past.note])
  | notices | resumesLate =>
    obtain rfl : Except.ok () = result := Option.some.inj ended
    have goesOn := consistent.goesOn rfl
    have asked : past.cancelled = true := consistent.cancelled.symm
    refine .looked ?_ ?_ ?_
    · simp [Past.note, asked]
    · simp [Past.note, asked]
    · simpa [Past.note] using goesOn.noneLasting
  | servesLast =>
    obtain rfl : Except.ok () = result := Option.some.inj ended
    have goesOn := consistent.goesOn rfl
    refine .looked ?_ ?_ ?_
    · simp [Past.note]
    · simp [Past.note]
    · simpa [Past.note, Taken.lasting?, or_imp, forall_and] using goesOn.noneLasting
  | failsLate now problem lasting =>
    obtain rfl : Except.ok () = result := Option.some.inj ended
    simpa using (consistent.goesOn rfl).fails _ true lasting _
  | fails now problem lasting =>
    obtain rfl : Except.error problem = result := Option.some.inj ended
    have unasked : past.cancelled = false := consistent.cancelled.symm
    simpa [unasked] using (consistent.goesOn rfl).fails _ false lasting _

end Consistent

def Leads : Past σ × TimedLoop → Past σ × TimedLoop → Prop :=
  Relation.ReflTransGen fun earlier later => ∃ event step,
    earlier.2.step? event = some step ∧ later = (earlier.1.note earlier.2 event step, step.next)

theorem Reaches.consistent (reached : Reaches past timed) : Consistent past timed := by
  induction reached with
  | start cancelled now => exact consistent_start cancelled now
  | next _ moved consistent =>
    have transition := transition_of_step? consistent.regular moved
    exact
      { regular := consistent.regular.next transition
        cancelled := consistent.cancelled_next transition
        started := consistent.started_next transition
        pauses := consistent.pauses_next transition
        cancelledLast := consistent.cancelledLast_next transition
        goesOn := consistent.goesOn_next transition
        ends := consistent.ends_next transition }

theorem Transition.uninterrupted (transition : Transition timed event step)
    (pauses : timed.pauseEnds.isSome = true) (early : event ≠ .pauseOver) :
    step.next.pauseEnds = timed.pauseEnds ∧ step.started = [] := by
  cases transition with
  | shutdown | passes => exact ⟨rfl, rfl⟩
  | resumes | resumesLate => exact absurd rfl early
  | notices | serves | servesLast | pauses | failsLate | fails => cases pauses

theorem Transition.pauses_of_passing {also : Bool} {problem : SystemError}
    (transition : Transition timed (.outcome also (.error problem)) step)
    (passing : problem.isTransient = true) :
    step.next.loop.result? = none ∧ step.next.pauseEnds = some (timed.now + pause) := by
  cases transition with
  | pauses => exact ⟨rfl, rfl⟩
  | failsLate _ _ lasting | fails _ _ lasting => simp [passing] at lasting

theorem Transition.final (transition : Transition timed event step)
    (ended : timed.loop.result?.isSome = true) :
    step.next.loop.result? = timed.loop.result? := by
  cases transition with
  | shutdown | passes => rfl
  | notices | serves | servesLast | pauses | failsLate | fails | resumes | resumesLate =>
    cases ended

namespace Consistent

theorem takes_iff (consistent : Consistent past timed) (also : Bool)
    (found : Except SystemError σ) : (timed.step? (.outcome also found)).isSome = true ↔
      timed.loop.result? = none ∧ timed.pauseEnds = none ∧ past.cancelled = false := by
  rw [← consistent.cancelled, ← consistent.regular.takes_iff]
  simp [step?]

theorem taken_next (consistent : Consistent past timed) (asked : past.cancelled = true)
    (moved : timed.step? event = some step) :
    (past.note timed event step).taken = past.taken ∧
      (past.note timed event step).cancelled = true := by
  cases event with
  | outcome also found =>
    have taken := (consistent.takes_iff also found).1 (by simp [moved])
    simp [asked] at taken
  | shutdown | notice | pauseOver | passes => simp [Past.note, asked]

theorem result_eq_error_iff (consistent : Consistent past timed) (problem : SystemError) :
    timed.loop.result? = some (.error problem) ↔
      ∃ taken ∈ past.taken, taken.lasting? = some problem ∧ taken.cancelled = false := by
  cases found : timed.loop.result? with
  | none => simp +contextual [(consistent.goesOn found).noneLasting]
  | some result => simpa using (consistent.ends result found).eq_error_iff problem

theorem result_eq_ok_iff (consistent : Consistent past timed) :
    timed.loop.result? = some (.ok ()) ↔ true ∈ past.looks ∨
      ∃ taken ∈ past.taken, taken.lasting?.isSome = true ∧ taken.cancelled = true := by
  cases found : timed.loop.result? with
  | none =>
    have goesOn := consistent.goesOn found
    simp +contextual [goesOn.quiet, goesOn.noneLasting]
  | some result => simpa using (consistent.ends result found).eq_ok_iff

theorem last_of_error (consistent : Consistent past timed) {problem : SystemError}
    (ended : timed.loop.result? = some (.error problem)) :
    ∃ last, past.taken.getLast? = some last ∧ last.outcome = .error problem := by
  obtain ⟨taken, there, lasting, _⟩ := (consistent.result_eq_error_iff problem).1 ended
  generalize same : Except.error problem = result at ended
  cases consistent.ends result ended with
  | looked => cases same
  | failed _ last isLast _ _ onlyLast _ =>
    obtain rfl := onlyLast taken there (by simp [lasting])
    exact ⟨taken, isLast, Taken.outcome_of_lasting? lasting⟩

theorem result_of_pauseOver (consistent : Consistent past timed)
    (moved : timed.step? .pauseOver = some step) :
    step.next.loop.result? = if past.cancelled then some (.ok ()) else none := by
  have cancelled := consistent.cancelled
  cases transition_of_step? consistent.regular moved with
  | resumes | resumesLate => simp [← cancelled, AcceptLoop.result?]

theorem notices (consistent : Consistent past timed) (running : timed.loop.result? = none)
    (awake : timed.pauseEnds = none) (asked : past.cancelled = true) :
    ∃ step, timed.step? (.notice : Event σ) = some step ∧
      step.next.loop.result? = some (.ok ()) := by
  have cancelled := consistent.cancelled.trans asked
  cases consistent.regular with
  | accepting shutdown now =>
    obtain rfl : shutdown = true := cancelled
    exact ⟨_, rfl, rfl⟩
  | pausing => cases awake
  | ended => cases running

end Consistent

theorem Reaches.leads (reached : Reaches past timed) {later : Past σ × TimedLoop}
    (leads : Leads (past, timed) later) : Reaches later.1 later.2 := by
  induction leads with
  | refl => exact reached
  | tail _ moved reached =>
    obtain ⟨event, step, moved, rfl⟩ := moved
    exact reached.next moved

theorem Reaches.takes_no_more (reached : Reaches past timed) (asked : past.cancelled = true)
    {later : Past σ × TimedLoop} (leads : Leads (past, timed) later) :
    later.1.taken = past.taken ∧ later.1.cancelled = true := by
  induction leads with
  | refl => exact ⟨rfl, asked⟩
  | tail earlier moved same =>
    obtain ⟨event, step, moved, rfl⟩ := moved
    obtain ⟨kept, still⟩ := (reached.leads earlier).consistent.taken_next same.2 moved
    exact ⟨kept.trans same.1, still⟩

/-- How a loop has answered what it was given, and what it will do with more of it. -/
structure FollowsPolicy (past : Past σ) (timed : TimedLoop) : Prop where
  eachStreamStarted : past.started = past.taken.filterMap Taken.stream?
  -- The pauses that are over, and then the one that is not: each a second from its failure on.
  eachPause : past.woken ++ timed.pauseEnds.toList =
    (past.taken.filter Taken.isPassing).map (·.time + 1000)
  pausing : timed.loop.isPausing = timed.pauseEnds.isSome
  neverOverdue : ∀ due, timed.pauseEnds = some due → timed.now ≤ due
  uninterrupted : ∀ event step, timed.step? (event : Event σ) = some step →
    timed.pauseEnds.isSome = true → event ≠ .pauseOver →
      step.next.pauseEnds = timed.pauseEnds ∧ step.started = []
  takes : ∀ also found, (timed.step? (.outcome also found : Event σ)).isSome = true ↔
    timed.loop.result? = none ∧ timed.pauseEnds = none ∧ past.cancelled = false
  -- Nothing more is taken after a request, whether it came alone or with an outcome.
  takesNoMore : past.cancelled = true → ∀ later next, Leads (past, timed) (later, next) →
    later.taken = past.taken
  cancelledLast : ∀ taken ∈ past.taken.dropLast, taken.cancelled = false
  wakes : ∀ step, timed.step? (.pauseOver : Event σ) = some step →
    step.next.loop.result? = if past.cancelled then some (.ok ()) else none
  notices : timed.loop.result? = none → timed.pauseEnds = none → past.cancelled = true →
    ∃ step, timed.step? (.notice : Event σ) = some step ∧ step.next.loop.result? = some (.ok ())
  endsOnceSeen : true ∈ past.looks → timed.loop.result? = some (.ok ())
  final : ∀ event step, timed.step? (event : Event σ) = some step →
    timed.loop.result?.isSome = true → step.next.loop.result? = timed.loop.result?
  passingNeverEnds : ∀ also problem step, problem.isTransient = true →
    timed.step? (.outcome also (.error problem) : Event σ) = some step →
      step.next.loop.result? = none ∧ step.next.pauseEnds = some (timed.now + 1000)
  fails : ∀ problem, timed.loop.result? = some (.error problem) ↔
    ∃ taken ∈ past.taken, taken.lasting? = some problem ∧ taken.cancelled = false
  failsLast : ∀ problem, timed.loop.result? = some (.error problem) →
    ∃ last, past.taken.getLast? = some last ∧ last.outcome = .error problem
  succeeds : timed.loop.result? = some (.ok ()) ↔ true ∈ past.looks ∨
    ∃ taken ∈ past.taken, taken.lasting?.isSome = true ∧ taken.cancelled = true
  onlyCancelled : timed.loop.result? = some (.ok ()) → past.cancelled = true

theorem follows_policy (reached : Reaches past timed) : FollowsPolicy past timed := by
  have consistent := reached.consistent
  exact
    { eachStreamStarted := consistent.started
      eachPause := consistent.pauses
      pausing := by cases consistent.regular <;> rfl
      neverOverdue := by
        intro due pauses
        cases consistent.regular with
        | accepting | ended => cases pauses
        | pausing _ _ _ ahead =>
          obtain rfl := Option.some.inj pauses
          exact ahead
      uninterrupted := fun _ _ moved =>
        (transition_of_step? consistent.regular moved).uninterrupted
      takes := consistent.takes_iff
      takesNoMore := fun asked _ _ leads => (reached.takes_no_more asked leads).1
      cancelledLast := consistent.cancelledLast.before
      wakes := fun _ => consistent.result_of_pauseOver
      notices := consistent.notices
      endsOnceSeen := fun seen => consistent.result_eq_ok_iff.2 (.inl seen)
      final := fun _ _ moved => (transition_of_step? consistent.regular moved).final
      passingNeverEnds := fun _ _ _ passing moved =>
        (transition_of_step? consistent.regular moved).pauses_of_passing passing
      fails := consistent.result_eq_error_iff
      failsLast := fun _ => consistent.last_of_error
      succeeds := consistent.result_eq_ok_iff
      onlyCancelled := fun ended => (consistent.ends _ ended).cancelled }

theorem Past.note_passes (past : Past σ) (timed next : TimedLoop) :
    past.note timed .passes ⟨[], [], next⟩ = past := by
  simp [note]

theorem Reaches.sleeps {loop : AcceptLoop} {now : Nat} {pauseEnds : Option Nat}
    (reached : Reaches past ⟨loop, now, pauseEnds⟩) (count : Nat)
    (early : ∀ due, pauseEnds = some due → now + count ≤ due) :
    Reaches past ⟨loop, now + count, pauseEnds⟩ := by
  induction count with
  | zero => exact reached
  | succ count ih =>
    have before : pauseEnds ≠ some (now + count) := by
      intro due
      have bound := early _ due
      omega
    have moved : step? ⟨loop, now + count, pauseEnds⟩ (.passes : Event σ) =
        some ⟨[], [], ⟨loop, now + count + 1, pauseEnds⟩⟩ := if_neg before
    have slept := ih fun due pauses => Nat.le_of_succ_le (early due pauses)
    exact past.note_passes _ _ ▸ slept.next moved

theorem pauses_beyond_shutdown : ∃ (past : Past Nat) (timed : TimedLoop),
    Reaches past timed ∧ past.started = [1] ∧ past.woken = [1000] ∧
      timed.loop.result? = some (.ok ()) ∧ FollowsPolicy past timed := by
  have served := (Reaches.start false 0).next
    (rfl : step? _ (.outcome false (.ok 1)) = some _)
  have paused := served.next
    (rfl : step? _ (.outcome false (.error (.bare .wouldBlock))) = some _)
  -- The request comes as the pause begins, and is not looked at before the pause is over.
  have asked := paused.next (rfl : step? _ .shutdown = some _)
  have slept := asked.sleeps 1000 fun due pauses => Nat.le_of_eq (Option.some.inj pauses)
  have ended := slept.next (rfl : step? _ .pauseOver = some _)
  exact ⟨_, _, ended, rfl, rfl, rfl, follows_policy ended⟩

end SoleKey.TimedLoop
