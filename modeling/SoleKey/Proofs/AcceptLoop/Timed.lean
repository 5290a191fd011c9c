import SoleKey.AcceptLoop.Timed
import SoleKey.Proofs.AcceptLoop

set_option autoImplicit false

namespace SoleKey

namespace TimedLoop

open AcceptLoop (accepted shutDown pause)

inductive Regular : TimedLoop → Prop where
  | accepting (shutdown : Bool) (now : Nat) : Regular ⟨⟨.accepting, shutdown⟩, now, none⟩
  | pausing (shutdown : Bool) (now due : Nat) (ahead : now ≤ due) :
      Regular ⟨⟨.pausing, shutdown⟩, now, some due⟩
  | ended (result : Except SystemError Unit) (shutdown : Bool) (now : Nat) :
      Regular ⟨⟨.ended result, shutdown⟩, now, none⟩

variable {σ : Type}

inductive Transition : TimedLoop → Event σ → Step σ → Prop where
  | shutdown (timed : TimedLoop) :
      Transition timed .shutdown
        ⟨[], [], { timed with loop := { timed.loop with shutdown := true } }⟩
  | notices (now : Nat) :
      Transition ⟨⟨.accepting, true⟩, now, none⟩ .notice
        ⟨shutDown, [], ⟨⟨.ended (.ok ()), true⟩, now, none⟩⟩
  | serves (now : Nat) (stream : σ) :
      Transition ⟨⟨.accepting, false⟩, now, none⟩ (.outcome false (.ok stream))
        ⟨[accepted], [stream], ⟨⟨.accepting, false⟩, now, none⟩⟩
  -- An outcome that is taken although a request is there brought the request along.
  | servesLast (now : Nat) (stream : σ) :
      Transition ⟨⟨.accepting, false⟩, now, none⟩ (.outcome true (.ok stream))
        ⟨accepted :: shutDown, [stream], ⟨⟨.ended (.ok ()), true⟩, now, none⟩⟩
  | pauses (also : Bool) (now : Nat) (problem : SystemError)
      (passing : problem.isTransient = true) :
      Transition ⟨⟨.accepting, false⟩, now, none⟩ (.outcome also (.error problem))
        ⟨[.warn ("Temporary accept error, sleeping 1s: " ++ problem.message)], [],
          ⟨⟨.pausing, also⟩, now, some (now + pause)⟩⟩
  | failsLate (now : Nat) (problem : SystemError) (lasting : problem.isTransient = false) :
      Transition ⟨⟨.accepting, false⟩, now, none⟩ (.outcome true (.error problem))
        ⟨[.debug ("Accept failed during shutdown: " ++ problem.message)], [],
          ⟨⟨.ended (.ok ()), true⟩, now, none⟩⟩
  | fails (now : Nat) (problem : SystemError) (lasting : problem.isTransient = false) :
      Transition ⟨⟨.accepting, false⟩, now, none⟩ (.outcome false (.error problem))
        ⟨[.error ("Failed to accept connections: " ++ problem.message)], [],
          ⟨⟨.ended (.error problem), false⟩, now, none⟩⟩
  | resumes (due : Nat) :
      Transition ⟨⟨.pausing, false⟩, due, some due⟩ .pauseOver
        ⟨[], [], ⟨⟨.accepting, false⟩, due, none⟩⟩
  | resumesLate (due : Nat) :
      Transition ⟨⟨.pausing, true⟩, due, some due⟩ .pauseOver
        ⟨shutDown, [], ⟨⟨.ended (.ok ()), true⟩, due, none⟩⟩
  | passes (timed : TimedLoop) (ahead : timed.pauseEnds ≠ some timed.now) :
      Transition timed .passes ⟨[], [], { timed with now := timed.now + 1 }⟩

theorem Regular.takes_iff {timed : TimedLoop} (regular : timed.Regular) :
    timed.loop.takes = true ↔
      timed.loop.result? = none ∧ timed.pauseEnds = none ∧ timed.loop.shutdown = false := by
  cases regular <;> simp [AcceptLoop.takes_iff, AcceptLoop.result?]

theorem Regular.eq_of_takes {timed : TimedLoop} (regular : timed.Regular)
    (takes : timed.loop.takes = true) : timed = ⟨⟨.accepting, false⟩, timed.now, none⟩ := by
  cases regular with
  | accepting shutdown now =>
    obtain rfl : shutdown = false := by simpa [AcceptLoop.takes_iff] using takes
    rfl
  | pausing | ended => simp [AcceptLoop.takes_iff] at takes

theorem transition_of_outcome (also : Bool) (now : Nat) (found : Except SystemError σ) :
    Transition ⟨⟨.accepting, false⟩, now, none⟩ (.outcome also found)
      (loopStep ⟨⟨.accepting, false⟩, now, none⟩ found.toOption.toList
        (.outcome also (found.map fun _ => ()))) := by
  cases found with
  | ok stream =>
    cases also with
    | true => exact .servesLast now stream
    | false => exact .serves now stream
  | error problem =>
    have took : AcceptLoop.step ⟨.accepting, false⟩ (.outcome also (.error problem)) =
        AcceptLoop.failed also problem := by rw [AcceptLoop.step_outcome rfl, Bool.false_or]; rfl
    cases passing : problem.isTransient with
    | true =>
      have pauses := Transition.pauses (σ := σ) also now problem passing
      simpa [loopStep, Except.map, took, AcceptLoop.failed, AcceptLoop.isPausing, passing]
        using pauses
    | false =>
      cases also with
      | true =>
        have fails := Transition.failsLate (σ := σ) now problem passing
        simpa [loopStep, Except.map, took, AcceptLoop.failed, AcceptLoop.isPausing, passing]
          using fails
      | false =>
        have fails := Transition.fails (σ := σ) now problem passing
        simpa [loopStep, Except.map, took, AcceptLoop.failed, AcceptLoop.isPausing, passing]
          using fails

theorem transition_of_step? {timed : TimedLoop} {event : Event σ} {step : Step σ}
    (regular : timed.Regular) (moved : timed.step? event = some step) :
    Transition timed event step := by
  cases event with
  | shutdown =>
    obtain rfl := Option.some.inj moved
    have asks := Transition.shutdown (σ := σ) timed
    cases regular <;> exact asks
  | notice =>
    simp only [step?, Option.ite_none_right_eq_some, Option.some.injEq] at moved
    obtain ⟨⟨accepts, asked⟩, rfl⟩ := moved
    cases regular with
    | accepting shutdown now =>
      obtain rfl : shutdown = true := asked
      exact .notices now
    | pausing | ended => simp [AcceptLoop.isAccepting] at accepts
  | outcome also found =>
    simp only [step?, Option.ite_none_right_eq_some, Option.some.injEq] at moved
    obtain ⟨takes, rfl⟩ := moved
    rw [regular.eq_of_takes takes]
    exact transition_of_outcome also timed.now found
  | pauseOver =>
    simp only [step?, Option.ite_none_right_eq_some, Option.some.injEq] at moved
    obtain ⟨awake, rfl⟩ := moved
    cases regular with
    | accepting | ended => simp at awake
    | pausing shutdown now due ahead =>
      obtain rfl : due = now := by simpa using awake
      cases shutdown with
      | false => exact .resumes due
      | true => exact .resumesLate due
  | passes =>
    simp only [step?, Option.ite_none_left_eq_some, Option.some.injEq] at moved
    obtain ⟨ahead, rfl⟩ := moved
    exact .passes timed ahead

theorem Regular.step?_shutdown {timed : TimedLoop} (regular : timed.Regular) :
    timed.step? (.shutdown : Event σ) =
      some ⟨[], [], { timed with loop := { timed.loop with shutdown := true } }⟩ := by
  cases regular <;> rfl

theorem Regular.next {timed : TimedLoop} {event : Event σ} {step : Step σ}
    (regular : timed.Regular) (transition : Transition timed event step) : step.next.Regular := by
  cases transition with
  | shutdown =>
    cases regular with
    | accepting _ now => exact .accepting true now
    | pausing _ now due ahead => exact .pausing true now due ahead
    | ended result _ now => exact .ended result true now
  | serves | resumes => exact .accepting ..
  | pauses => exact .pausing _ _ _ (Nat.le_add_right ..)
  | notices | servesLast | failsLate | fails | resumesLate => exact .ended ..
  | passes _ early =>
    cases regular with
    | accepting shutdown now => exact .accepting shutdown (now + 1)
    | ended result shutdown now => exact .ended result shutdown (now + 1)
    | pausing shutdown now due ahead =>
      have before : now ≠ due := fun same => early (congrArg some same.symm)
      exact .pausing shutdown (now + 1) due (by omega)

end TimedLoop

end SoleKey
