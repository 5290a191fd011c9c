import SoleKey.AcceptLoop

set_option autoImplicit false

namespace SoleKey

structure TimedLoop where
  loop : AcceptLoop
  now : Nat
  pauseEnds : Option Nat

namespace TimedLoop

inductive Event (σ : Type) where
  | shutdown
  | notice
  | outcome (alsoShutdown : Bool) (found : Except SystemError σ)
  | pauseOver
  | passes

structure Step (σ : Type) where
  effects : List Effect
  -- Streams that were handed to tasks of their own.
  started : List σ
  next : TimedLoop

variable {σ : Type}

def start (shutdown : Bool) (now : Nat) : TimedLoop :=
  ⟨(AcceptLoop.start shutdown).next, now, none⟩

def loopStep (timed : TimedLoop) (streams : List σ) (event : AcceptLoop.Event) : Step σ :=
  let step := timed.loop.step event
  let pauseEnds := if step.next.isPausing then
      some (timed.pauseEnds.getD (timed.now + AcceptLoop.pause)) else none
  ⟨step.effects, if step.spawns then streams else [], ⟨step.next, timed.now, pauseEnds⟩⟩

def step? (timed : TimedLoop) : Event σ -> Option (Step σ)
  | .shutdown => some (timed.loopStep [] .shutdown)
  | .notice =>
      if timed.loop.isAccepting ∧ timed.loop.shutdown then some (timed.loopStep [] .notice)
      else none
  | .outcome alsoShutdown found =>
      if timed.loop.takes then
        some (timed.loopStep found.toOption.toList
          (.outcome alsoShutdown (found.map fun _ => ())))
      else none
  | .pauseOver =>
      if timed.pauseEnds = some timed.now then
        some ({ timed with pauseEnds := none }.loopStep [] .pauseOver)
      else none
  | .passes =>
      if timed.pauseEnds = some timed.now then none
      else some ⟨[], [], { timed with now := timed.now + 1 }⟩

end TimedLoop

end SoleKey
