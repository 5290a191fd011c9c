import SoleKey.KeySource
import SoleKey.SigningLock

set_option autoImplicit false

namespace SoleKey

structure GuardedKey (ι : Type) where
  lock : SigningLock ι
  file : KeyFile

namespace GuardedKey

variable {ι : Type} [DecidableEq ι]

inductive Event (ι : Type) where
  | call (event : SigningLock.Event ι)
  | replace (file : KeyFile)

structure Step (ι : Type) where
  effects : List Effect
  delivered : List (ι × Except SigningError KeyResult)
  next : GuardedKey ι

def isTrue (source : KeySource) (file : KeyFile) : SigningLock.Event ι -> Bool
  | .load _ found _ => found = source.load file
  | _ => true

def step? (source : KeySource) (state : GuardedKey ι) : Event ι -> Option (Step ι)
  | .call event =>
      if isTrue source state.file event then
        (state.lock.step? event).map fun step =>
          ⟨step.effects, step.delivered, { state with lock := step.next }⟩
      else none
  | .replace file => some ⟨[], [], { state with file := file }⟩

end GuardedKey

end SoleKey
