import SoleKey.Binding
import SoleKey.Lifecycle

set_option autoImplicit false

namespace SoleKey

structure BoundAgent where
  life : Lifecycle
  files : FileSystem

namespace BoundAgent

def start (files : FileSystem) (path : String) : BoundAgent :=
  ⟨.start (some path), files⟩

def step? (agent : BoundAgent) (event : Lifecycle.Event) : Option (List Effect × BoundAgent) :=
  (agent.life.step? event).map fun step =>
    (step.effects, ⟨step.next, Binding.carryOut agent.files step.effects⟩)

end BoundAgent

end SoleKey
