import SoleKey.Proofs.Machine.History
import SoleKey.SoftwareTpm

set_option autoImplicit false

namespace SoleKey

namespace Machine

variable {path : String} {marks : List Mark} {machine : Machine} {listener : Nat}

namespace Consistent

variable {before after : List Mark} {owner : Nat}

end Consistent

def idle : Machine := start softwareTpm (.empty 0o022)

def alone : Machine := (idle.startAgent "agent.sock" "ssh.key").2.1

def stopCall : Lifecycle.Event := .call ⟨"stop", .stop⟩

end Machine

end SoleKey
