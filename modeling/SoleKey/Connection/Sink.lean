import SoleKey.Connection.Frame

set_option autoImplicit false

namespace SoleKey

structure Sink where
  room : Option Nat
  refusal : Option SystemError
  flushFailure : Option SystemError
  deriving DecidableEq, Repr

namespace Sink

def unlimited : Sink := ⟨none, none, none⟩

def stalled : SystemError := .described .writeZero "failed to write frame to transport"

def flush (sink : Sink) : Except SystemError Unit :=
  match sink.flushFailure with
  | none => .ok ()
  | some problem => .error problem

-- A write past the limit takes what still fits, and then fails or takes nothing more.
def write (sink : Sink) (bytes : Bytes) : Sink × Bytes × Except SystemError Unit :=
  match sink.room with
  | none => (sink, bytes, sink.flush)
  | some room =>
    let taken := bytes.take room
    let left : Sink := ⟨some (room - taken.length), sink.refusal, sink.flushFailure⟩
    if taken.length = bytes.length then (left, taken, sink.flush)
    else (left, taken, .error (sink.refusal.getD stalled))

end Sink

end SoleKey
