import SoleKey.Service

set_option autoImplicit false

namespace SoleKey

structure Hosted where
  service : Service
  session : Session
  tpm : Tpm
  now : Nat
  -- Clients that still hold their end, and the numbers of their connections.
  clients : List (String × Nat)
  nextNumber : Nat
  dropped : Bool

namespace Hosted

abbrev Step := List Effect × Hosted

def start (socketPath : Option String) (session : Session) (tpm : Tpm) : Hosted :=
  ⟨.start socketPath, session, tpm, 0, [], 0, false⟩

def settle (host : Hosted) (load : Load) : Step :=
  let (effects, service) := host.service.settle host.session load host.tpm host.now
  (effects, { host with service := service })

def elapse (host : Hosted) (load : Load) (duration : Nat) : Step :=
  let limit := host.now + duration
  let (effects, service) :=
    Service.elapse host.session load host.tpm limit (duration + 1) [] host.service
  (effects, { host with service := service, now := limit })

def client? (host : Hosted) (id : String) : Option Nat :=
  host.clients.lookup id

/-- What a client still asks is answered into the void once it has gone. -/
def brokenSink : Sink := ⟨some 0, some (.bare .brokenPipe), none⟩

def close (host : Hosted) (id : String) : Hosted :=
  match host.client? id with
  | none => host
  | some number =>
    { host with
      service := (host.service.deliver number (.takes brokenSink)).deliver number (.sends .finished)
      clients := host.clients.filter (·.1 ≠ id) }

def connect (host : Hosted) (id : String) : Hosted :=
  let host := host.close id
  { host with
    service := host.service.queue (.ok (host.nextNumber, .start .unlimited))
    clients := host.clients ++ [(id, host.nextNumber)]
    nextNumber := host.nextNumber + 1 }

def fail (host : Hosted) (problem : SystemError) : Hosted :=
  { host with service := host.service.queue (.error problem) }

def isClosed (host : Hosted) (number : Nat) : Bool :=
  host.service.isClosed number

def send (host : Hosted) (id : String) (content : Bytes) : Except SystemError Hosted :=
  match host.client? id with
  | none => .ok host
  | some number =>
    if host.isClosed number then .error (.bare .brokenPipe)
    else .ok { host with service := host.service.deliver number (.sends (.bytes content)) }

def collect (host : Hosted) : List (String × Bytes × Bool) × Hosted :=
  let found := host.clients.map fun (id, number) =>
    (id, ((host.service.find? number).map Connection.written).getD [], host.isClosed number)
  let emptied := host.clients.foldl (fun service (_, number) =>
    service.deliver number .collects) host.service
  (found, { host with service := emptied })

def apply (host : Hosted) (event : Lifecycle.Event) : Step :=
  let (effects, service) := host.service.apply host.session (.agent event)
  (effects, { host with service := service })

def call (host : Hosted) (id : String) (request : Lifecycle.Request) : Step :=
  if host.dropped then ([], host) else host.apply (.call ⟨id, request⟩)

def drop (host : Hosted) : Step :=
  let (effects, next) := host.apply .dropped
  (effects, { next with dropped := true })

end Hosted

end SoleKey
