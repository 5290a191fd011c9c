import SoleKey.Binding
import SoleKey.KeySource
import SoleKey.Service.Clients

set_option autoImplicit false

namespace SoleKey

namespace Machine

structure Member where
  listener : Nat
  path : String
  keyPath : String
  host : Hosted

structure Client where
  id : String
  listener : Nat
  -- What the client has received and not yet taken.
  received : Bytes

inductive Received where
  | reply (body : Bytes)
  | closed
  | nothing
  deriving DecidableEq, Repr

end Machine

structure Machine where
  tpm : Tpm
  files : FileSystem
  members : List Machine.Member
  clients : List Machine.Client
  nextListener : Nat

namespace Machine

abbrev Step := List Effect × Machine

def start (tpm : Tpm) (files : FileSystem) : Machine :=
  ⟨tpm, files, [], [], 0⟩

def member? (machine : Machine) (listener : Nat) : Option Member :=
  machine.members.find? (·.listener = listener)

def update (machine : Machine) (listener : Nat) (change : Hosted -> Hosted) : Machine :=
  { machine with
    members := machine.members.map fun found =>
      if found.listener = listener then { found with host := change found.host } else found }

def carryOut (machine : Machine) (effects : List Effect) : Machine :=
  { machine with files := Binding.carryOut machine.files effects }

def load (machine : Machine) (found : Member) : Load :=
  StoredKey.load found.keyPath (machine.files.read found.keyPath)

def deliver (machine : Machine) (listener : Nat) : Machine :=
  match machine.member? listener with
  | none => machine
  | some found =>
    let (written, host) := found.host.collect
    let receive (client : Client) : Client :=
      match written.lookup client.id with
      | some (bytes, _) =>
        if client.listener = listener then { client with received := client.received ++ bytes }
        else client
      | none => client
    { machine.update listener (fun _ => host) with clients := machine.clients.map receive }

def settleOne (state : Step) (listener : Nat) : Step :=
  let (effects, machine) := state
  match machine.member? listener with
  | none => state
  | some found =>
    let (more, host) := found.host.settle (machine.load found)
    let settled := (machine.update listener fun _ => host).carryOut more
    (effects ++ more, settled.deliver listener)

def settle (machine : Machine) : Step :=
  (machine.members.map (·.listener)).foldl settleOne ([], machine)

def startAgent (machine : Machine) (path keyPath : String) :
    List Effect × Machine × Except AgentError Nat :=
  let listener := machine.nextListener
  let bound := Binding.perform machine.files path listener
  match bound.result with
  | .error problem => (bound.effects, { machine with files := bound.files }, .error problem)
  | .ok () =>
    let host := Hosted.start (some path) (Session.ofAgent Agent.overStoredKey) machine.tpm
    (bound.effects,
      { machine with
        files := bound.files
        members := machine.members ++ [⟨listener, path, keyPath, host⟩]
        nextListener := listener + 1 },
      .ok listener)

def apply (machine : Machine) (listener : Nat) (event : Lifecycle.Event) : Step :=
  match machine.member? listener with
  | none => ([], machine)
  | some found =>
    let (effects, host) := found.host.apply event
    (effects, (machine.update listener fun _ => host).carryOut effects)

def life? (machine : Machine) (listener : Nat) : Option Lifecycle :=
  (machine.member? listener).map (·.host.service.life)

def setLife (machine : Machine) (listener : Nat) (life : Lifecycle) : Machine :=
  machine.update listener fun host =>
    { host with service := { host.service with life := life } }

def isListening (machine : Machine) (listener : Nat) : Bool :=
  match machine.member? listener with
  | some found => found.host.service.listening
  | none => false

def reach (machine : Machine) (path : String) : Except SystemError Nat := do
  let listener ← machine.files.listenerAt path
  if machine.isListening listener then .ok listener else .error .connectionRefused

def client? (machine : Machine) (id : String) : Option Client :=
  machine.clients.find? (·.id = id)

def hangUp (machine : Machine) (id : String) : Machine :=
  match machine.client? id with
  | none => machine
  | some client =>
    { machine.update client.listener (·.close id) with
      clients := machine.clients.filter (·.id ≠ id) }

def connect (machine : Machine) (id path : String) : Except SystemError Machine := do
  let listener ← machine.reach path
  let ready := machine.hangUp id
  .ok { ready.update listener (·.connect id) with
        clients := ready.clients ++ [⟨id, listener, []⟩] }

def isClosed (machine : Machine) (client : Client) : Bool :=
  match machine.member? client.listener with
  | none => true
  | some found =>
    match found.host.client? client.id with
    | none => true
    | some number => found.host.isClosed number

def send (machine : Machine) (id : String) (content : Bytes) : Except SystemError Machine :=
  match machine.client? id with
  | none => .ok machine
  | some client =>
    if machine.isClosed client then .error .brokenPipe
    else
      .ok (machine.update client.listener fun host => (host.send id content).toOption.getD host)

def take (machine : Machine) (id : String) : Received × Machine :=
  match machine.client? id with
  | none => (.nothing, machine)
  | some client =>
    match Frame.next client.received with
    | .frame body rest =>
      let taken (other : Client) : Client :=
        if other.id = id then { other with received := rest } else other
      (.reply body, { machine with clients := machine.clients.map taken })
    | .oversized | .incomplete =>
      if machine.isClosed client then (.closed, machine) else (.nothing, machine)

end Machine

end SoleKey
