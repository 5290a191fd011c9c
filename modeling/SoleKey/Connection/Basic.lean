import SoleKey.Connection.Sink
import SoleKey.Session

set_option autoImplicit false

namespace SoleKey

abbrev KeyContinuation := Except SigningError KeyResult -> List Effect × Reply

namespace Connection

inductive Phase where
  | reading
  | waiting (operation : KeyOperation) (finish : KeyContinuation)
  | ended (result : Except ConnectionError Unit)

end Connection

structure Connection where
  phase : Connection.Phase
  buffer : Bytes
  -- How the input ends after the bytes in the buffer, once that is known.
  ending : Option (Except SystemError Unit)
  sink : Sink
  -- Newest first.
  pieces : List Bytes

namespace Connection

def start (sink : Sink) : Connection :=
  ⟨.reading, [], none, sink, []⟩

def isNew (connection : Connection) : Bool :=
  match connection.phase with
  | .reading => connection.pieces.isEmpty
  | _ => false

def written (connection : Connection) : Bytes :=
  connection.pieces.reverse.flatten

def emptied (connection : Connection) : Connection :=
  { connection with pieces := [] }

def close (connection : Connection) (result : Except ConnectionError Unit) : Connection :=
  { connection with phase := .ended result }

def result? (connection : Connection) : Option (Except ConnectionError Unit) :=
  match connection.phase with
  | .ended result => some result
  | _ => none

def send (connection : Connection) (reply : Reply) : Connection :=
  match Frame.encode? reply.encode with
  | none => connection.close (.error (.io Frame.tooBig))
  | some frame =>
    let (sink, taken, result) := connection.sink.write frame
    let sent := { connection with sink := sink, pieces := taken :: connection.pieces }
    match result with
    | .ok () => { sent with phase := .reading }
    | .error problem => sent.close (.error (.io problem))

inductive Arrival where
  | bytes (content : Bytes)
  | failure (problem : SystemError)
  | finished
  deriving DecidableEq, Repr

-- Nothing arrives after the end of the input.
def receive (connection : Connection) (arrival : Arrival) : Connection :=
  match connection.ending, arrival with
  | some _, _ => connection
  | none, .bytes content => { connection with buffer := connection.buffer ++ content }
  | none, .failure problem => { connection with ending := some (.error problem) }
  | none, .finished => { connection with ending := some (.ok ()) }

inductive ClientAct where
  | sends (arrival : Arrival)
  -- From now on replies go to this sink.
  | takes (sink : Sink)
  -- What was written so far is gone.
  | collects
  deriving DecidableEq, Repr

def after (connection : Connection) : ClientAct -> Connection
  | .sends arrival => connection.receive arrival
  | .takes sink => { connection with sink := sink }
  | .collects => connection.emptied

def finalResult (buffer : Bytes) : Except SystemError Unit -> Except ConnectionError Unit
  | .error problem => .error (.io problem)
  | .ok () => if Frame.mayEnd buffer then .ok () else .error (.io Frame.cutShort)

inductive Taken where
  | request (body : Bytes) (opened : Connection)
  | ended (closed : Connection)

def take? (connection : Connection) : Option Taken :=
  match connection.phase with
  | .waiting .. | .ended _ => none
  | .reading =>
    match Frame.next connection.buffer with
    | .incomplete =>
      connection.ending.map fun ending =>
        .ended (connection.close (finalResult connection.buffer ending))
    | .oversized => some (.ended (connection.close (.error .oversized)))
    | .frame body rest => some (.request body { connection with buffer := rest })

def poll? (session : Session) (connection : Connection) : Option (List Effect × Connection) :=
  connection.take?.map fun
    | .ended closed => ([], closed)
    | .request body opened =>
      match session body with
      | .done effects reply => (effects, opened.send reply)
      | .keyed operation finish => ([], { opened with phase := .waiting operation finish })

def resume (connection : Connection) (outcome : Except SigningError KeyResult) :
    List Effect × Connection :=
  match connection.phase with
  | .waiting _ finish =>
    let (effects, reply) := finish outcome
    (effects, connection.send reply)
  | _ => ([], connection)

variable {σ : Type}

def answer? (handler : Handler σ) (state : σ) (connection : Connection) :
    Option (List Effect × σ × Connection) :=
  connection.take?.map fun
    | .ended closed => ([], state, closed)
    | .request body opened =>
      let (effects, reply, next) := handler state body
      (effects, next, opened.send reply)

def answers (handler : Handler σ) :
    Nat -> List (List Effect) -> σ -> Connection -> List (List Effect) × σ × Connection
  | 0, effects, state, connection => (effects, state, connection)
  | fuel + 1, effects, state, connection =>
    match connection.answer? handler state with
    | none => (effects, state, connection)
    | some (more, state, next) => answers handler fuel (more :: effects) state next

def settle (handler : Handler σ) (state : σ) (connection : Connection) :
    List Effect × σ × Connection :=
  let (effects, state, settled) :=
    answers handler (connection.buffer.length + 2) [] state connection
  (effects.reverse.flatten, state, settled)

def serve (handler : Handler σ) (state : σ) (connection : Connection) :
    List Arrival -> List Effect × σ × Connection
  | [] => ([], state, connection)
  | arrival :: rest =>
    let (effects, state, settled) := (connection.receive arrival).settle handler state
    let (more, state, served) := serve handler state settled rest
    (effects ++ more, state, served)

def arrive (session : Session) (load : Load) (tpm : Tpm) (connection : Connection)
    (arrival : Arrival) : List Effect × Connection :=
  let (effects, _, served) := connection.serve (session.handler load tpm) () [arrival]
  (effects, served)

def endLine : Except ConnectionError Unit -> Effect
  | .ok () => .debug "Agent client disconnected"
  | .error problem => .warn ("Agent client connection ended with error: " ++ problem.message)

end Connection

end SoleKey
