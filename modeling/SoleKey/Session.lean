import SoleKey.Reply
import SoleKey.Request

set_option autoImplicit false

namespace SoleKey

abbrev Session := Bytes -> Plan Reply

abbrev Handler (σ : Type) := σ -> Bytes -> List Effect × Reply × σ

namespace Session

def handler (session : Session) (load : Load) (tpm : Tpm) : Handler Unit :=
  fun _ body =>
    let (effects, reply) := (session body).run load tpm
    (effects, reply, ())

def ofRequests (handle : Request -> Plan Reply) : Session :=
  fun body =>
    match Request.decode body with
    | .ok request => handle request
    | .error problem => .done [.debug ("Malformed agent request: " ++ problem.message)] .failure

def conclude : Except SigningError Answer -> List Effect × Reply
  | .ok answer => ([], answer.reply)
  | .error problem => ([.debug ("Agent request failed: " ++ problem.message)], .failure)

def ofAgent (agent : Agent) : Session :=
  ofRequests fun request =>
    match request.call? with
    | some call => (agent call).andThen conclude
    | none => .done [] .failure

def ofExtensions (handle : Extension -> Reply) : Session :=
  ofRequests fun
    | .extension asked => .done [] (handle asked)
    | _ => .done [] .failure

end Session

end SoleKey
