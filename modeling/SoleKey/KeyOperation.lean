import SoleKey.Effect

set_option autoImplicit false

namespace SoleKey

inductive KeyOperation where
  | list
  | sign (requested : PublicKey) (data : Bytes) (flags : SignatureFlags)
  deriving DecidableEq, Repr

inductive KeyResult where
  | identities (found : List Identity)
  | signature (made : Signature)
  deriving DecidableEq, Repr

inductive Load where
  | loaded (key : StoredKey)
  | failed (problem : KeyError)
  | crashed
  deriving DecidableEq, Repr

namespace StoredKey

-- A signature that is made stays valid even if the transport does not close.
def signWith (key : StoredKey) (tpm : Tpm) (algorithm : Algorithm) (data : Bytes) :
    List Effect × Except TpmError Signature :=
  if !key.publicKey.algorithm.sameFamily algorithm then
    ([], .error (.unsupportedAlgorithm algorithm key.publicKey.algorithm))
  else
    match tpm.opens with
    | .error problem => ([.tpm .opened], .error problem)
    | .ok () =>
      let warning :=
        match tpm.closes with
        | .ok () => []
        | .error problem => [Effect.warn problem.message]
      ([.tpm .opened, .tpm (.signed key algorithm data), .tpm .closed] ++ warning,
        tpm.signs key algorithm data)

end StoredKey

namespace KeyOperation

def signLine (algorithm : Algorithm) (data : Bytes) : Effect :=
  .debug ("Signing " ++ toString data.length ++ " bytes with " ++ algorithm.name)

def runLoaded (operation : KeyOperation) (key : StoredKey) (tpm : Tpm) :
    List Effect × Except SigningError KeyResult :=
  match operation with
  | .list => ([], .ok (.identities [key.identity]))
  | .sign requested data flags =>
    if key.publicKey.encode ≠ requested.encode then ([], .error .noMatchingKey)
    else
      let algorithm := requested.signatureAlgorithm flags
      let (effects, result) := key.signWith tpm algorithm data
      (signLine algorithm data :: effects, (result.map .signature).mapError .tpm)

def conclude (operation : KeyOperation) (load : Load) (tpm : Tpm) :
    List Effect × Except SigningError KeyResult :=
  match load with
  | .crashed => ([], .error .worker)
  | .failed problem => ([], .error (.key problem))
  | .loaded key => operation.runLoaded key tpm

def run (operation : KeyOperation) (load : Load) (tpm : Tpm) :
    List Effect × Except SigningError KeyResult :=
  let (effects, result) := operation.conclude load tpm
  (.loaded :: effects, result)

end KeyOperation

end SoleKey
