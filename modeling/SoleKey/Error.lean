import SoleKey.StoredKey
import SoleKey.SystemError
import SoleKey.Text.Quoted

set_option autoImplicit false

namespace SoleKey

inductive KeyError where
  | read (path : String) (source : SystemError)
  | record (problem : RecordError)
  | dataHome (text : String)
  deriving DecidableEq, Repr

inductive TpmError where
  | openFailed (text : String)
  | closeFailed (text : String)
  | unsealFailed (text : String)
  | keyMismatch
  | unsupportedAlgorithm (requested key : Algorithm)
  | signFailed (text : String)
  deriving DecidableEq, Repr

inductive SigningError where
  | key (problem : KeyError)
  | tpm (problem : TpmError)
  | noMatchingKey
  | unsupported
  | extensionUnsupported
  | encoding (problem : WireError)
  | worker
  deriving DecidableEq, Repr

inductive AgentError where
  | createDir (path : String) (source : SystemError)
  | bind (path : String) (source : SystemError)
  | permissions (path : String) (source : SystemError)
  | accept (source : SystemError)
  | key (problem : KeyError)
  deriving DecidableEq, Repr

inductive ConnectionError where
  | io (source : SystemError)
  | oversized
  | encoding (problem : WireError)
  deriving DecidableEq, Repr

def RecordError.message : RecordError -> String
  | .header found =>
      "not a tpm-ssh-agent key file (unexpected header " ++ Text.quoted found ++ ")"
  | .trailingData count => "unexpected " ++ toString count ++ " trailing bytes after key data"
  | .wire problem => "malformed key data: " ++ problem.message
  | .publicKey problem => "invalid public key: " ++ problem.message

def KeyError.message : KeyError -> String
  | .read path source => "failed to read key file " ++ path ++ ": " ++ source.message
  | .record problem => problem.message
  | .dataHome text => "cannot determine data directory: " ++ text

def TpmError.message : TpmError -> String
  | .openFailed text => "failed to open TPM transport: " ++ text
  | .closeFailed text => "failed to close TPM transport: " ++ text
  | .unsealFailed text => "failed to unseal key: " ++ text
  | .keyMismatch => "sealed key does not match the stored public key"
  | .unsupportedAlgorithm requested key =>
      "algorithm " ++ requested.name ++ " is not supported for a " ++ key.name ++ " key"
  | .signFailed text => "signing failed: " ++ text

def SigningError.message : SigningError -> String
  | .key problem => problem.message
  | .tpm problem => problem.message
  | .noMatchingKey => "no private keys match the requested public key"
  | .unsupported => "operation unsupported"
  | .extensionUnsupported => "extension not supported"
  | .encoding problem => "failed to encode public key: " ++ problem.message
  | .worker => "signing worker failed: task panicked"

def AgentError.message : AgentError -> String
  | .createDir path source =>
      "failed to create UNIX socket folder " ++ path ++ ": " ++ source.message
  | .bind path source => "failed to listen on UNIX socket " ++ path ++ ": " ++ source.message
  | .permissions path source =>
      "failed to restrict permissions of " ++ path ++ ": " ++ source.message
  | .accept source => "failed to accept connections: " ++ source.message
  | .key problem => problem.message

def AgentError.chain (problem : AgentError) : List String :=
  problem.message ::
    match problem with
    | .createDir _ source | .bind _ source | .permissions _ source | .accept source
    | .key (.read _ source) => [source.message]
    | .key _ => []

def ConnectionError.message : ConnectionError -> String
  | .io source => source.message
  | .oversized => "request exceeds the maximum message size"
  | .encoding problem => "failed to encode reply: " ++ problem.message

end SoleKey
