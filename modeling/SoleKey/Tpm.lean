import SoleKey.Error
import SoleKey.Signature

set_option autoImplicit false

namespace SoleKey

structure Tpm where
  opens : Except TpmError Unit
  signs : StoredKey -> Algorithm -> Bytes -> Except TpmError Signature
  closes : Except TpmError Unit

inductive TpmCall where
  | opened
  | signed (key : StoredKey) (algorithm : Algorithm) (data : Bytes)
  | closed
  deriving DecidableEq, Repr

end SoleKey
