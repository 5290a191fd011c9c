import SoleKey.Bytes

set_option autoImplicit false

namespace SoleKey.Crypto

def powMod (modulus base : Nat) (exponent : Nat) : Nat :=
  if exponent = 0 then 1 % modulus
  else
    let half := powMod modulus (base * base % modulus) (exponent / 2)
    if exponent % 2 = 1 then half * base % modulus else half
termination_by exponent

def invMod (prime value : Nat) : Nat :=
  powMod prime value (prime - 2)

def subMod (modulus left right : Nat) : Nat :=
  (left + (modulus - right % modulus)) % modulus

end SoleKey.Crypto
