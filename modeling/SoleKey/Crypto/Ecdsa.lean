import SoleKey.Algorithm
import SoleKey.Crypto.DeterministicNonce
import SoleKey.Crypto.Modular

set_option autoImplicit false

namespace SoleKey.Crypto.Ecdsa

structure Parameters where
  prime : Nat
  order : Nat
  baseX : Nat
  baseY : Nat
  hash : HashFunction

def parameters : Curve -> Parameters
  | .p256 => {
    prime := Nat.pow 2 256 - Nat.pow 2 224 + Nat.pow 2 192 + Nat.pow 2 96 - 1
    order :=
      115792089210356248762697446949407573529996955224135760342422259061068512044369
    baseX :=
      48439561293906451759052585252797914202762949526041747995844080717082404635286
    baseY :=
      36134250956749795798585127919587881956611106672985015071877198253568414405109
    hash := .sha256 }
  | .p384 => {
    prime := Nat.pow 2 384 - Nat.pow 2 128 - Nat.pow 2 96 + Nat.pow 2 32 - 1
    order :=
      39402006196394479212279040100143613805079739270465446667946905279627659399113263569398956308152294913554433653942643
    baseX :=
      26247035095799689268623156744566981891852923491109213387815615900925518854738050089022388053975719786650872476732087
    baseY :=
      8325710961489029985546751289520108179287853048861315594709205902480503199884419224438643760392947333078086511627871
    hash := .sha384 }
  | .p521 => {
    prime := Nat.pow 2 521 - 1
    order :=
      6864797660130609714981900799081393217269435300143305409394463459185543183397655394245057746333217197532963996371363321113864768612440380340372808892707005449
    baseX :=
      2661740802050217063228768716723360960729859168756973147706671368418802944996427808491545080627771902352094241225065558662157113545570916814161637315895999846
    baseY :=
      3757180025770020463545507224491183603594455134769762486694567779615544477440556316691234405012945539562144444537289428522585666729196580810124344277578376784
    hash := .sha512 }

-- The affine coordinates are `x / z²` and `y / z³`, and the point at infinity has `z = 0`.
structure Point where
  x : Nat
  y : Nat
  z : Nat
  deriving DecidableEq, Repr

def Point.infinity : Point := ⟨1, 1, 0⟩

def double (p : Nat) (point : Point) : Point :=
  let delta := point.z * point.z % p
  let gamma := point.y * point.y % p
  let beta := point.x * gamma % p
  let alpha := 3 * subMod p point.x delta * (point.x + delta) % p
  let x := subMod p (alpha * alpha) (8 * beta)
  let z := 2 * point.y * point.z % p
  ⟨x, subMod p (alpha * subMod p (4 * beta) x) (8 * gamma * gamma), z⟩

def add (p : Nat) (left right : Point) : Point :=
  if left.z = 0 then right
  else if right.z = 0 then left
  else
    let leftZ := left.z * left.z % p
    let rightZ := right.z * right.z % p
    let leftX := left.x * rightZ % p
    let rightX := right.x * leftZ % p
    let leftY := left.y * right.z % p * rightZ % p
    let rightY := right.y * left.z % p * leftZ % p
    let h := subMod p rightX leftX
    let r := subMod p rightY leftY
    if h = 0 then if r = 0 then double p left else .infinity
    else
      let square := h * h % p
      let cube := square * h % p
      let v := leftX * square % p
      let x := subMod p (r * r) (cube + 2 * v)
      ⟨x, subMod p (r * subMod p v x) (leftY * cube), left.z * right.z % p * h % p⟩

def multiply (p scalar : Nat) (point : Point) : Point :=
  if scalar = 0 then .infinity
  else
    let half := multiply p (scalar / 2) (double p point)
    if scalar % 2 = 1 then add p half point else half
termination_by scalar

def affineX (p : Nat) (point : Point) : Nat :=
  let inverse := invMod p point.z
  point.x * (inverse * inverse % p) % p

structure Signature where
  r : Nat
  s : Nat
  deriving DecidableEq, Repr

def signWith (curve : Parameters) (scalar hashed nonce : Nat) : Option Signature :=
  let point := multiply curve.prime nonce ⟨curve.baseX, curve.baseY, 1⟩
  let r := affineX curve.prime point % curve.order
  let s := invMod curve.order nonce * ((hashed + r * scalar) % curve.order) % curve.order
  if r = 0 ∨ s = 0 then none else some ⟨r, s⟩

def sign? (curve : Parameters) (scalar : Nat) (message : Bytes) : Option Signature :=
  if scalar = 0 ∨ scalar ≥ curve.order then none
  else
    let digest := curve.hash.digest message
    let hashed := leadingBits curve.order digest % curve.order
    let size := (bitLength curve.order + 7) / 8
    let seed := Bytes.ofNat size scalar ++ Bytes.ofNat size hashed
    firstNonce curve.hash curve.order (signWith curve scalar hashed) 64
      (NonceState.start curve.hash seed)

end SoleKey.Crypto.Ecdsa
