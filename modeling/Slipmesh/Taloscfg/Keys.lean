import Slipmesh.Common.Keys

/-! `taloscfg::keys`: the curve the keys are on, and the texts made with it. -/

namespace Slipmesh.Taloscfg
open Common

/-- What the keys rest on: the base64 engine, and X25519's public key of a secret. -/
structure Curve where
  engine : Engine
  publicKey : Key → Key

/-- The text of the secret that was drawn. -/
def generatePrivateKey (curve : Curve) (secret : Key) : String := encodeKey curve.engine secret

def publicKeyFromPrivate (curve : Curve) (privateB64 : String) : Except KeyError String := do
  let secret ← decodeKey curve.engine privateB64
  return encodeKey curve.engine (curve.publicKey secret)

end Slipmesh.Taloscfg
